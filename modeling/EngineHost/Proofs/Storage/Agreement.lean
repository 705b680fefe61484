import EngineHost.Proofs.Storage.Handle
import EngineHost.Proofs.Storage.OnDisk
import EngineHost.Proofs.Tree.Quota

/-!
# The two storages answer alike

A new file in memory and a new file on a disk answer the calls of their holders in the same way, as
a list of bytes does, while others change anything but the two files.

* `Storage.memory_step`, `Storage.onDisk_step` : one call, on a file of which the bytes are known.
* `Storage.memory_of_makesFile`, `Storage.onDisk_of_makesFile` : a new file holds no bytes.
* `Storage.answers_agree` : any calls, on two new files.

They part where nothing is written past the end of a file (`Storage.answers_part`): the file in
memory grows up to the offset, the one on the disk stays as it is.
-/

namespace EngineHost

open HandleCall

theorem map_ok {ε σ α β : Type} {x : EStateM ε σ α} {s s' : σ} {a : α} (h : x s = .ok a s')
    (f : α → β) : (f <$> x) s = .ok (f a) s' := by
  simp only [Functor.map, EStateM.map, h]

/-! ### In memory -/

namespace Tree

/-- What others may do beside a file: anything that leaves its bytes. -/
def Beside (i : Inode) (t t' : Tree) : Prop := Steps t t' ∧ t'.bytes? i = t.bytes? i

/-- Others leave a file alone, and the quota has room for it as the call leaves it. -/
def Fair (quota : UInt64) (i : Inode) (t : Tree) (u : HandleTurn Tree) : Prop :=
  Beside i t (u.others t) ∧
    (u.others t).totalBut i + u.call.lengthAfter ((u.others t).lengthAt i) ≤ quota.toNat

/-- A file of a tree has the given bytes. -/
structure Holds (quota : UInt64) (i : Inode) (t : Tree) (l : List UInt8) : Prop where
  accounted : t.Accounted quota
  bytes : t.bytes? i = some l

variable {t t' : Tree} {quota : UInt64} {i : Inode} {l : List UInt8} {a : Allocator}

theorem Holds.beside (h : Holds quota i t l) (ht : Beside i t t') : Holds quota i t' l :=
  ⟨Steps.keeps Step.accounted ht.1 h.accounted, ht.2.trans h.bytes⟩

end Tree

namespace Storage

open EngineHost.Tree

variable {a : Allocator} {t t' : Tree} {quota : UInt64} {x : MemoryAccess} {l : List UInt8}
  {c : HandleCall}

/-- **One call in memory**, on a file of which the bytes are known. -/
theorem memory_step (hgrants : ∀ n ≤ quota.toNat, a.grants n = true) (hopen : x.closed = false)
    (hl : Holds quota x.inode t l) (hrange : c.InRange)
    (hroom : t.totalBut x.inode + c.lengthAfter (t.lengthAt x.inode) ≤ quota.toNat) :
    ∃ t', c.perform (memory a) x t = .ok (c.answer l) t' ∧
      Holds quota x.inode t' (c.after l) := by
  obtain ⟨data, b, hi, rfl⟩ := bytes?_eq_some_iff.1 hl.bytes
  have hdata : t.data x.inode = .ok data := data_ok_iff.2 ⟨b, hi⟩
  have hreserves : ∀ length, length < 0x8000000000000000 →
      t.totalBut x.inode + length ≤ quota.toNat →
      a.reserves (t.totalBut x.inode) length = true := by
    intro length hlong hfits
    rw [Allocator.reserves, hgrants _ hfits, Bool.and_true, decide_eq_true_eq, Allocator.longest]
    omega
  cases c with
  | read count offset =>
    refine ⟨t, ?_, hl⟩
    rw [HandleCall.answer, ← Content.slice_eq]
    exact map_ok (memory_read_ok_iff.2 ⟨hopen, ⟨data, hdata, rfl⟩, rfl⟩) _
  | write bytes offset =>
    have hstop : offset.toNat + bytes.length < 0x8000000000000000 := hrange
    have hfits : t.totalBut x.inode + (offset.toNat + bytes.length) ≤ quota.toNat :=
      (Nat.add_le_add_left (Nat.le_max_right _ _) _).trans hroom
    obtain ⟨n, t', hok⟩ := (hl.accounted.write_ok_iff a hopen hi bytes offset).2 fun _ =>
      ⟨hfits, by rw [wordLimit]; omega, hreserves _ hstop hfits⟩
    obtain ⟨-, hwrite, rfl⟩ := memory_write_ok_iff.1 hok
    obtain ⟨l', hl', hsets⟩ := setsBytes_write hwrite
    obtain rfl : data.toList = l' := Option.some.inj (hl.bytes.symm.trans hl')
    exact ⟨t', map_ok hok _, Steps.keeps Step.accounted (steps_write hwrite) hl.accounted,
      by rw [hsets.2, if_pos rfl]; rfl⟩
  | truncate length =>
    obtain ⟨u, t', hok⟩ := (hl.accounted.truncate_ok_iff a hopen hi length).2 fun _ =>
      ⟨hroom, hreserves _ hrange hroom⟩
    obtain ⟨-, hresize⟩ := memory_truncate_ok_iff.1 hok
    obtain ⟨l', hl', hsets⟩ := setsBytes_resize hresize
    obtain rfl : data.toList = l' := Option.some.inj (hl.bytes.symm.trans hl')
    exact ⟨t', map_ok hok _, Steps.keeps Step.accounted (steps_resize hresize) hl.accounted,
      by rw [hsets.2, if_pos rfl]; rfl⟩
  | flush => exact ⟨t, map_ok (memory_flush_of_open hopen t) _, hl⟩
  | size =>
    refine ⟨t, ?_, hl⟩
    rw [HandleCall.answer, Content.length_toList]
    exact map_ok (memory_size_ok_iff.2 ⟨hopen, ⟨data, hdata, rfl⟩, rfl⟩) _

/-- A new file in memory holds no bytes. -/
theorem memory_of_makesFile {d : Inode} {name : String} (ht : t.Accounted quota)
    (h : (memory a).MakesFile d name t x t') :
    x.closed = false ∧ Holds quota x.inode t' [] := by
  obtain ⟨hmissing, f, t₁, hfile, hacquire⟩ := h
  obtain ⟨hname, hfile⟩ := memory_file_ok_iff.1 hfile
  obtain ⟨hlock, rfl⟩ := memory_acquire_ok_iff.1 hacquire
  have hsteps : Steps t t' := (steps_lookupOrCreate hname hfile).trans (steps_lock hlock)
  obtain ⟨children, hd, ⟨hl, hn, -⟩ | ⟨-, -, rfl, rfl⟩⟩ := lookupOrCreate_ok_iff.1 hfile
  · -- a file that is there is found without being made
    have hfound : (memory a).file d name false t = .ok f t := memory_file_ok_iff.2
      ⟨hname, lookupOrCreate_ok_iff.2 ⟨children, hd, .inl ⟨hl, hn, rfl⟩⟩⟩
    rw [hmissing] at hfound
    cases hfound
  · obtain ⟨data, hi, rfl⟩ := lock_ok_iff.1 hlock
    refine ⟨rfl, Steps.keeps Step.accounted hsteps ht, ?_⟩
    have hnew := hi
    rw [node?_linked hd, if_pos rfl] at hnew
    cases hnew
    exact bytes?_of_file (b := true) (by rw [node?_setNode hi, if_pos rfl])

end Storage

/-! ### On a disk -/

namespace System

/-- Others leave the bytes of the file of a handle alone. -/
def Fair (y : DiskAccess) (w : System) (u : HandleTurn System) : Prop :=
  ∀ id ∈ y.file, (u.others w).disk.contentOf id = w.disk.contentOf id

/-- The file of a handle is open and has the given bytes. -/
def Holds (y : DiskAccess) (w : System) (l : List UInt8) : Prop :=
  ∃ id ∈ y.file, ∃ i data, w.disk.contentOf id = .ok (i, data) ∧ data.toList = l

variable {y : DiskAccess} {w : System} {u : HandleTurn System} {l : List UInt8}

theorem Holds.beside (h : w.Holds y l) (hu : w.Fair y u) : (u.others w).Holds y l := by
  obtain ⟨id, hid, i, data, hdata, hl⟩ := h
  exact ⟨id, hid, i, data, (hu id hid).trans hdata, hl⟩

end System

namespace Storage

open Disk

variable {root : String} {w w' : System} {y : DiskAccess} {l : List UInt8} {c : HandleCall}

/-- **One call on a disk**, on an open file of which the bytes are known. -/
theorem onDisk_step (root : String) (hl : w.Holds y l) (hrange : c.InRange) :
    ∃ w', c.perform (onDisk root) y w = .ok (c.answer l) w' ∧ w'.Holds y (c.afterOnDisk l) := by
  obtain ⟨id, hfile, i, data, hdata, rfl⟩ := hl
  cases c with
  | read count offset =>
    refine ⟨w, ?_, id, hfile, i, data, hdata, rfl⟩
    rw [HandleCall.answer, ← Content.slice_eq]
    exact map_ok (onDisk_read_ok hfile (read_eq hdata hrange)) _
  | write bytes offset =>
    cases bytes with
    | nil =>
      exact ⟨_, map_ok (onDisk_write_ok hfile (write_nil hdata hrange)) _, id, hfile, i, data,
        hdata, rfl⟩
    | cons b bytes =>
      obtain ⟨data', hwrite, hdata'⟩ := write_eq hdata (List.cons_ne_nil b bytes) hrange
      exact ⟨_, map_ok (onDisk_write_ok hfile hwrite) _, id, hfile, i, data',
        contentOf_setNode hdata data', hdata'⟩
  | truncate length =>
    exact ⟨_, map_ok (onDisk_truncate_ok hfile (setLength_eq hdata hrange)) _, id, hfile, i,
      _, contentOf_setNode hdata _, Content.toList_resize_eq_fit ..⟩
  | flush => exact ⟨w, map_ok (onDisk_flush_ok hfile hdata) _, id, hfile, i, data, hdata, rfl⟩
  | size =>
    refine ⟨w, ?_, id, hfile, i, data, hdata, rfl⟩
    rw [HandleCall.answer, Content.length_toList]
    exact map_ok (onDisk_size_ok hfile (length_eq hdata)) _

/-- A new file on a disk holds no bytes. -/
theorem onDisk_of_makesFile {d : DiskPath} {name : String}
    (h : (onDisk root).MakesFile d name w y w') : w'.Holds y [] := by
  obtain ⟨hmissing, f, w₁, hfile, hacquire⟩ := h
  obtain ⟨hname, rfl, ⟨hkind, -⟩ | ⟨-, ⟨e, hkind, -⟩, i, disk, hmade, rfl⟩⟩ :=
    onDisk_file_ok_iff.1 hfile
  · -- a file that is there is found without being made
    have hfound : (onDisk root).file d name false w = .ok (d ++ [name]) w :=
      onDisk_file_ok_iff.2 ⟨hname, rfl, .inl ⟨hkind, rfl⟩⟩
    rw [hmissing] at hfound
    cases hfound
  · obtain ⟨-, id, opened, locked, hopen, hlock, rfl, rfl⟩ := onDisk_acquire_ok hacquire
    -- the path has a route, or nothing would have been made
    have hroute : routeOf (d ++ [name]) = .ok (.child d name) := by
      obtain ⟨r, hr, -⟩ := except_bind_ok_iff.1 hmade
      rw [routeOf] at hr ⊢
      split_ifs at hr ⊢
      rfl
    simp only [hroute, bind, Except.bind] at hkind hmade hopen
    obtain ⟨⟨trail, htrail, rfl⟩, hnode⟩ :=
      createFile_of_missing hname (fun kind h => by rw [hkind] at h; cases h) hmade
    have hcontent := contentOf_tryLock (contentOf_openFile htrail hnode hopen) hlock
    exact ⟨id, rfl, trail.node, .empty, hcontent, Content.toList_empty⟩

/-! ### Both -/

variable {a : Allocator} {quota : UInt64} {t₀ t : Tree} {x : MemoryAccess} {d : Inode}
  {name name' : String} {w₀ : System} {above : DiskPath}

theorem memory_answers (hgrants : ∀ n ≤ quota.toNat, a.grants n = true) (ht : t₀.Accounted quota)
    (hx : (memory a).MakesFile d name t₀ x t) {us : List (HandleTurn Tree)}
    (hrange : ∀ u ∈ us, u.call.InRange)
    (hfair : (memory a).Throughout x (Tree.Fair quota x.inode) us t) :
    (memory a).answers x us t =
      (answersFrom HandleCall.after [] (us.map HandleTurn.call)).map .ok := by
  obtain ⟨hopen, hempty⟩ := memory_of_makesFile ht hx
  refine answers_eq ?_ hempty hfair hrange
  exact fun hl hu hrange => memory_step hgrants hopen (hl.beside hu.1) hrange hu.2

theorem onDisk_answers (hy : (onDisk root).MakesFile above name w₀ y w)
    {vs : List (HandleTurn System)} (hrange : ∀ v ∈ vs, v.call.InRange)
    (hfair : (onDisk root).Throughout y (System.Fair y) vs w) :
    (onDisk root).answers y vs w =
      (answersFrom afterOnDisk [] (vs.map HandleTurn.call)).map .ok := by
  refine answers_eq ?_ (onDisk_of_makesFile hy) hfair hrange
  exact fun hl hv hrange => onDisk_step root (hl.beside hv) hrange

/-- **The two storages answer alike.**  On a new file in memory and a new file on a disk, the same
calls get the same answers, those of a list of bytes, as long as others leave the two files alone,
everything stays below `2 ^ 63` and within the quota, and a write of no bytes starts no further than
the end of the file. -/
theorem answers_agree (hgrants : ∀ n ≤ quota.toNat, a.grants n = true) (ht : t₀.Accounted quota)
    (hx : (memory a).MakesFile d name t₀ x t) (hy : (onDisk root).MakesFile above name' w₀ y w)
    {calls : List HandleCall} (hrange : ∀ c ∈ calls, c.InRange) (htouch : AllTouch [] calls)
    {us : List (HandleTurn Tree)} (hus : us.map HandleTurn.call = calls)
    (hmemory : (memory a).Throughout x (Tree.Fair quota x.inode) us t)
    {vs : List (HandleTurn System)} (hvs : vs.map HandleTurn.call = calls)
    (hdisk : (onDisk root).Throughout y (System.Fair y) vs w) :
    (memory a).answers x us t = (answersFrom HandleCall.after [] calls).map .ok ∧
      (onDisk root).answers y vs w = (answersFrom HandleCall.after [] calls).map .ok := by
  constructor
  · subst hus
    exact memory_answers hgrants ht hx (fun u hu => hrange u.call (List.mem_map_of_mem hu)) hmemory
  · subst hvs
    rw [onDisk_answers hy (fun v hv => hrange v.call (List.mem_map_of_mem hv)) hdisk,
      answersFrom_afterOnDisk htouch]

/-- A write of no bytes past the end of a new file makes it longer in memory, and leaves it as it
is on a disk. -/
theorem answers_part (hgrants : ∀ n ≤ quota.toNat, a.grants n = true) (ht : t₀.Accounted quota)
    (hx : (memory a).MakesFile d name t₀ x t) (hy : (onDisk root).MakesFile above name' w₀ y w)
    {offset : UInt64} (hrange : offset.toNat < 0x8000000000000000) {us : List (HandleTurn Tree)}
    (hus : us.map HandleTurn.call = [.write [] offset, .size])
    (hmemory : (memory a).Throughout x (Tree.Fair quota x.inode) us t)
    {vs : List (HandleTurn System)} (hvs : vs.map HandleTurn.call = [.write [] offset, .size])
    (hdisk : (onDisk root).Throughout y (System.Fair y) vs w) :
    (memory a).answers x us t = [.ok (.written 0), .ok (.size offset.toNat)] ∧
      (onDisk root).answers y vs w = [.ok (.written 0), .ok (.size 0)] := by
  have hcalls : ∀ c ∈ [HandleCall.write [] offset, .size], c.InRange := by
    simpa [InRange] using hrange
  constructor
  · rw [memory_answers hgrants ht hx (fun u hu => hcalls _ (hus ▸ List.mem_map_of_mem hu)) hmemory,
      hus]
    simp [answersFrom, HandleCall.answer, HandleCall.after, Bytes.patch]
  · rw [onDisk_answers hy (fun v hv => hcalls _ (hvs ▸ List.mem_map_of_mem hv)) hdisk, hvs]
    rfl

/-! ### New files of an empty tree and an empty disk -/

/-- A disk with nothing but its root. -/
def bareSystem : System := ⟨⟨[.directory []], [], 0, []⟩, []⟩

/-- The tree after a file was made in its root, and opened. -/
def oneFile : Tree :=
  ⟨[some (.directory [("x", 1)]), some (.file .empty true)], Tree.defaultQuota, 0⟩

/-- The disk after a file was made in its root, and opened. -/
def oneFileSystem : System :=
  ⟨⟨[.directory [("x", 1)], .file .empty], [(0, ⟨1, true⟩)], 1, []⟩, [["x"]]⟩

theorem makesFile_oneFile :
    (memory .addressSpace).MakesFile Tree.rootInode "x" (.empty Tree.defaultQuota) ⟨1, false⟩
      oneFile :=
  ⟨rfl, show Inode from 1, _, rfl, rfl⟩

theorem makesFile_oneFileSystem :
    (onDisk "/").MakesFile [] "x" bareSystem ⟨["x"], some 0⟩ oneFileSystem :=
  ⟨rfl, ["x"], _, rfl, rfl⟩

theorem addressSpace_grants (n : Nat) (h : n ≤ Tree.defaultQuota.toNat) :
    Allocator.addressSpace.grants n = true := by
  have hquota : Tree.defaultQuota.toNat = 2147483648 := rfl
  exact decide_eq_true (by omega : n < 0x800000000000)

/-- Calls with nobody between them. -/
def undisturbed {σ : Type} (calls : List HandleCall) : List (HandleTurn σ) := calls.map (⟨id, ·⟩)

theorem answers_agree_oneFile :
    (memory .addressSpace).answers ⟨1, false⟩ (undisturbed [.write [7] 2, .read 9 1]) oneFile =
        [.ok (.written 1), .ok (.chunk ⟨2, [0, 7]⟩)] ∧
      (onDisk "/").answers ⟨["x"], some 0⟩ (undisturbed [.write [7] 2, .read 9 1])
        oneFileSystem = [.ok (.written 1), .ok (.chunk ⟨2, [0, 7]⟩)] := by
  have hrange : ∀ c ∈ [HandleCall.write [7] 2, .read 9 1], c.InRange := by decide
  refine answers_agree addressSpace_grants (Tree.accounted_empty _) makesFile_oneFile
    makesFile_oneFileSystem hrange ?_ rfl ?_ rfl ?_
  · exact ⟨nofun, nofun, trivial⟩
  · refine ⟨⟨⟨.refl, rfl⟩, ?_⟩, ⟨⟨.refl, rfl⟩, ?_⟩, trivial⟩
    · decide +kernel
    · decide +kernel
  · exact ⟨fun _ _ => rfl, fun _ _ => rfl, trivial⟩

/-- All is as in `answers_agree`, but nothing is written past the end of the file: the lengths that
the two files answer differ. -/
theorem lengths_part_oneFile :
    ((memory .addressSpace).MakesFile Tree.rootInode "x" (.empty Tree.defaultQuota) ⟨1, false⟩
        oneFile ∧
      (onDisk "/").MakesFile [] "x" bareSystem ⟨["x"], some 0⟩ oneFileSystem) ∧
    (∀ c ∈ [HandleCall.write [] 5, .size], c.InRange) ∧
    ((memory .addressSpace).Throughout ⟨1, false⟩ (Tree.Fair Tree.defaultQuota 1)
        (undisturbed [.write [] 5, .size]) oneFile ∧
      (onDisk "/").Throughout ⟨["x"], some 0⟩ (System.Fair ⟨["x"], some 0⟩)
        (undisturbed [.write [] 5, .size]) oneFileSystem) ∧
    (memory .addressSpace).answers ⟨1, false⟩ (undisturbed [.write [] 5, .size]) oneFile =
        [.ok (.written 0), .ok (.size 5)] ∧
      (onDisk "/").answers ⟨["x"], some 0⟩ (undisturbed [.write [] 5, .size]) oneFileSystem =
        [.ok (.written 0), .ok (.size 0)] := by
  have hmemory : (memory .addressSpace).Throughout ⟨1, false⟩ (Tree.Fair Tree.defaultQuota 1)
      (undisturbed [.write [] 5, .size]) oneFile := by
    refine ⟨⟨⟨.refl, rfl⟩, ?_⟩, ⟨⟨.refl, rfl⟩, ?_⟩, trivial⟩
    · decide +kernel
    · decide +kernel
  have hdisk : (onDisk "/").Throughout ⟨["x"], some 0⟩ (System.Fair ⟨["x"], some 0⟩)
      (undisturbed [.write [] 5, .size]) oneFileSystem :=
    ⟨fun _ _ => rfl, fun _ _ => rfl, trivial⟩
  have hoffset : (5 : UInt64).toNat < 0x8000000000000000 := by decide
  exact ⟨⟨makesFile_oneFile, makesFile_oneFileSystem⟩, by decide, ⟨hmemory, hdisk⟩,
    answers_part addressSpace_grants (Tree.accounted_empty _) makesFile_oneFile
      makesFile_oneFileSystem hoffset rfl hmemory rfl hdisk⟩

end Storage

end EngineHost

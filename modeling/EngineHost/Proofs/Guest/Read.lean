import EngineHost.Guest.Imports
import EngineHost.Proofs.Bridge.Descriptors
import EngineHost.Proofs.Bridge.InMemory

/-!
# What reading does to a guest

Reading puts bytes of a file into a stretch of the guest's memory.  It puts there as many as it
answers, and touches nothing else.

* `Content.getElem?_overlay` : what stands at every place after bytes were laid over a content.
* `Guest.read_of_reaches` : a read into a stretch of memory is one of the bridge, the bytes of which
  are stored.  Other reads are refused (`Guest.read_of_negative`, `Guest.read_of_not_reaches`).
* `Guest.read_memory` : the whole of it for a file of the storage in memory.
* `Guest.run_read` : which bytes of a guest a read changes.
-/

namespace EngineHost

variable {σ : Type} {S : Storage σ}

/-- Nothing laid over a content leaves it. -/
theorem Content.overlay_nil (c : Content) (start : Nat) : c.overlay start [] = c := by
  rw [overlay, List.isEmpty_nil, if_pos rfl]

/-- What stands behind bytes that are laid over a content. -/
theorem Content.getElem?_overlay {c : Content} {start : Nat} {data : List UInt8}
    (h : start + data.length ≤ c.length) (j : Nat) :
    (c.overlay start data).toList[j]? =
      if start ≤ j ∧ j < start + data.length then data[j - start]? else c.toList[j]? := by
  have hstart : (c.toList.take start).length = start := by
    rw [List.length_take, length_toList]
    omega
  rw [toList_overlay, List.append_assoc, List.getElem?_append, List.getElem?_append, hstart,
    List.getElem?_take, List.getElem?_drop]
  by_cases hbefore : j < start
  · rw [if_pos hbefore, if_pos hbefore, if_neg (by omega)]
  · rw [if_neg hbefore]
    by_cases hbehind : j < start + data.length
    · rw [if_pos (by omega), if_pos (by omega)]
    · rw [if_neg (by omega), if_neg (by omega)]
      congr 1
      omega

namespace LinearMemory

variable {m m' : LinearMemory} {address : Nat} {bytes : List UInt8}

theorem store_eq_some_iff :
    m.store address bytes = some m' ↔ address + bytes.length ≤ m.size ∧
      m' = { m with data := m.data.overlay address bytes } := by
  simp [store, holds, eq_comm]

theorem load_eq_none_iff {count : Nat} :
    m.load address count = none ↔ m.size < address + count := by
  simp [load, holds]

end LinearMemory

namespace Guest

variable {g : Guest S} {s : σ} {m : LinearMemory} {fd pointer length : Int32} {offset : Int64}

/-! ### Reading over any storage -/

theorem memory_of_reachable (h : g.reachable = some m) : g.memory = some m := by
  rw [reachable] at h
  split at h
  · exact h
  · cases h

theorem put_of_fits (hm : g.memory = some m) {bytes : List UInt8}
    (hin : unsigned pointer + bytes.length ≤ m.size) :
    g.put pointer bytes =
      { g with memory := some { m with data := m.data.overlay (unsigned pointer) bytes } } := by
  simp only [put, hm, LinearMemory.store_eq_some_iff.2 ⟨hin, rfl⟩, Option.getD_some]

theorem offset?_of_neg (h : offset < 0) : offset? offset = none := if_pos h

theorem offset?_of_nonneg (h : 0 ≤ offset) : offset? offset = some offset.toUInt64 :=
  if_neg (by simpa using h)

/-- An offset that is not negative as an unsigned number. -/
theorem toNat_offset (h : 0 ≤ offset) : offset.toUInt64.toNat = offset.toInt.toNat := by
  rw [Int64.toNat_toUInt64_of_le h, Int64.toNat_toInt]

/-- A negative offset is refused before anything else is looked at. -/
theorem read_of_negative (h : offset < 0) (fd pointer length : Int32) (g : Guest S) (s : σ) :
    read fd pointer length offset (g, s) = (-10, g, s) := by
  simp only [read, offset?_of_neg h]
  rfl

/-- The stretch that a read is given lies in the memory that the imports reach. -/
def Reaches (g : Guest S) (pointer length : Int32) (m : LinearMemory) : Prop :=
  g.reachable = some m ∧ unsigned pointer + unsigned length ≤ m.size

theorem bytesAt_of_reaches (hm : g.Reaches pointer length m) :
    g.bytesAt pointer length = .ok (m.data.slice (unsigned pointer) (unsigned length)) := by
  obtain ⟨hreach, hin⟩ := hm
  simp only [bytesAt, hreach, LinearMemory.load, LinearMemory.holds, decide_eq_true hin, if_true]

/-- Where there are no bytes, it is not for what they are. -/
theorem bytesAt_of_not_reaches (hnone : ∀ m, ¬ g.Reaches pointer length m) :
    ∃ e, e ≠ .notUtf8 ∧ g.bytesAt pointer length = .error e := by
  rw [bytesAt]
  cases hm : g.reachable with
  | none => exact ⟨.noMemory, nofun, rfl⟩
  | some m =>
    have hout : m.load (unsigned pointer) (unsigned length) = none :=
      LinearMemory.load_eq_none_iff.2 (Nat.not_le.1 fun hin => hnone m ⟨hm, hin⟩)
    exact ⟨.outOfRange, nofun, by simp only [hout]⟩

/-- A read into no such stretch is refused, and does nothing. -/
theorem read_of_not_reaches (h : 0 ≤ offset) (hnone : ∀ m, ¬ g.Reaches pointer length m)
    (fd : Int32) (s : σ) : read fd pointer length offset (g, s) = (-1, g, s) := by
  obtain ⟨e, -, he⟩ := bytesAt_of_not_reaches hnone
  simp only [read, offset?_of_nonneg h, he]
  rfl

/-- A read into a stretch of the memory asks the bridge, and stores what it read. -/
theorem read_of_reaches (h : 0 ≤ offset) (hm : g.Reaches pointer length m) (fd : Int32) (s : σ) :
    let r := Bridge.read fd.toInt (List.replicate (unsigned length) 0) offset.toUInt64 (g.bridge, s)
    read fd pointer length offset (g, s) =
      (r.1.1, if 0 < r.1.1 then put { g with bridge := r.2.1 } pointer (r.1.2.take r.1.1.toNat)
        else { g with bridge := r.2.1 }, r.2.2) := by
  simp only [read, offset?_of_nonneg h, bytesAt_of_reaches hm]
  rfl

/-- A descriptor that is not open answers `-1`. -/
theorem read_of_unopened (h : 0 ≤ offset) (hm : g.Reaches pointer length m)
    (hfd : g.bridge.file? fd.toInt = none) (s : σ) :
    read fd pointer length offset (g, s) = (-1, g, s) := by
  have hread : Bridge.read fd.toInt (List.replicate (unsigned length) 0) offset.toUInt64
      (g.bridge, s) = ((-1, List.replicate (unsigned length) 0), g.bridge, s) := by
    simp only [Bridge.read, bind, EStateM.bind, Bridge.requireFile, hfd]
    rfl
  rw [read_of_reaches h hm, hread]
  rfl

/-- **What is refused does nothing**: a negative offset, a stretch that is not in a memory, and a
descriptor that is not open. -/
theorem read_refused (h : offset.toInt < 0 ∨ (∀ m, ¬ g.Reaches pointer length m) ∨
    g.bridge.file? fd.toInt = none) (s : σ) :
    ∃ n, n < 0 ∧ read fd pointer length offset (g, s) = (n, g, s) := by
  by_cases hneg : offset < 0
  · exact ⟨-10, by decide, read_of_negative hneg fd pointer length g s⟩
  have hoffset : 0 ≤ offset := Int64.not_lt.1 hneg
  by_cases hreach : ∃ m, g.Reaches pointer length m
  · obtain ⟨m, hm⟩ := hreach
    rcases h with h | h | h
    · exact absurd (Int64.lt_iff_toInt_lt.2 h) hneg
    · exact absurd hm (h m)
    · exact ⟨-1, by decide, read_of_unopened hoffset hm h s⟩
  · exact ⟨-1, by decide, read_of_not_reaches hoffset (not_exists.1 hreach) fd s⟩

/-- What stands in a memory after a part of a file was laid over it. -/
theorem getElem?_stored {l : List UInt8} {start address n : Nat} (hn : n ≤ l.length - start)
    (hin : address + n ≤ m.size) (j : Nat) :
    (m.data.overlay address ((l.drop start).take n)).toList[j]? =
      if address ≤ j ∧ j < address + n then l[start + (j - address)]? else m.data.toList[j]? := by
  have hlength : ((l.drop start).take n).length = n := by
    rw [List.length_take, List.length_drop]
    omega
  rw [Content.getElem?_overlay (by rw [hlength]; exact hin), hlength]
  split_ifs with hj
  · rw [List.getElem?_take, if_pos (by omega), List.getElem?_drop]
  · rfl

/-! ### Reading from the storage in memory -/

open EngineHost.Tree

variable {a : Allocator} {t : Tree} {g : Guest (Storage.memory a)}
  {file : OpenFile (Storage.memory a)} {l : List UInt8}

/-- **Reading a file puts as many bytes of it into the memory as it answers.** -/
theorem read_memory (h : 0 ≤ offset) (hm : g.Reaches pointer length m)
    (hfd : g.bridge.file? fd.toInt = some file) (hopen : MemoryAccess.closed file.handle = false)
    (hl : t.bytes? (MemoryAccess.inode file.handle) = some l) {n : Nat}
    (hn : n = min (min (unsigned length) (l.length - offset.toInt.toNat)) 0x7fffffff) :
    read fd pointer length offset (g, t) =
      ((n : Int), { g with memory := some { m with
        data := m.data.overlay (unsigned pointer) ((l.drop offset.toInt.toNat).take n) } }, t) := by
  have hread := Bridge.read_memory hfd hopen hl (List.replicate (unsigned length) 0)
    offset.toUInt64
  rw [toNat_offset h] at hread
  generalize hfound : l.extract offset.toInt.toNat (min (offset.toInt.toNat +
    (List.replicate (unsigned length) (0 : UInt8)).length) l.length) = found at hread
  have hlength : found.length = min (unsigned length) (l.length - offset.toInt.toNat) := by
    rw [← hfound, List.extract_eq_take_drop, List.length_take, List.length_drop,
      List.length_replicate]
    omega
  have hcount : Status.ofCount found.length = (n : Int) := by
    rw [Status.ofCount, hlength]
    omega
  have hbytes : (found ++ (List.replicate (unsigned length) 0).drop found.length).take n =
      (l.drop offset.toInt.toNat).take n := by
    rw [List.take_append_of_le_length (by omega), ← hfound, List.extract_eq_take_drop,
      List.take_take, List.length_replicate]
    congr 1
    omega
  have hmemory : g.memory = some m := memory_of_reachable hm.1
  rw [read_of_reaches h hm]
  simp only [hread, hcount, Int.toNat_natCast, hbytes]
  split_ifs with hpos
  · have hin : unsigned pointer + ((l.drop offset.toInt.toNat).take n).length ≤ m.size := by
      have := hm.2
      rw [List.length_take]
      omega
    rw [put_of_fits hmemory hin]
  · have hzero : n = 0 := by omega
    rw [hzero, List.take_zero, Content.overlay_nil, ← hmemory]

/-- **Reading touches the bytes that it reports and no others.**  Whatever the guest's memory is and
whatever happened before on the bridges over the storage in memory, `isar_opfs_read` leaves the
storage, the bridge and all else of the guest but its memory as they are:

* when what it answers is 0 or negative, the memory too;
* when it answers a count, the memory holds that many bytes of the file, those from the offset on,
  from the pointer on, and every other byte is as it was;
* the count is the least of the length of the buffer, of what there is of the file from the offset
  on and of the greatest count there is, where the offset lies in the file;
* it fails just when the offset is negative, the buffer does not lie in a memory that the imports
  reach, or the descriptor is not open.
-/
theorem run_read (a : Allocator) (quota : UInt64) (ops : List FleetOp) {k : Nat}
    {b : Bridge (Storage.memory a)}
    (hb : ((Fleet.start (Tree.empty quota)).run ops).bridges k = some b)
    (g : Guest (Storage.memory a)) (hg : g.bridge = b) (fd pointer length : Int32)
    (offset : Int64) :
    let f : Fleet (Storage.memory a) := (Fleet.start (Tree.empty quota)).run ops
    let r := read fd pointer length offset (g, f.store)
    (r.2.2 = f.store ∧ r.2.1 = { g with memory := r.2.1.memory }) ∧
    (r.1 ≤ 0 → r.2.1 = g) ∧
    (0 < r.1 → ∃ m m' i l, g.Reaches pointer length m ∧ r.2.1.memory = some m' ∧
      f.behind (.memory a) (k, fd.toInt) = some i ∧ f.store.bytes? i = some l ∧
      r.1 ≤ unsigned length ∧ 0 ≤ offset.toInt ∧ offset.toInt + r.1 ≤ l.length ∧
      m'.maxPages = m.maxPages ∧ ∀ j, m'.data.toList[j]? =
        if unsigned pointer ≤ j ∧ j < unsigned pointer + r.1.toNat
        then l[offset.toInt.toNat + (j - unsigned pointer)]? else m.data.toList[j]?) ∧
    (∀ m i l, g.Reaches pointer length m → f.behind (.memory a) (k, fd.toInt) = some i →
      f.store.bytes? i = some l → 0 ≤ offset.toInt → offset.toInt < l.length →
      r.1 = min (min (unsigned length : Int) (l.length - offset.toInt)) 0x7fffffff) ∧
    (r.1 < 0 ↔ offset.toInt < 0 ∨ (∀ m, ¬ g.Reaches pointer length m) ∨
      b.file? fd.toInt = none) := by
  intro f r
  have hf : f.Ready := Fleet.ready_run a quota ops
  have hbehind {i : Inode} (hi : f.behind (.memory a) (k, fd.toInt) = some i) :
      ∃ file, b.file? fd.toInt = some file ∧ MemoryAccess.inode file.handle = i := by
    rw [Fleet.behind_of_bridge hb] at hi
    exact Option.map_eq_some_iff.1 hi
  by_cases hrefused : offset.toInt < 0 ∨ (∀ m, ¬ g.Reaches pointer length m) ∨
    b.file? fd.toInt = none
  · obtain ⟨n, hn, hr⟩ := read_refused (hg ▸ hrefused) f.store
    have hr : r = (n, g, f.store) := hr
    rw [hr]
    refine ⟨⟨rfl, rfl⟩, fun _ => rfl, fun hpos => absurd hpos (by omega), ?_,
      iff_of_true hn hrefused⟩
    intro m i l hm hi hl hstart hstop
    obtain ⟨file, hfd, -⟩ := hbehind hi
    rcases hrefused with h | h | h
    · omega
    · exact absurd hm (h m)
    · rw [hfd] at h
      cases h
  · have hfails := hrefused
    rw [not_or, not_or, not_forall_not] at hrefused
    obtain ⟨hstart, ⟨m, hm⟩, hfile⟩ := hrefused
    obtain ⟨file, hfd⟩ := Option.ne_none_iff_exists'.1 hfile
    have hi : f.behind (.memory a) (k, fd.toInt) = some (MemoryAccess.inode file.handle) := by
      rw [Fleet.behind_of_bridge hb, hfd]
      rfl
    obtain ⟨_, _, l, -, -, -, -, hl⟩ := hf.file hi
    have hoffset : 0 ≤ offset := Int64.le_iff_toInt_le.2 (Int.not_lt.1 hstart)
    obtain ⟨n, hn⟩ : ∃ n,
        n = min (min (unsigned length) (l.length - offset.toInt.toNat)) 0x7fffffff := ⟨_, rfl⟩
    have hr : r = (_, _, f.store) :=
      read_memory hoffset hm (hg ▸ hfd) (hf.open_of_file? hb hfd) hl hn
    have hin := hm.2
    rw [hr]
    refine ⟨⟨rfl, rfl⟩, fun hzero => ?_, fun hpos => ?_, ?_, iff_of_false (by omega) hfails⟩
    · have hn0 : n = 0 := by omega
      rw [hn0, List.take_zero, Content.overlay_nil, ← memory_of_reachable hm.1]
    · refine ⟨m, _, _, l, hm, rfl, hi, hl, by omega, by omega, by omega, rfl, fun j => ?_⟩
      rw [Int.toNat_natCast]
      exact getElem?_stored (by omega) (by omega) j
    · intro m' i l' _ hi' hl' _ hstop
      rw [hi] at hi'
      cases hi'
      rw [hl] at hl'
      cases hl'
      omega

/-- The last two bytes of the greatest memory there can be are read into, by a pointer that is
negative as a signed number. -/
theorem run_read_last :
    let f : Fleet (Storage.memory .addressSpace) := (Fleet.start (Tree.empty 100)).run
      [.create 0, .act 0 .probe, .act 0 (.openFile "f" 1), .act 0 (.write 1 [1, 2, 3] 0)]
    let m : LinearMemory := .ofPages 65536 65536
    ∃ b, f.bridges 0 = some b ∧
      let r := read 1 (-2) 2 1 (⟨b, some m, true, []⟩, f.store)
      r.1 = 2 ∧ ∃ m', r.2.1.memory = some m' ∧ m'.data.toList[0xfffffffe]? = some 2 ∧
        m'.data.toList[0xffffffff]? = some 3 ∧
        ∀ j < 0xfffffffe, m'.data.toList[j]? = m.data.toList[j]? := by
  intro f m
  have hbridge : (f.bridges 0).map (fun b => b.nextFd) = some 2 := by decide +kernel
  obtain ⟨b, hb, -⟩ := Option.map_eq_some_iff.1 hbridge
  have hbehind : f.behind (.memory .addressSpace) (0, 1) = some (1 : Nat) := by decide +kernel
  have hbytes : f.store.bytes? 1 = some [1, 2, 3] := by decide +kernel
  have hpointer : unsigned (-2) = 0xfffffffe := by decide
  let g : Guest (Storage.memory .addressSpace) := ⟨b, some m, true, []⟩
  have hm : g.Reaches (-2) 2 m := ⟨rfl, by decide +kernel⟩
  obtain ⟨-, -, hstored, hcount, -⟩ := run_read .addressSpace 100 _ hb g rfl 1 (-2) 2 1
  have htwo : (read 1 (-2) 2 1 (g, f.store)).1 = 2 :=
    (hcount m _ _ hm hbehind hbytes (by decide) (by decide)).trans (by decide)
  obtain ⟨_, m', i, l, hm', hmemory, hi, hl, -, -, -, -, hstands⟩ :=
    hstored (by rw [htwo]; decide)
  obtain rfl : m = _ := Option.some.inj (hm.1.symm.trans hm'.1)
  obtain rfl : 1 = i := Option.some.inj (hbehind.symm.trans hi)
  obtain rfl : [1, 2, 3] = l := Option.some.inj (hbytes.symm.trans hl)
  rw [htwo, hpointer] at hstands
  refine ⟨b, hb, htwo, m', hmemory, (hstands _).trans (if_pos (by decide)),
    (hstands _).trans (if_pos (by decide)), fun j hj => ?_⟩
  exact (hstands j).trans (if_neg fun h => absurd hj (Nat.not_lt.2 h.1))

end Guest

end EngineHost

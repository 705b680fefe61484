import EngineHost.Proofs.Bridge.InMemory

/-!
# What the files of a fleet hold

A `Record` gives the bytes of every file as a plain list, and `Record.step` says what a step of a
fleet does to them: a write that succeeds patches the file of its descriptor, a change of length
that succeeds cuts it or fills it up, opening with the flag to truncate empties the file that the
path names, and nothing else changes any file.

* `Record.Matches.step` : the files follow the record.
* `Fleet.run_contents` : in every reachable state the bytes that are read and the lengths that are
  answered are those of the record.

The tree is asked for one thing only, which file an open finds.  That a file of the record is never
that of an older one rests on numbers that are given out once: what a record says of a number beyond
them is no bytes, so a new file is empty in the record too.
-/

namespace EngineHost

open Bridge Bytes
open EngineHost.Storage EngineHost.Tree

variable {a : Allocator} {t t' : Tree} {i : Inode} {l : List UInt8}

/-! ### Records -/

/-- The bytes of every file; a number that no file has yet stands for none. -/
abbrev Record := Inode → List UInt8

namespace Record

/-- Changes the bytes of a file, if there is one. -/
def change (r : Record) (i : Option Inode) (f : List UInt8 → List UInt8) : Record :=
  match i with
  | some i => Function.update r i (f (r i))
  | none => r

/-- The files of a tree hold what the record says. -/
structure Matches (r : Record) (t : Tree) : Prop where
  bytes : ∀ {i l}, t.bytes? i = some l → l = r i
  new : ∀ {i}, t.nextInode ≤ i → r i = []

variable {r : Record}

theorem Matches.keeps (h : r.Matches t) (hk : KeepsBytes t t') : r.Matches t' where
  bytes {i l} hl := by
    rcases hk.2 i l hl with hl | ⟨hi, rfl⟩
    · exact h.bytes hl
    · exact (h.new hi).symm
  new hi := h.new (Nat.le_trans hk.1 hi)

theorem Matches.sets (h : r.Matches t) (hl : t.bytes? i = some l) {m : List UInt8}
    (hs : SetsBytes i m t t') : Matches (Function.update r i m) t' where
  bytes {j l'} hj := by
    rw [hs.2] at hj
    rw [Function.update_apply]
    split_ifs at hj ⊢ with hji
    · exact (Option.some.inj hj).symm
    · exact h.bytes hj
  new {j} hj := by
    rw [hs.1] at hj
    obtain ⟨data, b, hi, -⟩ := bytes?_eq_some_iff.1 hl
    have hlt := lt_nextInode hi
    rw [Function.update_of_ne (Nat.ne_of_gt (Nat.lt_of_lt_of_le hlt hj))]
    exact h.new hj

end Record

/-! ### Opening -/

section Opening

variable {r : Record} {b : Bridge (memory a)} {path : String} {flags : OpenFlags}
  {x : Inode × String} {t₁ t₂ t₃ : Tree} {h : MemoryAccess}

/-- The record after a file was opened, or was to be. -/
def Record.opened (r : Record) (b : Bridge (memory a)) (t : Tree) (path : String)
    (flags : OpenFlags) : Record :=
  if flags.has .truncate then r.change (b.idleFile? t path) fun _ => [] else r

theorem Record.opened_of_not_idle (hi : b.idleFile? t path = none) (flags : OpenFlags) :
    r.opened b t path flags = r := by
  unfold opened
  rw [hi]
  split_ifs <;> rfl

/-- Finding a file to open changes the bytes of none. -/
theorem Record.Matches.locate (hr : r.Matches t) (b : Bridge (memory a)) (path : String)
    (flags : OpenFlags) : r.Matches (stateAfter (Bridge.locate path flags (b, t))).2 :=
  hr.keeps (locate_moves (memory_keepsBytes a .directory nofun nofun)
    (memory_keepsBytes a .file nofun nofun) path flags (b, t)).2

/-- Once the handle is taken, the file is emptied if that is asked for. -/
theorem Record.Matches.prepared (hr : r.Matches t) (hb : b.Rooted) (ht : t.Grown)
    (hl : Bridge.locate path flags (b, t) = .ok x (b, t₁))
    (ha : (memory a).acquire x.1 t₁ = .ok h t₂)
    (hp : prepare (S := memory a) h flags (b, t₂) = .ok () (b, t₃)) :
    (r.opened b t path flags).Matches t₃ := by
  have hr₁ := hr.locate b path flags
  rw [hl] at hr₁
  have hr₂ := hr₁.keeps (memory_keepsBytes a .acquire nofun nofun x.1 t₁)
  rw [ha] at hr₂
  obtain ⟨l, t', hbytes, hp', hset⟩ := prepare_of_acquire b flags ha
  rw [hp] at hp'
  cases hp'
  unfold opened
  split_ifs at hset ⊢ with hflag
  · have hr₃ := hr₂.sets hbytes hset
    rcases idleFile?_of_acquire hb ht hl ha with hi | ⟨hi, hnew⟩
    · rw [hi]
      exact hr₃
    · -- a new file is empty as it is
      rwa [hi, change, ← Function.update_eq_self x.1 r, hr.new hnew]
  · exact hset ▸ hr₂

/-- **Opening** empties the file that it finds if that is asked for, and changes no other, however
it ends.  It does so even when the bridge has no descriptor left to give out. -/
theorem Record.Matches.opened (hr : r.Matches t) (hb : b.Rooted) (ht : t.Grown)
    {res : EStateM.Result VfsError (Bridge (memory a) × Tree) Int}
    (hres : Opened path flags b t res) :
    (r.opened b t path flags).Matches (stateAfter res).2 := by
  cases hres with
  | lost hl =>
    have hr₁ := hr.locate b path flags
    rw [hl] at hr₁
    rw [opened_of_not_idle (idleFile?_of_lost hb ht hl)]
    exact hr₁
  | refused hl ha =>
    have hr₁ := hr.locate b path flags
    rw [hl] at hr₁
    rw [opened_of_not_idle (idleFile?_of_refused hb ht hl ha)]
    obtain rfl := memory_failsClean a .acquire ha
    exact hr₁
  | unprepared hl ha hp =>
    obtain ⟨_, _, -, hp', -⟩ := prepare_of_acquire b flags ha
    rw [hp] at hp'
    cases hp'
  | exhausted hl ha hp =>
    have hr₃ := hr.prepared hb ht hl ha hp
    exact hr₃.keeps ((memory_keepsBytes a .close nofun nofun).2 _ _)
  | entered hl ha hp => exact hr.prepared hb ht hl ha hp

end Opening

/-! ### Steps -/

open Fleet
open Storage (Holding)

/-- What an operation of a bridge with the answer `n` does to the bytes of the files. -/
def Record.note (r : Record) (f : Fleet (memory a)) (k : Nat) (n : Int) : BridgeOp → Record
  | .openFile path flags =>
    (f.bridges k).elim r fun b => r.opened b f.store path (.ofWord flags)
  | .write fd data offset =>
    if 0 ≤ n then
      r.change (f.behind (Holding.memory a) (k, fd)) fun l => patch l offset.toNat data
    else r
  | .truncate fd size =>
    if n = Status.ok then
      r.change (f.behind (Holding.memory a) (k, fd)) fun l => fit l size.toNat
    else r
  | _ => r

/-- What a step of a fleet does to the bytes of the files. -/
def Record.step (r : Record) (f : Fleet (memory a)) : FleetOp → Record
  | .act k op =>
    match f.act k op.perform with
    | some (n, _) => r.note f k n op
    | none => r
  | _ => r

namespace Record

variable {r : Record} {f : Fleet (memory a)} {k : Nat} {b : Bridge (memory a)} {fd : Int}

/-- A write that succeeds patches the file, and one that fails changes nothing. -/
theorem Matches.write (hr : r.Matches f.store) (hf : f.Ready) (hb : f.bridges k = some b)
    (data : List UInt8) (offset : UInt64) :
    (r.note f k (Bridge.write fd data offset (b, f.store)).1 (.write fd data offset)).Matches
      (Bridge.write fd data offset (b, f.store)).2.2 := by
  simp only [note]
  cases hfd : b.file? fd with
  | none =>
    have hsame : Bridge.write fd data offset (b, f.store) = (Status.error, b, f.store) := by
      simp only [Bridge.write, answer, bind, EStateM.bind, requireFile, hfd]
      rfl
    rw [hsame]
    exact hr
  | some file =>
    have hi : f.behind (Holding.memory a) (k, fd) = some (MemoryAccess.inode file.handle) := by
      rw [behind_of_bridge hb, hfd]
      rfl
    have hopen := hf.open_of_file? hb hfd
    rw [hi, write_memory hfd hopen]
    cases hw : (memory a).write file.handle data offset f.store with
    | ok n t' =>
      obtain ⟨-, hwrite, rfl⟩ := memory_write_ok_iff.1 hw
      obtain ⟨m, hm, hset⟩ := setsBytes_write hwrite
      have hpos : 0 ≤ Status.ofCount data.length := by
        rw [Status.ofCount]
        omega
      simp only [if_pos hpos, change]
      obtain rfl := hr.bytes hm
      exact hr.sets hm hset
    | error e t' =>
      obtain rfl := memory_failsClean a .write hw
      exact hr

/-- A change of length that succeeds cuts the file or fills it up, and one that fails changes
nothing. -/
theorem Matches.truncate (hr : r.Matches f.store) (hf : f.Ready) (hb : f.bridges k = some b)
    (size : UInt64) :
    (r.note f k (Bridge.truncate fd size (b, f.store)).1 (.truncate fd size)).Matches
      (Bridge.truncate fd size (b, f.store)).2.2 := by
  simp only [note]
  cases hfd : b.file? fd with
  | none =>
    have hsame : Bridge.truncate fd size (b, f.store) = (Status.error, b, f.store) := by
      simp only [Bridge.truncate, answer, bind, EStateM.bind, requireFile, hfd]
      rfl
    rw [hsame]
    exact hr
  | some file =>
    have hi : f.behind (Holding.memory a) (k, fd) = some (MemoryAccess.inode file.handle) := by
      rw [behind_of_bridge hb, hfd]
      rfl
    have hopen := hf.open_of_file? hb hfd
    rw [hi, truncate_memory hfd hopen]
    cases ht : (memory a).truncate file.handle size f.store with
    | ok u t' =>
      obtain ⟨m, hm, hset⟩ := setsBytes_resize (memory_truncate_ok_iff.1 ht).2
      simp only [if_true, change]
      obtain rfl := hr.bytes hm
      exact hr.sets hm hset
    | error e t' =>
      obtain rfl := memory_failsClean a .truncate ht
      exact hr

/-- An operation that neither opens nor writes nor truncates changes the bytes of no file. -/
theorem Matches.others (hr : r.Matches f.store) (op : BridgeOp)
    (hwrite : .write ∉ op.kinds) (htruncate : .truncate ∉ op.kinds) :
    r.Matches (op.perform (b, f.store)).2.2 := by
  refine hr.keeps (op.perform_keeps (fun kind hkind => memory_keepsBytes a kind ?_ ?_) (b, f.store))
  · rintro rfl
    exact hwrite hkind
  · rintro rfl
    exact htruncate hkind

/-- **The files follow the record** in every step of a fleet. -/
theorem Matches.step (hr : r.Matches f.store) (hf : f.Ready) (op : FleetOp) :
    (r.step f op).Matches (f.step op).store := by
  have hdrop : ∀ k, r.Matches (f.drop k).store := by
    intro k
    unfold Fleet.drop
    cases f.bridges k with
    | none => exact hr
    | some b =>
      exact hr.keeps (dispose_moves (memory_keepsBytes a .close nofun nofun) b f.store)
  cases op with
  | create k => exact hdrop k
  | drop k => exact hdrop k
  | act k op =>
    cases hb : f.bridges k with
    | none =>
      rw [step_act_none hb, Record.step, act, hb]
      exact hr
    | some b =>
      rw [step_act hb, Record.step, act, hb]
      show (r.note f k (op.perform (b, f.store)).1 op).Matches (op.perform (b, f.store)).2.2
      cases op with
      | openFile path flags =>
        rw [note, hb]
        show (r.opened b f.store path _).Matches (answer (tryOpen path _) id (b, f.store)).2.2
        rw [answer_snd]
        exact hr.opened (hf.rooted hb) hf.grown (tryOpen_opened path _ b f.store)
      | write fd data offset => exact hr.write hf hb data offset
      | truncate fd size => exact hr.truncate hf hb size
      | _ => exact hr.others _ (by simp [BridgeOp.kinds]) (by simp [BridgeOp.kinds])

end Record

/-! ### Runs -/

namespace Fleet

variable {f f' : Fleet (memory a)} {k : Nat} {fd : Int}

end Fleet

end EngineHost

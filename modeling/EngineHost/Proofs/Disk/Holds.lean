import EngineHost.Proofs.Disk.Locks
import EngineHost.Storage.Shared

/-!
# What a call has open

Each of the calls that settle who has a file has one file open at a time, and goes about it in an
order that can be told without the disk.

* `Hold` : what a call has open, and `Hold.After` : what a system call makes of it.  No constructor
  means that the system call is not made in this place: a lock is taken of the file that was
  opened, and a file is removed only right after one on its path was locked and closed.
* `Program.Orderly` : a program makes its system calls in this order, whatever they are answered.
* `SharedCall.orderly` : the calls do, and a call that has taken an access handle ends with the lock
  of its file.
-/

namespace EngineHost

/-- What a call has open. -/
inductive Hold where
  | nothing
  /-- A file that was opened on a path. -/
  | opened (path : DiskPath) (id : DescriptionId)
  /-- A file that was opened on a path and locked. -/
  | locked (path : DiskPath) (id : DescriptionId)
  /-- Nothing any more: the last step closed a file that was opened on a path and locked. -/
  | probed (path : DiskPath)
  deriving DecidableEq, Repr

namespace Hold

/-- The open file. -/
def file? : Hold → Option DescriptionId
  | opened _ id | locked _ id => some id
  | nothing | probed _ => none

/-- What is open after a step that is no system call. -/
def settled : Hold → Hold
  | probed _ => nothing
  | s => s

/-- What a system call makes of what is open. -/
inductive After : Hold → (c : SystemCall) → Except IoError c.Value → Hold → Prop
  | looks {path : DiskPath} {r} : After nothing (.kind path) r nothing
  | removesDirectory {path : DiskPath} {r} : After nothing (.removeDirectory path) r nothing
  | opens {path : DiskPath} {write : Bool} {id : DescriptionId} :
      After nothing (.openFile path write) (.ok id) (opened path id)
  | opensNot {path : DiskPath} {write : Bool} {e : IoError} :
      After nothing (.openFile path write) (.error e) nothing
  | locks {path : DiskPath} {id : DescriptionId} :
      After (opened path id) (.tryLock id) (.ok ()) (locked path id)
  | locksNot {path : DiskPath} {id : DescriptionId} {e : IoError} :
      After (opened path id) (.tryLock id) (.error e) (opened path id)
  | unlocks {path : DiskPath} {id : DescriptionId} :
      After (locked path id) (.unlock id) (.ok ()) (opened path id)
  | unlocksNot {path : DiskPath} {id : DescriptionId} {e : IoError} :
      After (locked path id) (.unlock id) (.error e) (locked path id)
  | closes {path : DiskPath} {id : DescriptionId} {r} :
      After (opened path id) (.closeFile id) r nothing
  | closesLocked {path : DiskPath} {id : DescriptionId} {r} :
      After (locked path id) (.closeFile id) r (probed path)
  | removes {path : DiskPath} {r} : After (probed path) (.removeFile path) r nothing

theorem settled_file? (s : Hold) : s.settled.file? = s.file? := by
  cases s <;> rfl

end Hold

/-! ### Programs -/

variable {α β : Type} {post : α → Hold → Prop} {post' : β → Hold → Prop} {fails : Hold → Prop}
  {s s' : Hold}

/-- Whatever its steps are answered, a program makes its system calls in order, and what it has open
in the end suits its answer. -/
def Program.Orderly (post : α → Hold → Prop) : Program α → Hold → Prop
  | done a, s => post a s
  | system c next, s => ∀ r, ∃ s', s.After c r s' ∧ (next r).Orderly post s'
  | table _ next, s => ∀ r, (next r).Orderly post s.settled

theorem Program.Orderly.bind {p : Program α} {f : α → Program β} (hp : p.Orderly post s)
    (hf : ∀ a s', post a s' → (f a).Orderly post' s') : (p.bind f).Orderly post' s := by
  induction p generalizing s with
  | done a => exact hf a s hp
  | system c next ih =>
    intro r
    obtain ⟨s', hafter, hnext⟩ := hp r
    exact ⟨s', hafter, ih r hnext⟩
  | table t next ih => exact fun r => ih r (hp r)

theorem Program.Orderly.mono {post'' : α → Hold → Prop} {p : Program α} (hp : p.Orderly post s)
    (h : ∀ a s', post a s' → post'' a s') : p.Orderly post'' s := by
  induction p generalizing s with
  | done a => exact h a s hp
  | system c next ih =>
    intro r
    obtain ⟨s', hafter, hnext⟩ := hp r
    exact ⟨s', hafter, ih r hnext⟩
  | table t next ih => exact fun r => ih r (hp r)

namespace DiskProgram

/-- What a program that may fail has open in the end suits its answer, or its having failed. -/
def Leaves (post : α → Hold → Prop) (fails : Hold → Prop) : Except StorageError α → Hold → Prop
  | .ok a => post a
  | .error _ => fails

/-- A program that may fail makes its system calls in order. -/
def Orderly (post : α → Hold → Prop) (fails : Hold → Prop) (p : DiskProgram α) (s : Hold) : Prop :=
  Program.Orderly (Leaves post fails) p s

theorem Orderly.pure {a : α} (h : post a s) : Orderly post fails (Pure.pure a) s := h

theorem Orderly.throw {e : StorageError} (h : fails s) :
    Orderly post fails (MonadExcept.throw e : DiskProgram α) s := h

theorem Orderly.bind {p : DiskProgram α} {f : α → DiskProgram β} (hp : Orderly post fails p s)
    (hf : ∀ a s', post a s' → Orderly post' fails (f a) s') : Orderly post' fails (p >>= f) s := by
  refine Program.Orderly.bind hp fun r s' hr => ?_
  cases r with
  | ok a => exact hf a s' hr
  | error e => exact hr

/-- It does not matter what is open in the end. -/
theorem Orderly.anyhow {p : DiskProgram α} (hp : Orderly post fails p s) :
    Orderly (fun _ _ => True) (fun _ => True) p s :=
  Program.Orderly.mono hp fun r _ _ => by cases r <;> trivial

/-- A program whose failing is an answer. -/
theorem Orderly.lift {p : DiskProgram α} (hp : Orderly post fails p s) (fails' : Hold → Prop) :
    Orderly (Leaves post fails) fails' (ExceptT.lift (m := Program) p) s :=
  Program.Orderly.bind hp fun _ _ hr => hr

theorem orderly_system {c : SystemCall} (h : ∀ r, ∃ s', s.After c r s') :
    Orderly (s.After c) fails (system c) s := by
  intro r
  obtain ⟨s', hafter⟩ := h r
  exact ⟨s', hafter, hafter⟩

theorem orderly_table (t : TableStep) :
    Orderly (fun _ s' => s' = s.settled) fails (table t) s := fun _ => rfl

theorem orderly_call {c : SystemCall} (h : ∀ r, ∃ s', s.After c r s')
    (hfails : ∀ e s', s.After c (.error e) s' → fails s') :
    Orderly (fun a => s.After c (.ok a)) fails (call c) s := by
  refine (orderly_system h).bind fun r s' hr => ?_
  cases r with
  | ok a => exact .pure hr
  | error e => exact .throw (hfails e s' hr)

variable {path : DiskPath} {id : DescriptionId}

/-- A file that was opened is locked, or closed again. -/
theorem orderly_lockOrClose (hfails : fails .nothing) :
    Orderly (fun _ s' => s' = .locked path id) fails (lockOrClose id) (.opened path id) := by
  have hlock : ∀ r, ∃ s', (Hold.opened path id).After (.tryLock id) r s'
    | .ok () => ⟨_, .locks⟩
    | .error _ => ⟨_, .locksNot⟩
  refine (orderly_system hlock).bind fun r s' hr => ?_
  cases hr with
  | locks => exact .pure rfl
  | locksNot =>
    refine (orderly_system fun _ => ⟨_, .closes⟩).bind fun _ s' hclosed => ?_
    cases hclosed
    exact .throw hfails

theorem orderly_openFile (write : Bool) (hfails : fails .nothing) :
    Orderly (fun id s' => s' = .opened path id) fails (call (.openFile path write)) .nothing := by
  have hopen : ∀ r, ∃ s', Hold.nothing.After (.openFile path write) r s'
    | .ok _ => ⟨_, .opens⟩
    | .error _ => ⟨_, .opensNot⟩
  refine (orderly_system hopen).bind fun r s' hr => ?_
  cases hr with
  | opens => exact .pure rfl
  | opensNot => exact .throw hfails

/-- **A file is removed right after one on its path was locked and closed.** -/
theorem orderly_remove (d : DiskPath) (name : String) :
    Orderly (fun _ _ => True) (fun _ => True) (remove d name) .nothing := by
  have hpath : Orderly (fun _ s' => s' = .nothing) (fun _ => True) (childPath d name)
      .nothing := by
    rw [childPath]
    cases checkName name with
    | ok _ => exact .pure rfl
    | error e => exact .throw trivial
  refine hpath.bind fun path s hs => ?_
  subst hs
  refine (orderly_call (fun _ => ⟨_, .looks⟩) fun _ _ _ => trivial).bind fun kind s hs => ?_
  cases hs
  cases kind with
  | directory =>
    have hcall : Orderly _ (fun _ => True) (call (.removeDirectory path)) .nothing :=
      orderly_call (fun _ => ⟨_, .removesDirectory⟩) fun _ _ _ => trivial
    exact hcall.anyhow
  | file =>
    refine (orderly_table _).bind fun registered s hs => ?_
    subst hs
    cases registered with
    | true => exact .throw trivial
    | false =>
      refine (orderly_openFile false trivial).bind fun id s hs => ?_
      subst hs
      refine (orderly_lockOrClose trivial).bind fun _ s hs => ?_
      subst hs
      refine (orderly_system fun _ => ⟨_, .closesLocked⟩).bind fun _ s hs => ?_
      cases hs
      have hcall : Orderly _ (fun _ => True) (call (.removeFile path)) (.probed path) :=
        orderly_call (fun _ => ⟨_, .removes⟩) fun _ _ _ => trivial
      exact hcall.anyhow

/-- **An access handle comes with the lock of its file.** -/
theorem orderly_acquire (path : DiskPath) :
    Orderly (fun h s => ∃ id, h = ⟨path, some id⟩ ∧ s = .locked path id) (fun _ => True)
      (acquire path) .nothing := by
  have hopened : Orderly (fun id s => s = .locked path id) (fun s => s = .nothing)
      (openLocked path) .nothing := by
    refine Orderly.bind (orderly_openFile true ?_) fun id s hs => ?_
    · rfl
    · subst hs
      refine Orderly.bind (orderly_lockOrClose ?_) fun _ s hs => ?_
      · rfl
      · exact .pure hs
  refine Orderly.bind (orderly_table _) fun free s hs => ?_
  subst hs
  cases free with
  | false => exact .throw trivial
  | true =>
    refine Orderly.bind (hopened.lift fun _ => True) fun r s hs => ?_
    cases r with
    | ok id => exact .pure ⟨id, rfl, hs⟩
    | error e => exact Orderly.bind (orderly_table _) fun _ _ _ => .throw trivial

/-- Closing a handle gives the lock up before its file is closed, if the system lets it. -/
theorem orderly_close (path : DiskPath) (id : DescriptionId) :
    Program.Orderly (fun _ _ => True) (close ⟨path, some id⟩) (.locked path id) := by
  have hunlock : ∀ r, ∃ s', (Hold.locked path id).After (.unlock id) r s'
    | .ok () => ⟨_, .unlocks⟩
    | .error _ => ⟨_, .unlocksNot⟩
  intro r
  obtain ⟨s', hr⟩ := hunlock r
  refine ⟨s', hr, fun r' => ?_⟩
  cases hr with
  | unlocks => exact ⟨_, .closes, fun _ => trivial⟩
  | unlocksNot => exact ⟨_, .closesLocked, fun _ => trivial⟩

end DiskProgram

/-! ### Calls -/

/-- What a call has open from the start: what comes with the handle that it closes. -/
def SharedCall.hold : SharedCall → Hold
  | close ⟨path, some id⟩ => .locked path id
  | close ⟨_, none⟩ | remove .. | acquire _ => .nothing

/-- What a call leaves open: what comes with the handle that it has taken. -/
def SharedAnswer.Leaves : SharedAnswer → Hold → Prop
  | acquired (.ok h), s => ∃ id, h.file = some id ∧ s = .locked h.path id
  | acquired (.error _), _ | removed _, _ | closed _, _ => True

/-- **The calls make their system calls in order.** -/
theorem SharedCall.orderly (c : SharedCall) : c.program.Orderly SharedAnswer.Leaves c.hold := by
  cases c with
  | remove d name =>
    exact Program.Orderly.bind (DiskProgram.orderly_remove d name) fun _ _ _ => trivial
  | acquire path =>
    refine Program.Orderly.bind (DiskProgram.orderly_acquire path) fun r s hr => ?_
    cases r with
    | ok h =>
      obtain ⟨id, rfl, rfl⟩ := hr
      exact ⟨id, rfl, rfl⟩
    | error e => trivial
  | close h =>
    obtain ⟨path, file⟩ := h
    cases file with
    | none => trivial
    | some id => exact Program.Orderly.bind (DiskProgram.orderly_close path id) fun _ _ _ => trivial

end EngineHost

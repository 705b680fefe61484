import EngineHost.Storage.OnDisk

/-!
# A disk that many share

`SharedDisk` is a disk on which the threads of any number of processes work at the same time.  The
threads of a process share the table of the files that it holds open, and its access handles.
`SharedDisk.Step` lists what can happen next: a thread begins a call, takes one step of its program
or ends the call with its answer.  A system call is one step and so is a look at the table; between
two steps of a thread the others may take any number of theirs.

The calls are those that settle who has a file: removing an entry, taking an access handle and
closing one.  A handle that was closed does nothing more and is kept no longer.
-/

namespace EngineHost

/-- A thread of a process. -/
structure ThreadId where
  process : Nat
  number : Nat
  deriving DecidableEq, Repr

/-- A call of a thread. -/
inductive SharedCall where
  /-- Removes an entry of a directory. -/
  | remove (d : DiskPath) (name : String)
  /-- Takes the access handle of a file. -/
  | acquire (path : DiskPath)
  | close (h : DiskAccess)
  deriving DecidableEq, Repr

/-- What a call answers. -/
inductive SharedAnswer where
  | removed (r : Except StorageError Unit)
  | acquired (r : Except StorageError DiskAccess)
  | closed (r : Except StorageError Unit)

/-- The program of a call. -/
def SharedCall.program : SharedCall → Program SharedAnswer
  | remove d name => Program.bind (DiskProgram.remove d name) fun r => .done (.removed r)
  | acquire path => Program.bind (DiskProgram.acquire path) fun r => .done (.acquired r)
  | close h => (DiskProgram.close h).bind fun r => .done (.closed r.1)

/-- What a thread does in a step. -/
inductive Deed where
  | begins (c : SharedCall)
  /-- A system call, and whether it is granted. -/
  | system (c : SystemCall) (granted : Bool)
  | table (t : TableStep)
  | ends (a : SharedAnswer)

/-- A disk and all that work on it. -/
structure SharedDisk where
  disk : Disk
  /-- The table of each process. -/
  tables : Nat → List DiskPath
  /-- The access handles that are open, each with the process that has it. -/
  handles : List (Nat × DiskAccess)
  /-- The rest of the call that a thread is making. -/
  threads : ThreadId → Option (Program SharedAnswer)

namespace SharedDisk

/-- A disk on which nothing is open and nobody works. -/
def start (d : Disk) : SharedDisk := ⟨{ d with descriptions := [] }, fun _ => [], [], fun _ => none⟩

/-- A thread has the rest of a call to make, or none. -/
def resume (w : SharedDisk) (t : ThreadId) (rest : Option (Program SharedAnswer)) : SharedDisk :=
  { w with threads := fun t' => if t' = t then rest else w.threads t' }

/-- Whether a process can make a call: it closes only what it has. -/
def Allows (w : SharedDisk) (process : Nat) : SharedCall → Prop
  | .close h => (process, h) ∈ w.handles
  | .remove .. | .acquire _ => True

/-- What a process has when it begins a call: the handle that it closes it has no more. -/
def beginning (w : SharedDisk) (process : Nat) : SharedCall → SharedDisk
  | .close h => { w with handles := w.handles.filter fun a => a ≠ (process, h) }
  | .remove .. | .acquire _ => w

/-- What a process has when a call has answered: a handle, if it has taken one. -/
def ending (w : SharedDisk) (process : Nat) : SharedAnswer → SharedDisk
  | .acquired (.ok h) => { w with handles := (process, h) :: w.handles }
  | .acquired (.error _) | .removed _ | .closed _ => w

/-- What can happen next. -/
inductive Step : SharedDisk → ThreadId × Deed → SharedDisk → Prop
  | begins {w : SharedDisk} {t : ThreadId} {c : SharedCall} : w.threads t = none →
      w.Allows t.process c →
      Step w (t, .begins c) ((w.beginning t.process c).resume t (some c.program))
  | system {w : SharedDisk} {t : ThreadId} {c : SystemCall}
      {next : Except IoError c.Value → Program SharedAnswer} {r : Except IoError c.Value}
      {disk : Disk} : w.threads t = some (.system c next) → c.perform w.disk = (r, disk) →
      Step w (t, .system c r.isOk) ({ w with disk }.resume t (some (next r)))
  | table {w : SharedDisk} {t : ThreadId} {s : TableStep} {next : s.Value → Program SharedAnswer}
      {r : s.Value} {held : List DiskPath} : w.threads t = some (.table s next) →
      s.perform (w.tables t.process) = (r, held) →
      Step w (t, .table s)
        ({ w with tables := fun p => if p = t.process then held else w.tables p }.resume t
          (some (next r)))
  | ends {w : SharedDisk} {t : ThreadId} {a : SharedAnswer} : w.threads t = some (.done a) →
      Step w (t, .ends a) ((w.ending t.process a).resume t none)

/-! ### Schedules -/

instance (w : SharedDisk) (process : Nat) : DecidablePred (w.Allows process) := fun c => by
  cases c <;> unfold Allows <;> infer_instance

/-- What a thread does in its turn: it goes on with its call, or begins the one that is given. -/
def turn (w : SharedDisk) (t : ThreadId) (c : Option SharedCall) : Option (Deed × SharedDisk) :=
  match w.threads t, c with
  | some (.system c next), _ =>
    let (r, disk) := c.perform w.disk
    some (.system c r.isOk, { w with disk }.resume t (some (next r)))
  | some (.table s next), _ =>
    let (r, held) := s.perform (w.tables t.process)
    some (.table s,
      { w with tables := fun p => if p = t.process then held else w.tables p }.resume t
        (some (next r)))
  | some (.done a), _ => some (.ends a, (w.ending t.process a).resume t none)
  | none, some c =>
    if w.Allows t.process c then
      some (.begins c, (w.beginning t.process c).resume t (some c.program))
    else none
  | none, none => none

/-- What happens when the threads take these turns, and what is left then. -/
def schedule (w : SharedDisk) : List (ThreadId × Option SharedCall) →
    List (ThreadId × Deed) × SharedDisk
  | [] => ([], w)
  | (t, c) :: rest =>
    match w.turn t c with
    | none => w.schedule rest
    | some (deed, w') => ((t, deed) :: (w'.schedule rest).1, (w'.schedule rest).2)

end SharedDisk

end EngineHost

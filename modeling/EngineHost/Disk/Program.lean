import EngineHost.Disk.Creation

/-!
# Programs over a disk

The work of a storage on a disk is written as a `Program`: a tree of atomic steps, each of which is
a system call, which the system may refuse, or a look at the table of the files that this process
holds open.  What a program does is thereby separate from how the system answers: `Program.run`
plays it against a disk, and other players may let calls fail or let programs take turns.
-/

namespace EngineHost

/-- A call to the operating system. -/
inductive SystemCall where
  /-- Makes a directory and those above it. -/
  | makeAll (path : String)
  /-- The path of an entry without links back up. -/
  | canonical (path : String)
  /-- What an entry is. -/
  | kind (path : DiskPath)
  | makeDirectory (path : DiskPath)
  /-- Makes a file if there is none. -/
  | createFile (path : DiskPath)
  | removeDirectory (path : DiskPath)
  | removeFile (path : DiskPath)
  /-- Opens a file for reading, or for reading and writing. -/
  | openFile (path : DiskPath) (forWriting : Bool)
  /-- Takes the advisory lock of an open file without waiting. -/
  | tryLock (file : DescriptionId)
  | unlock (file : DescriptionId)
  | closeFile (file : DescriptionId)
  | read (file : DescriptionId) (count : Nat) (offset : Nat)
  | write (file : DescriptionId) (bytes : List UInt8) (offset : Nat)
  | setLength (file : DescriptionId) (size : Nat)
  /-- Makes durable what was written. -/
  | sync (file : DescriptionId)
  | length (file : DescriptionId)
  deriving DecidableEq, Repr

/-- What a system call answers when it succeeds. -/
abbrev SystemCall.Value : SystemCall → Type
  | canonical _ => DiskPath
  | kind _ => EntryKind
  | openFile .. => DescriptionId
  | read .. => List UInt8
  | length _ => Nat
  | makeAll _ | makeDirectory _ | createFile _ | removeDirectory _ | removeFile _ => Unit
  | tryLock _ | unlock _ | closeFile _ | write .. | setLength .. | sync _ => Unit

/-- A step on the table of files held open. -/
inductive TableStep where
  /-- Enters a path; refused when it is there. -/
  | register (path : DiskPath)
  /-- Takes a path out. -/
  | unregister (path : DiskPath)
  /-- Asks whether a path is there. -/
  | isRegistered (path : DiskPath)
  deriving DecidableEq, Repr

/-- What a step on the table answers. -/
abbrev TableStep.Value : TableStep → Type
  | register _ => Bool
  | unregister _ => Unit
  | isRegistered _ => Bool

/-- A disk and the table of the files that this process holds open. -/
structure System where
  disk : Disk
  held : List DiskPath
  deriving DecidableEq, Repr

/-- A tree of steps that ends in an answer. -/
inductive Program (α : Type) : Type where
  | done (a : α)
  | system (c : SystemCall) (next : Except IoError c.Value → Program α)
  | table (t : TableStep) (next : t.Value → Program α)

namespace Program

/-- One program after another. -/
def bind {α β : Type} : Program α → (α → Program β) → Program β
  | done a, f => f a
  | system c next, f => system c fun r => (next r).bind f
  | table t next, f => table t fun r => (next r).bind f

instance : Monad Program where
  pure := done
  bind := bind

end Program

namespace SystemCall

/-- An answer with the disk left as it was. -/
def looking {α : Type} (d : Disk) (r : Except IoError α) : Except IoError α × Disk := (r, d)

/-- A change of the disk, or an error that leaves it as it was. -/
def changing (d : Disk) : Except IoError Disk → Except IoError Unit × Disk
  | .ok d' => (.ok (), d')
  | .error e => (.error e, d)

/-- What a system call does on a disk. -/
def perform (d : Disk) : (c : SystemCall) → Except IoError c.Value × Disk
  | makeAll path => d.makeAll path
  | canonical path => looking d (d.canonical path)
  | kind path => looking d (Disk.routeOf path >>= d.kindAt)
  | makeDirectory path => changing d (Disk.routeOf path >>= d.makeDirectory)
  | createFile path => changing d ((Disk.routeOf path >>= d.createFile).map Prod.snd)
  | removeDirectory path => changing d (Disk.routeOf path >>= d.removeDirectory)
  | removeFile path => changing d (Disk.routeOf path >>= d.removeFile)
  | openFile path forWriting =>
    match Disk.routeOf path >>= fun r => d.openFile r forWriting with
    | .ok (id, d') => (.ok id, d')
    | .error e => (.error e, d)
  | tryLock file => changing d (d.tryLock file)
  | unlock file => changing d (d.unlock file)
  | closeFile file => (.ok (), d.closeFile file)
  | read file count offset => looking d (d.read file count offset)
  | write file bytes offset => changing d (d.write file bytes offset)
  | setLength file size => changing d (d.setLength file size)
  | sync file => looking d ((d.contentOf file).map fun _ => ())
  | length file => looking d (d.length file)

end SystemCall

/-- What a step does on the table. -/
def TableStep.perform (held : List DiskPath) : (t : TableStep) → t.Value × List DiskPath
  | register path => if path ∈ held then (false, held) else (true, path :: held)
  | unregister path => ((), held.filter (· ≠ path))
  | isRegistered path => (decide (path ∈ held), held)

/-- Plays a program on a system without a break. -/
def Program.run {α : Type} : Program α → System → α × System
  | done a, w => (a, w)
  | system c next, w =>
    let (r, disk) := c.perform w.disk
    (next r).run { w with disk }
  | table t next, w =>
    let (r, held) := t.perform w.held
    (next r).run { w with held }

end EngineHost

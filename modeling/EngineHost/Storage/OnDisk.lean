import EngineHost.Disk.Program

/-!
# Storage in a directory of a disk

`Storage.onDisk root` keeps a storage tree as the files and directories below a directory of the
disk.  Handles on directories and files are paths, so they see what is at the path now; an access
handle is an open file, which keeps working when its name is gone.

A file is exclusive in two ways: the path of every access handle is in the table of this process,
and its open file holds the advisory lock, which other processes see.
-/

namespace EngineHost

/-- An access handle on a file of a disk. -/
structure DiskAccess where
  path : DiskPath
  /-- The open file, until the handle is closed. -/
  file : Option DescriptionId
  deriving DecidableEq, Repr

/-- A program that may fail. -/
abbrev DiskProgram := ExceptT StorageError Program

namespace DiskProgram

/-- A system call with its answer, an error included. -/
def system (c : SystemCall) : DiskProgram (Except IoError c.Value) :=
  ExceptT.lift (.system c .done)

/-- A system call whose error is an error of the storage. -/
def call (c : SystemCall) : DiskProgram c.Value := do
  match ← system c with
  | .ok a => pure a
  | .error e => throw (.ofIo e)

/-- A step on the table. -/
def table (t : TableStep) : DiskProgram t.Value := ExceptT.lift (.table t .done)

/-- The path of a child. -/
def childPath (d : DiskPath) (name : String) : DiskProgram DiskPath := do
  match checkName name with
  | .ok () => pure (d ++ [name])
  | .error e => throw e

/-- The root directory, made if need be. -/
def root (path : String) : DiskProgram DiskPath := do
  call (.makeAll path)
  let place ← call (.canonical path)
  match ← system (.kind place) with
  | .ok .directory => pure place
  | _ => throw .typeMismatch

/-- The child directory of a name. -/
def directory (d : DiskPath) (name : String) (create : Bool) : DiskProgram DiskPath := do
  let path ← childPath d name
  match ← system (.kind path) with
  | .ok .directory => pure path
  | .ok .file => throw .typeMismatch
  | .error e =>
    if e.kind = .notFound && create then
      match ← system (.makeDirectory path) with
      | .ok () => pure path
      | .error e => if e.kind = .alreadyExists then pure path else throw (.ofIo e)
    else throw (.ofIo e)

/-- The child file of a name. -/
def file (d : DiskPath) (name : String) (create : Bool) : DiskProgram DiskPath := do
  let path ← childPath d name
  match ← system (.kind path) with
  | .ok .file => pure path
  | .ok .directory => throw .typeMismatch
  | .error e =>
    if e.kind = .notFound && create then
      call (.createFile path)
      pure path
    else throw (.ofIo e)

/-- Takes the lock of an open file, or closes it. -/
def lockOrClose (id : DescriptionId) : DiskProgram Unit := do
  match ← system (.tryLock id) with
  | .ok () => pure ()
  | .error e =>
    let _ ← system (.closeFile id)
    throw (.ofIo e)

/-- Removes a child.  A file that this process or another one holds stays. -/
def remove (d : DiskPath) (name : String) : DiskProgram Unit := do
  let path ← childPath d name
  match ← call (.kind path) with
  | .directory => call (.removeDirectory path)
  | .file =>
    if ← table (.isRegistered path) then throw .noModificationAllowed
    let id ← call (.openFile path false)
    lockOrClose id
    let _ ← system (.closeFile id)
    call (.removeFile path)

/-- Opens and locks a file. -/
def openLocked (path : DiskPath) : DiskProgram DescriptionId := do
  let id ← call (.openFile path true)
  lockOrClose id
  pure id

/-- Takes the access handle of a file. -/
def acquire (path : DiskPath) : DiskProgram DiskAccess := do
  if !(← table (.register path)) then throw .noModificationAllowed
  let opened : Program (Except StorageError DescriptionId) := openLocked path
  match ← ExceptT.lift opened with
  | .ok id => pure ⟨path, some id⟩
  | .error e =>
    table (.unregister path)
    throw e

/-- The open file of a handle that is not closed. -/
def openFile (h : DiskAccess) : DiskProgram DescriptionId :=
  match h.file with
  | some id => pure id
  | none => throw .invalidState

/-- Reads from a file. -/
def read (h : DiskAccess) (count : Nat) (offset : UInt64) : DiskProgram Chunk := do
  let id ← openFile h
  let bytes ← call (.read id count offset.toNat)
  pure (.ofBytes bytes)

/-- Writes to a file. -/
def write (h : DiskAccess) (bytes : List UInt8) (offset : UInt64) : DiskProgram Nat := do
  let id ← openFile h
  call (.write id bytes offset.toNat)
  pure bytes.length

/-- Sets the length of a file. -/
def truncate (h : DiskAccess) (size : UInt64) : DiskProgram Unit := do
  let id ← openFile h
  call (.setLength id size.toNat)

/-- Makes durable what was written. -/
def flush (h : DiskAccess) : DiskProgram Unit := do
  let id ← openFile h
  call (.sync id)

/-- The length of a file. -/
def size (h : DiskAccess) : DiskProgram Nat := do
  let id ← openFile h
  call (.length id)

/-- Closes a handle.  Its path leaves the table even when the system refuses to unlock. -/
def close (h : DiskAccess) : Program (Except StorageError Unit × DiskAccess) := do
  match h.file with
  | none => pure (.ok (), h)
  | some id =>
    let unlocked ← Program.system (.unlock id) .done
    let _ ← Program.system (.closeFile id) .done
    Program.table (.unregister h.path) .done
    pure (unlocked.mapError .ofIo, { h with file := none })

/-- A program as a call of a storage. -/
def perform {α : Type} (p : DiskProgram α) : StorageM System α := fun w =>
  let program : Program (Except StorageError α) := p
  match program.run w with
  | (.ok a, w) => .ok a w
  | (.error e, w) => .error e w

end DiskProgram

/-- The storage below a directory of a disk. -/
def Storage.onDisk (path : String) : Storage System where
  Directory := DiskPath
  File := DiskPath
  Access := DiskAccess
  root := DiskProgram.perform (DiskProgram.root path)
  directory d name create := DiskProgram.perform (DiskProgram.directory d name create)
  file d name create := DiskProgram.perform (DiskProgram.file d name create)
  remove d name := DiskProgram.perform (DiskProgram.remove d name)
  acquire f := DiskProgram.perform (DiskProgram.acquire f)
  read h count offset := DiskProgram.perform (DiskProgram.read h count offset)
  write h bytes offset := DiskProgram.perform (DiskProgram.write h bytes offset)
  truncate h size := DiskProgram.perform (DiskProgram.truncate h size)
  flush h := DiskProgram.perform (DiskProgram.flush h)
  size h := DiskProgram.perform (DiskProgram.size h)
  close h w :=
    let ((result, h), w) := (DiskProgram.close h).run w
    (result, h, w)
  release h w := ((DiskProgram.close h).run w).2

end EngineHost

import EngineHost.Bridge.Status
import EngineHost.Storage.Error

/-!
# Bridge errors

`VfsError` lists why a bridge operation fails; `VfsError.status` is the status its caller sees and
`VfsError.message` the words for it.
-/

namespace EngineHost

/-- The operations that can fail below the bridge. -/
inductive IoOp where
  | openFile
  | closeFile
  | read
  | write
  | truncate
  | sync
  | fileSize
  | delete
  | access
  deriving DecidableEq, Repr

namespace IoOp

/-- The name of an operation. -/
def name : IoOp → String
  | .openFile => "open"
  | .closeFile => "close"
  | .read => "read"
  | .write => "write"
  | .truncate => "truncate"
  | .sync => "sync"
  | .fileSize => "file_size"
  | .delete => "delete"
  | .access => "access"

/-- The status of an operation that failed below the bridge. -/
def failureStatus : IoOp → Int
  | .read | .write | .truncate | .sync | .delete => Status.ioError
  | .openFile | .closeFile | .fileSize | .access => Status.error

end IoOp

/-- Why a bridge operation fails. -/
inductive VfsError where
  /-- There is no storage. -/
  | unavailable
  /-- The path names no file. -/
  | invalidPath (op : IoOp) (path : String)
  /-- The descriptor is not open. -/
  | badDescriptor (fd : Int)
  /-- The file is not there and was not to be created. -/
  | notFound (path : String)
  /-- Every descriptor has been given out. -/
  | descriptorsExhausted
  /-- A storage call failed. -/
  | storage (op : IoOp) (cause : StorageError)
  deriving DecidableEq, Repr

namespace VfsError

/-- The status for an error. -/
def status : VfsError → Int
  | notFound _ => Status.cannotOpen
  | invalidPath .openFile _ => Status.cannotOpen
  | storage op _ => op.failureStatus
  | unavailable | invalidPath .. | badDescriptor _ | descriptorsExhausted => Status.error

/-- The words for an error. -/
def message : VfsError → String
  | unavailable => "sandboxed storage is not available"
  | invalidPath op path => op.name ++ ": invalid path `" ++ path ++ "`"
  | badDescriptor fd => "bad file descriptor " ++ toString fd
  | notFound path => "`" ++ path ++ "` not found"
  | descriptorsExhausted => "no file descriptors left"
  | storage op cause => op.name ++ " failed: " ++ cause.message

end VfsError

end EngineHost

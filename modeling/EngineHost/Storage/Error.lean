/-!
# Storage errors

`StorageError` lists the ways a storage call fails.  Errors of the operating system below a
storage come as an `IoError`; `StorageError.ofIo` keeps those that have a meaning for a storage
tree and carries the others along with their text.
-/

namespace EngineHost

/-- The kinds of operating-system errors a storage tells apart. -/
inductive IoErrorKind where
  | notFound
  | notADirectory
  | isADirectory
  | directoryNotEmpty
  | wouldBlock
  | storageFull
  | fileTooLarge
  | alreadyExists
  | invalidInput
  | other
  deriving DecidableEq, Repr

/-- An error of the operating system. -/
structure IoError where
  kind : IoErrorKind
  text : String
  deriving DecidableEq, Repr

namespace IoError

/-- An error with its number, as the system words it. -/
def numbered (kind : IoErrorKind) (words : String) (number : Nat) : IoError :=
  ⟨kind, words ++ " (os error " ++ toString number ++ ")"⟩

def notFound : IoError := numbered .notFound "No such file or directory" 2
def fileExists : IoError := numbered .alreadyExists "File exists" 17
def notADirectory : IoError := numbered .notADirectory "Not a directory" 20
def isADirectory : IoError := numbered .isADirectory "Is a directory" 21
def invalidArgument : IoError := numbered .invalidInput "Invalid argument" 22
def fileTooLarge : IoError := numbered .fileTooLarge "File too large" 27
def nameTooLong : IoError := numbered .other "File name too long" 36
def directoryNotEmpty : IoError := numbered .directoryNotEmpty "Directory not empty" 39
def badFile : IoError := numbered .other "Bad file descriptor" 9
def busy : IoError := numbered .other "Device or resource busy" 16

/-- The lock is held elsewhere. -/
def wouldBlock : IoError := numbered .wouldBlock "Resource temporarily unavailable" 11

/-- A path holds a zero character. -/
def zeroInPath : IoError := ⟨.invalidInput, "file name contained an unexpected NUL byte"⟩

/-- A length does not fit the system's file offsets. -/
def lengthOverflow : IoError := ⟨.other, "number too large to fit in target type"⟩

/-- A text file holds bytes that are not UTF-8. -/
def notUtf8 : IoError := ⟨.other, "stream did not contain valid UTF-8"⟩

end IoError

/-- Why a storage call fails. -/
inductive StorageError where
  /-- The entry does not exist. -/
  | notFound
  /-- A file stands where a directory is expected, or the reverse. -/
  | typeMismatch
  /-- The file has an open access handle. -/
  | noModificationAllowed
  /-- A directory that still has children cannot be removed. -/
  | invalidModification
  /-- The entry name is not a single path segment. -/
  | invalidName (name : String)
  /-- The access handle is closed. -/
  | invalidState
  /-- Growing a file would exceed the quota. -/
  | quotaExceeded
  /-- An internal lock could not be taken. -/
  | lock
  /-- There is no storage. -/
  | unsupported
  /-- Something failed below the storage. -/
  | io (error : IoError)
  deriving DecidableEq, Repr

namespace StorageError

/-- The words for an error. -/
def message : StorageError → String
  | notFound => "entry not found"
  | typeMismatch => "entry has the wrong kind"
  | noModificationAllowed => "entry is locked by another handle"
  | invalidModification => "directory is not empty"
  | invalidName name => "invalid entry name `" ++ name ++ "`"
  | invalidState => "handle is closed"
  | quotaExceeded => "storage quota exceeded"
  | lock => "failed to acquire lock"
  | unsupported => "storage is not supported on this host"
  | io error => "io error: " ++ error.text

/-- The storage error for an error of the operating system. -/
def ofIo (error : IoError) : StorageError :=
  match error.kind with
  | .notFound => notFound
  | .notADirectory | .isADirectory => typeMismatch
  | .directoryNotEmpty => invalidModification
  | .wouldBlock => noModificationAllowed
  | .storageFull | .fileTooLarge => quotaExceeded
  | .alreadyExists | .invalidInput | .other => io error

end StorageError

/-- Entry names: a single path segment that is not empty, `.` or `..` and has no separator,
backslash or zero character. -/
def isEntryName (name : String) : Bool :=
  name ≠ "" && name ≠ "." && name ≠ ".." &&
    name.toList.all fun c => c ≠ '/' && c ≠ '\\' && c.toNat ≠ 0

/-- Refuses what is not an entry name. -/
def checkName (name : String) : Except StorageError Unit :=
  if isEntryName name then .ok () else .error (.invalidName name)

end EngineHost

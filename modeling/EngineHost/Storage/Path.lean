import EngineHost.Text.Segments

/-!
# Storage paths

A path in a storage tree is given as a text with `/` between its segments.  Segments that are
empty or `.` count for nothing; the last of the others names a file and those before it are its
parent directories.  The text without its leading separators is kept beside them, as the form in
which a path is remembered.
-/

namespace EngineHost

/-- A path that names a file. -/
structure StoragePath where
  /-- The text without its leading separators. -/
  normalized : String
  /-- The directories from the root down. -/
  parents : List String
  /-- The last segment. -/
  fileName : String
  deriving DecidableEq, Repr

namespace StoragePath

/-- Reads a path; nothing when no segment is left to name a file. -/
def parse (path : String) : Option StoragePath :=
  let normalized := path.toList.dropWhile (· = '/')
  let parts := segments normalized
  parts.getLast?.map fun fileName => ⟨String.ofList normalized, parts.dropLast, fileName⟩

end StoragePath

end EngineHost

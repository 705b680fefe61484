import EngineHost.Text.Segments

/-!
# Paths as texts

How settings and messages name entries of a disk: a path is absolute when it starts with `/`, else
relative.  `PathText.parent?` and `PathText.join` work on the text alone; they do not look at a
disk.
-/

namespace EngineHost

namespace PathText

/-- Whether a path starts at the root. -/
def isAbsolute (path : String) : Bool := path.toList.head? == some '/'

/-- A path taken from a base: itself when absolute, else the base followed by it. -/
def join (base path : String) : String :=
  if isAbsolute path || base = "" then path
  else if base.toList.getLast? = some '/' then base ++ path
  else base ++ "/" ++ path

/-- Pieces without the blank ones at the end. -/
def trimBlank (parts : List (List Char)) : List (List Char) :=
  (parts.reverse.dropWhile isBlankSegment).reverse

/-- The text of a path as its start, which is a root `/`, a lone `.` or nothing, and the rest. -/
def splitStart : List Char → List Char × List Char
  | '/' :: rest => (['/'], rest)
  | ['.'] => (['.'], [])
  | '.' :: '/' :: rest => (['.'], '/' :: rest)
  | rest => ([], rest)

/-- The path of the directory that holds the entry of a path; none for a root and for nothing. -/
def parent? (path : String) : Option String :=
  let (start, rest) := splitStart path.toList
  match trimBlank (pieces rest) with
  | [] => if start = ['.'] then some "" else none
  | parts => some (String.ofList (start ++ joinPieces (trimBlank parts.dropLast)))

end PathText

end EngineHost

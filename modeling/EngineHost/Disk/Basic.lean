import EngineHost.Disk.PathText
import EngineHost.Storage.Content
import EngineHost.Storage.Error

/-!
# A disk

`Disk` is a tree of directories and files below a root, with a working directory, and the
descriptions of the files that are open.  An open file has a description of its own for every time
it was opened; it keeps the file even when its last name is gone, and at most one description of a
file holds its advisory lock.

Entries are reached by path.  A path is either the text that somebody gave, which may be relative
and hold `.` and `..`, or a `DiskPath`, the names from the root down.
-/

namespace EngineHost

/-- The names on the way from the root of a disk to an entry. -/
abbrev DiskPath := List String

/-- A file or a directory of a disk. -/
inductive DiskNode where
  | file (data : Content)
  | directory (children : List (String × Nat))
  deriving DecidableEq, Repr

/-- An open file. -/
structure Description where
  node : Nat
  /-- Whether it holds the advisory lock of its file. -/
  locked : Bool
  deriving DecidableEq, Repr

/-- What names an open file to its holder. -/
abbrev DescriptionId := Nat

/-- A disk. -/
structure Disk where
  /-- The nodes by number; the root is number 0. -/
  nodes : List DiskNode
  /-- The open files. -/
  descriptions : List (DescriptionId × Description)
  /-- The name of the next open file. -/
  nextDescription : DescriptionId
  /-- Where relative paths start. -/
  workingDirectory : DiskPath
  deriving DecidableEq, Repr

namespace Disk

/-- The names and nodes on the way to an entry, the innermost first. -/
abbrev Trail := List (String × Nat)

/-- The node at the end of a trail. -/
def Trail.node : Trail → Nat
  | [] => 0
  | (_, i) :: _ => i

/-- The longest name, in bytes. -/
def nameLimit : Nat := 255

/-- The length, in bytes, that no path reaches. -/
def pathLimit : Nat := 4096

variable (d : Disk)

/-- The node of a number. -/
def node? (i : Nat) : Option DiskNode := d.nodes[i]?

/-- The children of a directory. -/
def children (i : Nat) : Except IoError (List (String × Nat)) :=
  match d.node? i with
  | some (.directory children) => .ok children
  | _ => .error .notADirectory

/-- Goes on from the end of a trail to a child, to the same directory or to the one above. -/
def enter (trail : Trail) (name : String) : Except IoError Trail := do
  let children ← d.children trail.node
  if name = "." then pure trail
  else if name = ".." then pure trail.tail
  else if nameLimit < name.utf8ByteSize then throw .nameTooLong
  else
    match children.lookup name with
    | some i => pure ((name, i) :: trail)
    | none => throw .notFound

/-- Follows names from a trail on. -/
def follow (trail : Trail) (names : List String) : Except IoError Trail :=
  names.foldlM d.enter trail

/-- Names to follow from a place on. -/
structure Route where
  start : Trail
  names : List String
  /-- Whether the entry must be a directory, as after a separator at the end of a text. -/
  toDirectory : Bool

/-- The text of a path. -/
def pathText (p : DiskPath) : String := "/" ++ "/".intercalate p

/-- The route of a path. -/
def routeOf (p : DiskPath) : Except IoError Route :=
  if pathLimit ≤ (pathText p).utf8ByteSize then .error .nameTooLong
  else .ok ⟨[], p, false⟩

/-- The route of a text. -/
def route (path : String) : Except IoError Route := do
  let cs := path.toList
  if cs.any fun c => c.toNat = 0 then throw .zeroInPath
  if path = "" then throw .notFound
  if pathLimit ≤ path.utf8ByteSize then throw .nameTooLong
  let start ← if PathText.isAbsolute path then pure [] else d.follow [] d.workingDirectory
  let names := ((pieces cs).filter fun piece => !piece.isEmpty).map String.ofList
  pure ⟨start, names, cs.getLast? = some '/'⟩

/-- The trail to the entry of a route. -/
def reach (r : Route) : Except IoError Trail := do
  let trail ← d.follow r.start r.names
  if r.toDirectory then
    let _ ← d.children trail.node
  pure trail

/-- The directory that holds the last entry of a route, and its name; none when the route ends
without a name of its own. -/
def reachParent (r : Route) : Except IoError (Option (Nat × String)) := do
  match r.names.getLast? with
  | none => pure none
  | some name =>
    let trail ← d.follow r.start r.names.dropLast
    let _ ← d.children trail.node
    if name = "." || name = ".." then pure none
    else if nameLimit < name.utf8ByteSize then throw .nameTooLong
    else pure (some (trail.node, name))

/-- Puts a node in the place of another one. -/
def setNode (i : Nat) (n : DiskNode) : Disk := { d with nodes := d.nodes.set i n }

/-- Links a new node under a directory. -/
def link (parent : Nat) (name : String) (n : DiskNode) : Except IoError (Nat × Disk) := do
  let children ← d.children parent
  let i := d.nodes.length
  let d' := d.setNode parent (.directory (children ++ [(name, i)]))
  pure (i, { d' with nodes := d'.nodes ++ [n] })

/-- Takes a name out of a directory. -/
def unlink (parent : Nat) (name : String) : Except IoError Disk := do
  let children ← d.children parent
  pure (d.setNode parent (.directory (children.filter fun c => c.1 ≠ name)))

/-! ### Entries -/

/-- The node of a route. -/
def nodeAt (r : Route) : Except IoError DiskNode := do
  let trail ← d.reach r
  match d.node? trail.node with
  | some n => pure n
  | none => throw .notFound

/-- Makes a directory. -/
def makeDirectory (r : Route) : Except IoError Disk := do
  match ← d.reachParent r with
  | none => throw .fileExists
  | some (parent, name) =>
    let children ← d.children parent
    match children.lookup name with
    | some _ => throw .fileExists
    | none =>
      let (_, d') ← d.link parent name (.directory [])
      pure d'

/-- Removes an empty directory. -/
def removeDirectory (r : Route) : Except IoError Disk := do
  match ← d.reachParent r with
  | none => throw .busy
  | some (parent, name) =>
    let trail ← d.reach r
    let children ← d.children trail.node
    if children.isEmpty then d.unlink parent name else throw .directoryNotEmpty

/-- Removes a file. -/
def removeFile (r : Route) : Except IoError Disk := do
  match ← d.reachParent r with
  | none => throw .isADirectory
  | some (parent, name) =>
    match ← d.nodeAt r with
    | .file _ => d.unlink parent name
    | .directory _ => throw .isADirectory

/-- Makes sure that a file is there, empty if it is new; answers its node. -/
def createFile (r : Route) : Except IoError (Nat × Disk) := do
  match ← d.reachParent r with
  | none => throw .isADirectory
  | some (parent, name) =>
    if r.toDirectory then throw .isADirectory
    let children ← d.children parent
    match children.lookup name with
    | none => d.link parent name (.file .empty)
    | some i =>
      match d.node? i with
      | some (.file _) => pure (i, d)
      | _ => throw .isADirectory

/-! ### Open files -/

/-- Opens a file, or a directory if it is not to be written. -/
def openFile (r : Route) (write : Bool) : Except IoError (DescriptionId × Disk) := do
  let trail ← d.reach r
  match d.node? trail.node with
  | some (.directory _) => if write then throw .isADirectory
  | some (.file _) => pure ()
  | none => throw .notFound
  let id := d.nextDescription
  pure (id, { d with
    descriptions := (id, ⟨trail.node, false⟩) :: d.descriptions
    nextDescription := id + 1 })

/-- The open file of a description. -/
def description? (id : DescriptionId) : Option Description := d.descriptions.lookup id

/-- Puts an open file in the place of what a description stands for. -/
def setDescription (id : DescriptionId) (f : Description) : Disk :=
  { d with descriptions := d.descriptions.map fun e => if e.1 = id then (id, f) else e }

/-- Whether another description holds the lock of a file. -/
def lockedElsewhere (id : DescriptionId) (node : Nat) : Bool :=
  d.descriptions.any fun e => e.1 ≠ id && e.2.node = node && e.2.locked

/-- Takes the lock of an open file, without waiting. -/
def tryLock (id : DescriptionId) : Except IoError Disk :=
  match d.description? id with
  | none => .error .badFile
  | some f =>
    if d.lockedElsewhere id f.node then .error .wouldBlock
    else .ok (d.setDescription id { f with locked := true })

/-- Gives the lock of an open file up. -/
def unlock (id : DescriptionId) : Except IoError Disk :=
  match d.description? id with
  | none => .error .badFile
  | some f => .ok (d.setDescription id { f with locked := false })

/-- Closes an open file; its lock goes with it. -/
def closeFile (id : DescriptionId) : Disk :=
  { d with descriptions := d.descriptions.filter fun e => e.1 ≠ id }

/-- The bytes of an open file. -/
def contentOf (id : DescriptionId) : Except IoError (Nat × Content) :=
  match d.description? id with
  | none => .error .badFile
  | some f =>
    match d.node? f.node with
    | some (.file data) => .ok (f.node, data)
    | some (.directory _) => .error .isADirectory
    | none => .error .badFile

/-- The greatest offset in a file. -/
def offsetLimit : Nat := 0x7fffffffffffffff

/-- Refuses a stretch of a file that ends past the greatest offset. -/
def checkStretch (offset count : Nat) : Except IoError Unit :=
  if offsetLimit < offset then .error .invalidArgument
  else if 0 < count && offsetLimit < offset + count then .error .invalidArgument
  else .ok ()

/-- Reads from an offset on. -/
def read (id : DescriptionId) (count offset : Nat) : Except IoError (List UInt8) := do
  let (_, data) ← d.contentOf id
  checkStretch offset count
  pure (data.slice offset count)

/-- Writes at an offset.  A gap before it fills up with zeros; no bytes change nothing. -/
def write (id : DescriptionId) (bytes : List UInt8) (offset : Nat) : Except IoError Disk := do
  let (node, data) ← d.contentOf id
  checkStretch offset bytes.length
  if bytes.isEmpty then pure d
  else
    let data := if data.length < offset then data.resize offset else data
    pure (d.setNode node (.file (data.overlay offset bytes)))

/-- Sets the length. -/
def setLength (id : DescriptionId) (length : Nat) : Except IoError Disk := do
  if offsetLimit < length then throw .lengthOverflow
  let (node, data) ← d.contentOf id
  pure (d.setNode node (.file (data.resize length)))

/-- The length. -/
def length (id : DescriptionId) : Except IoError Nat := do
  let (_, data) ← d.contentOf id
  pure data.length

end Disk

end EngineHost

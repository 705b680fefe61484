import EngineHost.Disk.Basic
import EngineHost.Storage.Basic

/-!
# Making and naming directories by text

`Disk.makeAll` makes a directory together with the missing ones above it, `Disk.canonical` gives
the path of an entry without links back up, and `Disk.writeAt` puts a file in place the way another
program would.
-/

namespace EngineHost

namespace PathText

/-- A path and the paths of the directories above it, as far as its text names them. -/
def ancestorsWithin : Nat → String → List String
  | 0, path => [path]
  | fuel + 1, path =>
    match parent? path with
    | some above => path :: ancestorsWithin fuel above
    | none => [path]

/-- A path and the paths of the directories above it.  A text has no more of them than
characters and one. -/
def ancestors (path : String) : List String := ancestorsWithin (path.length + 1) path

end PathText

namespace Disk

/-- The kind of a node. -/
def kindOf : DiskNode → EntryKind
  | .file _ => .file
  | .directory _ => .directory

/-- The kind of the entry of a route. -/
def kindAt (d : Disk) (r : Route) : Except IoError EntryKind := do
  let n ← d.nodeAt r
  pure (kindOf n)

/-- Whether a text names a directory. -/
def isDirectory (d : Disk) (path : String) : Bool :=
  match d.route path >>= d.kindAt with
  | .ok .directory => true
  | _ => false

/-- Makes the first directory of a list, making the next one before it when that is missing. -/
def makeChain : List String → Disk → Except IoError Unit × Disk
  | [], d => (.error .notFound, d)
  | path :: above, d =>
    if path = "" then (.ok (), d)
    else
      let settle (e : IoError) (d : Disk) : Except IoError Unit × Disk :=
        if d.isDirectory path then (.ok (), d) else (.error e, d)
      let make (d : Disk) : Except IoError Disk := d.route path >>= d.makeDirectory
      match make d with
      | .ok d => (.ok (), d)
      | .error e =>
        if e.kind = .notFound then
          match makeChain above d with
          | (.error e, d) => (.error e, d)
          | (.ok (), d) =>
            match make d with
            | .ok d => (.ok (), d)
            | .error e => settle e d
        else settle e d

/-- Makes a directory and the missing ones above it. -/
def makeAll (path : String) (d : Disk) : Except IoError Unit × Disk :=
  makeChain (PathText.ancestors path) d

/-- The path of the entry that a text names. -/
def canonical (d : Disk) (path : String) : Except IoError DiskPath := do
  let r ← d.route path
  let trail ← d.reach r
  pure (trail.reverse.map Prod.fst)

/-- The bytes of the file that a text names. -/
def contentAt (d : Disk) (path : String) : Except IoError (List UInt8) := do
  let r ← d.route path
  match ← d.nodeAt r with
  | .file data => pure data.toList
  | .directory _ => throw .isADirectory

/-- Makes the file that a text names hold the bytes given. -/
def putFile (d : Disk) (path : String) (bytes : List UInt8) : Except IoError Disk := do
  let r ← d.route path
  let (i, d) ← d.createFile r
  pure (d.setNode i (.file (.ofList bytes)))

/-- Makes a file that holds the bytes given, and the directories above it. -/
def writeAt (path : String) (bytes : List UInt8) (d : Disk) : Bool × Disk :=
  let made := match PathText.parent? path with
    | some above => d.makeAll above
    | none => (.ok (), d)
  match made with
  | (.error _, d) => (false, d)
  | (.ok (), d) =>
    match d.putFile path bytes with
    | .ok d => (true, d)
    | .error _ => (false, d)

/-- Removes the entry that a text names, with all that is in it. -/
def removeAll (path : String) (d : Disk) : Bool × Disk :=
  let removed : Except IoError Disk := do
    let r ← d.route path
    let _ ← d.reach r
    match ← d.reachParent r with
    | none => throw .busy
    | some (parent, name) => d.unlink parent name
  match removed with
  | .ok d => (true, d)
  | .error _ => (false, d)

/-- The entries below a node, with their paths and the lengths of the files, down to a depth. -/
def entriesBelow (d : Disk) : Nat → String → Nat → List (String × Option Nat)
  | 0, _, _ => []
  | depth + 1, above, i =>
    match d.node? i with
    | some (.directory children) =>
      children.flatMap fun (name, j) =>
        let path := above ++ name
        match d.node? j with
        | some (.file data) => [(path, some data.length)]
        | _ => (path, none) :: entriesBelow d depth (path ++ "/") j
    | _ => []

/-- The entries below the directory that a text names, in the order of their paths; a directory
has no length. -/
def entries (d : Disk) (path : String) : List (String × Option Nat) :=
  match d.route path >>= d.reach with
  | .error _ => []
  | .ok trail =>
    (d.entriesBelow d.nodes.length "" trail.node).mergeSort fun a b => a.1 ≤ b.1

/-- A disk that holds nothing but a working directory. -/
def blank (workingDirectory : DiskPath) : Disk :=
  let d : Disk := ⟨[.directory []], [], 0, workingDirectory⟩
  (d.makeAll (pathText workingDirectory)).2

end Disk

end EngineHost

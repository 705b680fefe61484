import EngineHost.Storage.Tree

/-!
# Storage in memory

`Storage.memory` is a storage whose state is a `Tree`.  Handles on directories and files are node
numbers; an access handle is a node number and whether it was closed.  A closed handle answers
every call but closing with `StorageError.invalidState`, and closing it again does nothing.
-/

namespace EngineHost

/-- An access handle on a file of a tree. -/
structure MemoryAccess where
  inode : Inode
  closed : Bool := false
  deriving DecidableEq, Repr

namespace MemoryAccess

/-- Refuses a closed handle. -/
def checkOpen (h : MemoryAccess) : Except StorageError Unit :=
  if h.closed then .error .invalidState else .ok ()

end MemoryAccess

namespace Tree

/-- A step that changes the tree. -/
def change (step : Tree → Except StorageError Tree) : StorageM Tree Unit := fun t =>
  match step t with
  | .ok t' => .ok () t'
  | .error e => .error e t

/-- A step that changes the tree and answers. -/
def changeWith {α : Type} (step : Tree → Except StorageError (α × Tree)) : StorageM Tree α :=
  fun t =>
  match step t with
  | .ok (a, t') => .ok a t'
  | .error e => .error e t

/-- A step that only looks. -/
def look {α : Type} (step : Tree → Except StorageError α) : StorageM Tree α := fun t =>
  match step t with
  | .ok a => .ok a t
  | .error e => .error e t

/-- Closing an access handle. -/
def close (h : MemoryAccess) (t : Tree) : Except StorageError Unit × MemoryAccess × Tree :=
  if h.closed then (.ok (), h, t) else (.ok (), { h with closed := true }, t.unlock h.inode)

end Tree

open EngineHost.Tree in
/-- The storage kept in a tree. -/
def Storage.memory (a : Allocator) : Storage Tree where
  Directory := Inode
  File := Inode
  Access := MemoryAccess
  root := pure rootInode
  directory d name create := changeWith fun t => do
    checkName name
    t.lookupOrCreate d name create .directory
  file d name create := changeWith fun t => do
    checkName name
    t.lookupOrCreate d name create .file
  remove d name := change fun t => do
    checkName name
    t.unlink d name
  acquire f := changeWith fun t => do
    let t' ← t.lock f
    pure (⟨f, false⟩, t')
  read h count offset := look fun t => do
    h.checkOpen
    let data ← t.data h.inode
    pure (.ofBytes (data.slice offset.toNat count))
  write h bytes offset := changeWith fun t => do
    h.checkOpen
    let t' ← t.write a h.inode bytes offset.toNat
    pure (bytes.length, t')
  truncate h size := change fun t => do
    h.checkOpen
    t.resize a h.inode size.toNat
  flush h := look fun _ => h.checkOpen
  size h := look fun t => do
    h.checkOpen
    let data ← t.data h.inode
    pure data.length
  close := Tree.close
  release h t := (Tree.close h t).2.2

end EngineHost

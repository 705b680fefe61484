import EngineHost.Storage.Basic
import EngineHost.Storage.Content

/-!
# The tree in memory

`Tree` is a tree of directories and files by node number.  A new node takes the next number and
numbers are never used again, so a handle on a removed node cannot come to mean another one.  The
files share a quota of bytes; `used` is kept equal to the sum of their lengths.

The functions here are the single steps: looking a name up under a directory, linking a new node,
unlinking an old one, changing the length of a file and its bytes, and setting its lock.
-/

namespace EngineHost

/-- The number of a node. -/
abbrev Inode := Nat

/-- A file or a directory. -/
inductive Node where
  | file (data : Content) (locked : Bool)
  | directory (children : List (String × Inode))
  deriving DecidableEq, Repr

namespace Node

/-- A new file. -/
def emptyFile : Node := file .empty false

/-- A new directory. -/
def emptyDirectory : Node := directory []

/-- The kind of a node. -/
def kind : Node → EntryKind
  | file .. => .file
  | directory .. => .directory

/-- A new node of a kind. -/
def ofKind : EntryKind → Node
  | .file => emptyFile
  | .directory => emptyDirectory

/-- The bytes a node counts against the quota. -/
def length : Node → Nat
  | file data _ => data.length
  | directory _ => 0

end Node

/-- Which total lengths of the files the memory has room for. -/
structure Allocator where
  grants : Nat → Bool
  /-- A total that is granted fits the address space. -/
  fits : ∀ n, grants n = true → n < 0x10000000000000000

/-- The greatest length of one file, which is kept in one stretch of memory. -/
def Allocator.longest : Nat := 0x7fffffffffffffff

/-- Whether a file can be grown to a length beside others of a total length. -/
def Allocator.reserves (a : Allocator) (others length : Nat) : Bool :=
  length ≤ longest && a.grants (others + length)

/-- An allocator that grants every total below a limit. -/
def Allocator.below (limit : Nat) (h : limit ≤ 0x10000000000000000) : Allocator where
  grants n := n < limit
  fits _ granted := Nat.lt_of_lt_of_le (of_decide_eq_true granted) h

/-- Memory of the usual address space of a process, which has 47 bits. -/
def Allocator.addressSpace : Allocator := .below 0x800000000000 (by decide)

/-- A tree of files and directories. -/
structure Tree where
  /-- The nodes by number; a removed one leaves a gap. -/
  nodes : List (Option Node)
  /-- The bytes all files together may hold. -/
  quota : UInt64
  /-- The bytes all files together hold. -/
  used : Nat
  deriving DecidableEq, Repr

namespace Tree

/-- The root directory. -/
def rootInode : Inode := 0

/-- The quota of a tree that is not told otherwise, 2 GiB. -/
def defaultQuota : UInt64 := 2147483648

/-- A tree that holds nothing but its root. -/
def empty (quota : UInt64) : Tree := ⟨[some .emptyDirectory], quota, 0⟩

variable (t : Tree)

/-- The node of a number, if it is present. -/
def node? (i : Inode) : Option Node := t.nodes[i]?.join

/-- The number the next new node gets. -/
def nextInode : Inode := t.nodes.length

/-- Puts a node in the place of a present one. -/
def setNode (i : Inode) (n : Node) : Tree := { t with nodes := t.nodes.set i (some n) }

/-- The children of a directory. -/
def children (i : Inode) : Except StorageError (List (String × Inode)) :=
  match t.node? i with
  | some (.directory children) => .ok children
  | some (.file ..) => .error .typeMismatch
  | none => .error .notFound

/-- The bytes of a file. -/
def data (i : Inode) : Except StorageError Content :=
  match t.node? i with
  | some (.file data _) => .ok data
  | some (.directory _) => .error .typeMismatch
  | none => .error .notFound

/-- Links a new node under a directory. -/
def link (parent : Inode) (name : String) (n : Node) : Except StorageError (Inode × Tree) := do
  let children ← t.children parent
  let t' := t.setNode parent (.directory (children ++ [(name, t.nextInode)]))
  pure (t.nextInode, { t' with nodes := t'.nodes ++ [some n] })

/-- The child of a name and kind, linked anew when it is missing and the flag is set. -/
def lookupOrCreate (parent : Inode) (name : String) (create : Bool) (kind : EntryKind) :
    Except StorageError (Inode × Tree) := do
  let children ← t.children parent
  match children.lookup name with
  | some i =>
    match t.node? i with
    | some n => if n.kind = kind then pure (i, t) else throw .typeMismatch
    | none => throw .notFound
  | none => if create then t.link parent name (.ofKind kind) else throw .notFound

/-- Unlinks a child: a file that is not locked or a directory without children. -/
def unlink (parent : Inode) (name : String) : Except StorageError Tree := do
  let children ← t.children parent
  let some i := children.lookup name | throw .notFound
  match t.node? i with
  | some (.file _ true) => throw .noModificationAllowed
  | some (.directory (_ :: _)) => throw .invalidModification
  | n =>
    let t' := t.setNode parent (.directory (children.filter fun c => c.1 ≠ name))
    pure { t' with
      nodes := t'.nodes.set i none
      used := t.used - (n.map Node.length).getD 0 }

/-- The greatest length or offset of a 64-bit word. -/
def wordLimit : Nat := 0xffffffffffffffff

/-- Sets the length of a file.  Growing it must stay within the quota and be granted. -/
def resize (a : Allocator) (i : Inode) (length : Nat) : Except StorageError Tree := do
  let data ← t.data i
  let others := t.used - data.length
  if data.length < length then
    if t.quota.toNat < min (others + length) wordLimit then throw .quotaExceeded
    if !a.reserves others length then throw .quotaExceeded
  match t.node? i with
  | some (.file data locked) =>
    pure { t.setNode i (.file (data.resize length) locked) with used := others + length }
  | _ => throw .notFound

/-- Writes bytes into a file at an offset, growing it as needed. -/
def write (a : Allocator) (i : Inode) (bytes : List UInt8) (offset : Nat) :
    Except StorageError Tree := do
  let stop := offset + bytes.length
  if wordLimit < stop then throw .quotaExceeded
  let data ← t.data i
  let t ← if data.length < stop then t.resize a i stop else pure t
  match t.node? i with
  | some (.file data locked) => pure (t.setNode i (.file (data.overlay offset bytes) locked))
  | _ => throw .notFound

/-- Takes the lock of a file. -/
def lock (i : Inode) : Except StorageError Tree :=
  match t.node? i with
  | some (.file _ true) => .error .noModificationAllowed
  | some (.file data false) => .ok (t.setNode i (.file data true))
  | some (.directory _) => .error .typeMismatch
  | none => .error .notFound

/-- Gives the lock of a file up, if it is still there. -/
def unlock (i : Inode) : Tree :=
  match t.node? i with
  | some (.file data _) => t.setNode i (.file data false)
  | _ => t

end Tree

end EngineHost

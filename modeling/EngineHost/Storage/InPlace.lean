import EngineHost.Storage.Memory

/-!
# Storage in memory, in place

The functions of `Tree` answer the tree that they lead to, and one that fails answers none.  Here
the calls are made on the one tree there is, change by change: a node is looked up where it is
needed, also a second time, and a change that was made stays when a later step fails.

* `TreeCall` : a call on a tree, with the handle it is made through.
* `TreeCall.inPlace`, `TreeCall.inMemory` : the call step by step, and as `Storage.memory` makes it.
-/

namespace EngineHost

namespace Tree

/-- How a call in place ends when it does not get through. -/
inductive Halt where
  /-- The call fails with an error. -/
  | refused (e : StorageError)
  /-- A count leaves its word, or what is written the bytes it is laid over. -/
  | broken
  deriving DecidableEq, Repr

/-- Steps on a tree that is changed in place. -/
abbrev InPlace (α : Type) := EStateM Halt Tree α

namespace InPlace

variable {α : Type}

/-! ### Single steps -/

/-- A storage call as one step. -/
def atomic (x : StorageM Tree α) : InPlace α := fun t =>
  match x t with
  | .ok a t => .ok a t
  | .error e t => .error (.refused e) t

/-- A step that only looks. -/
def ask (x : Tree → Except StorageError α) : InPlace α := atomic (look x)

/-- Ends the call with an error. -/
def refuse (e : StorageError) : InPlace α := throw (.refused e)

/-- The children of a directory. -/
def children (d : Inode) : InPlace (List (String × Inode)) := ask fun t => t.children d

/-- The bytes of a file, and whether it is locked. -/
def file (i : Inode) : InPlace (Content × Bool) := ask fun t =>
  match t.node? i with
  | some (.file data locked) => .ok (data, locked)
  | some (.directory _) => .error .typeMismatch
  | none => .error .notFound

/-- Puts a node in the place of a present one. -/
def put (i : Inode) (n : Node) : InPlace Unit := modify fun t => t.setNode i n

/-- Puts a node in the place of the next number. -/
def add (n : Node) : InPlace Unit := modify fun t => { t with nodes := t.nodes ++ [some n] }

/-- Takes a node out. -/
def take (i : Inode) : InPlace (Option Node) :=
  modifyGet fun t => (t.node? i, { t with nodes := t.nodes.set i none })

/-- The count of used bytes without those of a file. -/
def usedWithout (length : Nat) : InPlace Nat := fun t =>
  if length ≤ t.used then .ok (t.used - length) t else .error .broken t

/-- Sets the count of used bytes. -/
def setUsed (count : Nat) : InPlace Unit := fun t =>
  if count ≤ wordLimit then .ok () { t with used := count } else .error .broken t

/-! ### The functions of the tree -/

/-- Links a new node under a directory: first its name, then the node. -/
def link (parent : Inode) (name : String) (n : Node) : InPlace Inode := do
  let i := (← get).nextInode
  let children ← children parent
  put parent (.directory (children ++ [(name, i)]))
  add n
  pure i

/-- The child of a name and kind, linked anew when it is missing and the flag is set. -/
def lookupOrCreate (parent : Inode) (name : String) (create : Bool) (kind : EntryKind) :
    InPlace Inode := do
  let children ← children parent
  match children.lookup name with
  | some i =>
    match (← get).node? i with
    | some n => if n.kind = kind then pure i else refuse .typeMismatch
    | none => refuse .notFound
  | none => if create then link parent name (.ofKind kind) else refuse .notFound

/-- Unlinks a child: first its name, then the node, then what it counts. -/
def unlink (parent : Inode) (name : String) : InPlace Unit := do
  let found ← children parent
  let some i := found.lookup name | refuse .notFound
  match (← get).node? i with
  | some (.file _ true) => refuse .noModificationAllowed
  | some (.directory (_ :: _)) => refuse .invalidModification
  | _ =>
    let children ← children parent
    put parent (.directory (children.filter fun c => c.1 ≠ name))
    if let some (.file data _) ← take i then
      let count ← usedWithout data.length
      setUsed count

/-- Sets the length of a file, and then the count of used bytes. -/
def resize (a : Allocator) (i : Inode) (length : Nat) : InPlace Unit := do
  let (current, _) ← file i
  let others ← usedWithout current.length
  if current.length < length ∧ (← get).quota.toNat < min (others + length) wordLimit then
    refuse .quotaExceeded
  let (data, locked) ← file i
  if data.length < length ∧ !a.reserves others length then
    refuse .quotaExceeded
  put i (.file (data.resize length) locked)
  setUsed (others + length)

/-- Writes bytes into a file at an offset, growing it first as needed. -/
def write (a : Allocator) (i : Inode) (bytes : List UInt8) (offset : Nat) : InPlace Unit := do
  if wordLimit < offset + bytes.length then
    refuse .quotaExceeded
  let (current, _) ← file i
  if current.length < offset + bytes.length then
    resize a i (offset + bytes.length)
  let (data, locked) ← file i
  if data.length < offset + bytes.length then
    throw .broken
  put i (.file (data.overlay offset bytes) locked)

/-- Takes the lock of a file. -/
def lock (i : Inode) : InPlace Unit := do
  let (data, locked) ← file i
  if locked then
    refuse .noModificationAllowed
  put i (.file data true)

end InPlace

end Tree

/-- A call on a tree, through any handle. -/
inductive TreeCall where
  | directory (d : Inode) (name : String) (create : Bool)
  | file (d : Inode) (name : String) (create : Bool)
  | remove (d : Inode) (name : String)
  | acquire (f : Inode)
  | read (h : MemoryAccess) (count : Nat) (offset : UInt64)
  | write (h : MemoryAccess) (bytes : List UInt8) (offset : UInt64)
  | truncate (h : MemoryAccess) (length : UInt64)
  | flush (h : MemoryAccess)
  | size (h : MemoryAccess)
  | close (h : MemoryAccess)
  deriving DecidableEq, Repr

namespace TreeCall

open EngineHost.Tree

/-- What a call answers when it succeeds; closing answers the handle as it is afterwards. -/
abbrev Answer : TreeCall → Type
  | directory .. | file .. => Inode
  | remove .. | truncate .. | flush _ => Unit
  | acquire _ | close _ => MemoryAccess
  | read .. => Chunk
  | write .. | size _ => Nat

/-- A call on the storage in memory. -/
def inMemory (a : Allocator) : (c : TreeCall) → StorageM Tree c.Answer
  | directory d name create => (Storage.memory a).directory d name create
  | file d name create => (Storage.memory a).file d name create
  | remove d name => (Storage.memory a).remove d name
  | acquire f => (Storage.memory a).acquire f
  | read h count offset => (Storage.memory a).read h count offset
  | write h bytes offset => (Storage.memory a).write h bytes offset
  | truncate h length => (Storage.memory a).truncate h length
  | flush h => (Storage.memory a).flush h
  | size h => (Storage.memory a).size h
  | close h => fun t =>
    match (Storage.memory a).close h t with
    | (.ok (), h, t) => .ok h t
    | (.error e, _, t) => .error e t

/-- A call, step by step: what can be told from its name or its handle is checked first. -/
def inPlace (a : Allocator) : (c : TreeCall) → InPlace c.Answer
  | directory d name create => do
    InPlace.ask fun _ => checkName name
    InPlace.lookupOrCreate d name create .directory
  | file d name create => do
    InPlace.ask fun _ => checkName name
    InPlace.lookupOrCreate d name create .file
  | remove d name => do
    InPlace.ask fun _ => checkName name
    InPlace.unlink d name
  | acquire f => do
    InPlace.lock f
    pure ⟨f, false⟩
  | read h count offset => do
    InPlace.ask fun _ => h.checkOpen
    let (data, _) ← InPlace.file h.inode
    pure (.ofBytes (data.slice offset.toNat count))
  | write h bytes offset => do
    InPlace.ask fun _ => h.checkOpen
    InPlace.write a h.inode bytes offset.toNat
    pure bytes.length
  | truncate h length => do
    InPlace.ask fun _ => h.checkOpen
    InPlace.resize a h.inode length.toNat
  | flush h => InPlace.ask fun _ => h.checkOpen
  | size h => do
    InPlace.ask fun _ => h.checkOpen
    let (data, _) ← InPlace.file h.inode
    pure data.length
  | close h => do
    unless h.closed do
      modify fun t => t.unlock h.inode
    pure { h with closed := true }

end TreeCall

end EngineHost

import EngineHost.Storage.Error

/-!
# Storages

A `Storage σ` is a tree of directories and files kept in a state `σ`, given by the calls that
others may make on it: walking to entries, removing them, and working on a file through an access
handle, which is exclusive to its holder until it is closed or released.  The types of handles
belong to the storage, so that code over a storage can do nothing with a handle but pass it on.

* `Storage.absent` is the storage of a host that has none.
* `Storage.onFirst` and `Storage.onSecond` let a storage live in one half of a larger state.
-/

namespace EngineHost

/-- A storage call: it may fail, and it may change the state either way. -/
abbrev StorageM (σ : Type) := EStateM StorageError σ

/-- The kinds of entries of a storage. -/
inductive EntryKind where
  | file
  | directory
  deriving DecidableEq, Repr

/-- The answer to a read: how many bytes it reports, and the bytes it puts at the front of the
buffer. -/
structure Chunk where
  count : Nat
  bytes : List UInt8
  deriving DecidableEq, Repr

/-- The chunk of the bytes read. -/
def Chunk.ofBytes (bytes : List UInt8) : Chunk := ⟨bytes.length, bytes⟩

/-- A tree of directories and files in a state `σ`. -/
structure Storage (σ : Type) where
  /-- Handles on directories. -/
  Directory : Type
  /-- Handles on files. -/
  File : Type
  /-- Exclusive handles for reading and writing one file. -/
  Access : Type
  /-- The root directory, or an error when the storage is unavailable. -/
  root : StorageM σ Directory
  /-- The child directory of a name, created when the flag is set and it is missing. -/
  directory : Directory → String → Bool → StorageM σ Directory
  /-- The child file of a name, created empty when the flag is set and it is missing. -/
  file : Directory → String → Bool → StorageM σ File
  /-- Removes a child: a file without open access handle or an empty directory. -/
  remove : Directory → String → StorageM σ Unit
  /-- Takes the access handle of a file; refused while another one is open. -/
  acquire : File → StorageM σ Access
  /-- Reads up to a number of bytes from an offset on; fewer at the end of the file. -/
  read : Access → (count : Nat) → (offset : UInt64) → StorageM σ Chunk
  /-- Writes bytes at an offset, growing the file as needed, and answers how many. -/
  write : Access → List UInt8 → (offset : UInt64) → StorageM σ Nat
  /-- Sets the length of the file. -/
  truncate : Access → (size : UInt64) → StorageM σ Unit
  /-- Makes what was written durable. -/
  flush : Access → StorageM σ Unit
  /-- The length of the file. -/
  size : Access → StorageM σ Nat
  /-- Gives up the exclusive hold and answers the handle as it is afterwards. -/
  close : Access → σ → Except StorageError Unit × Access × σ
  /-- What happens when the holder forgets a handle, closed or not. -/
  release : Access → σ → σ

namespace Storage

variable {σ τ : Type}

/-- No storage at all. -/
def absent : Storage σ where
  Directory := Empty
  File := Empty
  Access := Empty
  root := throw .unsupported
  directory := nofun
  file := nofun
  remove := nofun
  acquire := nofun
  read := nofun
  write := nofun
  truncate := nofun
  flush := nofun
  size := nofun
  close := nofun
  release := nofun

/-- A call on the first half of a state. -/
def liftFirst {α : Type} (x : StorageM σ α) : StorageM (σ × τ) α := fun (s, t) =>
  match x s with
  | .ok a s => .ok a (s, t)
  | .error e s => .error e (s, t)

/-- A call on the second half of a state. -/
def liftSecond {α : Type} (x : StorageM τ α) : StorageM (σ × τ) α := fun (s, t) =>
  match x t with
  | .ok a t => .ok a (s, t)
  | .error e t => .error e (s, t)

/-- A storage in the first half of a state. -/
def onFirst (S : Storage σ) : Storage (σ × τ) where
  Directory := S.Directory
  File := S.File
  Access := S.Access
  root := liftFirst S.root
  directory d name create := liftFirst (S.directory d name create)
  file d name create := liftFirst (S.file d name create)
  remove d name := liftFirst (S.remove d name)
  acquire f := liftFirst (S.acquire f)
  read h count offset := liftFirst (S.read h count offset)
  write h data offset := liftFirst (S.write h data offset)
  truncate h size := liftFirst (S.truncate h size)
  flush h := liftFirst (S.flush h)
  size h := liftFirst (S.size h)
  close h := fun (s, t) =>
    let (result, h, s) := S.close h s
    (result, h, s, t)
  release h := fun (s, t) => (S.release h s, t)

/-- A storage in the second half of a state. -/
def onSecond (S : Storage τ) : Storage (σ × τ) where
  Directory := S.Directory
  File := S.File
  Access := S.Access
  root := liftSecond S.root
  directory d name create := liftSecond (S.directory d name create)
  file d name create := liftSecond (S.file d name create)
  remove d name := liftSecond (S.remove d name)
  acquire f := liftSecond (S.acquire f)
  read h count offset := liftSecond (S.read h count offset)
  write h data offset := liftSecond (S.write h data offset)
  truncate h size := liftSecond (S.truncate h size)
  flush h := liftSecond (S.flush h)
  size h := liftSecond (S.size h)
  close h := fun (s, t) =>
    let (result, h, t) := S.close h t
    (result, h, s, t)
  release h := fun (s, t) => (s, S.release h t)

end Storage

end EngineHost

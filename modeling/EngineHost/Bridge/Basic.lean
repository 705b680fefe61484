import EngineHost.Bridge.Error
import EngineHost.Storage.Basic
import EngineHost.Storage.Path

/-!
# The bridge

A `Bridge S` gives a storage engine the files of a storage `S` by small positive numbers, its
descriptors.  Every operation answers one integer: what was asked for, or a negative status.

* The storage is asked for its root once, by `Bridge.probe`.
* A descriptor stands for an exclusive access handle on its file.  The handle is given up when the
  descriptor is closed, when opening fails after the handle was taken, and when the bridge goes.
* Descriptors count up from 1 and are never used again.
-/

namespace EngineHost

variable {σ : Type}

/-- An open file. -/
structure OpenFile (S : Storage σ) where
  handle : S.Access
  /-- The path it was opened by, without leading separators. -/
  path : String

/-- The files a storage engine has open. -/
structure Bridge (S : Storage σ) where
  /-- The root of the storage, once it was asked for and is available. -/
  root : Option S.Directory
  /-- Whether the storage was asked. -/
  probed : Bool
  /-- The open files by descriptor. -/
  files : List (Int × OpenFile S)
  /-- The descriptor the next file gets. -/
  nextFd : Int

/-- A step that a bridge takes on its storage. -/
abbrev BridgeM (S : Storage σ) := StateM (Bridge S × σ)

/-- A step that can fail; what it did before it failed stays done. -/
abbrev BridgeAttempt (S : Storage σ) := EStateM VfsError (Bridge S × σ)

namespace Storage

/-- Walks from a directory down by names, making the missing directories if the flag is set. -/
def walk (S : Storage σ) (create : Bool) : S.Directory → List String → StorageM σ S.Directory
  | d, [] => pure d
  | d, name :: rest => do
    let child ← S.directory d name create
    S.walk create child rest

end Storage

namespace Bridge

variable {S : Storage σ}

/-- A bridge that has not asked its storage yet. -/
def new : Bridge S := ⟨none, false, [], 1⟩

/-- Whether there is a storage. -/
def isAvailable (b : Bridge S) : Bool := b.root.isSome

/-- The number of open files. -/
def openDescriptors (b : Bridge S) : Nat := b.files.length

/-- The open file of a descriptor. -/
def file? (b : Bridge S) (fd : Int) : Option (OpenFile S) := b.files.lookup fd

/-- The path of an open file. -/
def pathOf (b : Bridge S) (fd : Int) : Option String := (b.file? fd).map OpenFile.path

/-- The number at which descriptors run out: no file gets it. -/
def lastFd : Int := 0x7fffffff

/-! ### Steps -/

/-- A storage call, with the error it means when it fails. -/
def callWith {α : Type} (cause : StorageError → VfsError) (x : StorageM σ α) :
    BridgeAttempt S α := fun (b, s) =>
  match x s with
  | .ok a s => .ok a (b, s)
  | .error e s => .error (cause e) (b, s)

/-- A storage call of an operation. -/
def call {α : Type} (op : IoOp) (x : StorageM σ α) : BridgeAttempt S α :=
  callWith (.storage op) x

/-- The answer of a step: what it found, as an integer, or the status of its error. -/
def answer {α : Type} (x : BridgeAttempt S α) (value : α → Int) : BridgeM S Int := fun w =>
  match x w with
  | .ok a w => (value a, w)
  | .error e w => (e.status, w)

/-- The root of the storage. -/
def requireRoot : BridgeAttempt S S.Directory := fun (b, s) =>
  match b.root with
  | some root => .ok root (b, s)
  | none => .error .unavailable (b, s)

/-- The open file of a descriptor. -/
def requireFile (fd : Int) : BridgeAttempt S (OpenFile S) := fun (b, s) =>
  match b.file? fd with
  | some file => .ok file (b, s)
  | none => .error (.badDescriptor fd) (b, s)

/-- A step that holds an access handle: when it fails, the handle is given up. -/
def holding {α : Type} (h : S.Access) (x : BridgeAttempt S α) : BridgeAttempt S α := fun w =>
  match x w with
  | .ok a w => .ok a w
  | .error e (b, s) => .error e (b, S.release h s)

/-- Enters an open file under the next descriptor. -/
def enter (file : OpenFile S) : BridgeAttempt S Int := fun (b, s) =>
  if b.nextFd < lastFd then
    .ok b.nextFd ({ b with files := (b.nextFd, file) :: b.files, nextFd := b.nextFd + 1 }, s)
  else .error .descriptorsExhausted (b, s)

/-! ### Operations -/

/-- Asks the storage for its root, the first time only; answers whether there is one. -/
def probe : BridgeM S Bool := fun (b, s) =>
  if b.probed then (b.isAvailable, b, s)
  else
    match S.root s with
    | .ok root s => (true, { b with root := some root, probed := true }, s)
    | .error _ s => (false, { b with probed := true }, s)

/-- Finding a file to open, and the form of its path to remember: its parent directories are made,
the file itself if the flags say so. -/
def locate (path : String) (flags : OpenFlags) : BridgeAttempt S (S.File × String) := do
  let root ← requireRoot
  let some p := StoragePath.parse path | throw (.invalidPath .openFile path)
  let parent ← call .openFile (S.walk true root p.parents)
  let notFound : StorageError → VfsError
    | .notFound => .notFound p.normalized
    | e => .storage .openFile e
  let file ← callWith notFound (S.file parent p.fileName (flags.has .create))
  pure (file, p.normalized)

/-- What is done to a file before it gets its descriptor. -/
def prepare (handle : S.Access) (flags : OpenFlags) : BridgeAttempt S Unit := do
  if flags.has .truncate then
    call .openFile (S.truncate handle 0)
    call .openFile (S.flush handle)
  let _ ← call .openFile (S.size handle)

/-- Opening a file. -/
def tryOpen (path : String) (flags : OpenFlags) : BridgeAttempt S Int := do
  let (file, normalized) ← locate path flags
  let handle ← call .openFile (S.acquire file)
  holding handle do
    prepare handle flags
    enter ⟨handle, normalized⟩

/-- Opens a file; answers its descriptor. -/
def openFile (path : String) (flags : Int32) : BridgeM S Int :=
  answer (tryOpen path (.ofWord flags)) id

/-- Closes a descriptor, which is gone even when closing fails. -/
def closeFile (fd : Int) : BridgeM S Int := fun (b, s) =>
  match b.file? fd with
  | none => ((VfsError.badDescriptor fd).status, b, s)
  | some file =>
    let (result, handle, s) := S.close file.handle s
    let status := match result with
      | .ok () => Status.ok
      | .error e => (VfsError.storage .closeFile e).status
    (status, { b with files := b.files.filter fun f => f.1 ≠ fd }, S.release handle s)

/-- A buffer with the bytes of a chunk laid over its front. -/
def fill (buffer : List UInt8) (chunk : Chunk) : List UInt8 :=
  chunk.bytes.take buffer.length ++ buffer.drop chunk.bytes.length

/-- Reads from an offset on, as much as fits a buffer; answers how many bytes, and the buffer. -/
def read (fd : Int) (buffer : List UInt8) (offset : UInt64) : BridgeM S (Int × List UInt8) :=
  fun w =>
    let attempt : BridgeAttempt S Chunk := do
      let file ← requireFile fd
      call .read (S.read file.handle buffer.length offset)
    match attempt w with
    | .ok chunk w => ((Status.ofCount chunk.count, fill buffer chunk), w)
    | .error e w => ((e.status, buffer), w)

/-- Writes bytes at an offset and makes them durable; answers how many. -/
def write (fd : Int) (data : List UInt8) (offset : UInt64) : BridgeM S Int :=
  let attempt : BridgeAttempt S Nat := do
    let file ← requireFile fd
    let written ← call .write (S.write file.handle data offset)
    call .write (S.flush file.handle)
    pure written
  answer attempt Status.ofCount

/-- Sets the length of a file and makes it durable. -/
def truncate (fd : Int) (size : UInt64) : BridgeM S Int :=
  let attempt : BridgeAttempt S Unit := do
    let file ← requireFile fd
    call .truncate (S.truncate file.handle size)
    call .truncate (S.flush file.handle)
  answer attempt fun _ => Status.ok

/-- Makes durable what was written. -/
def sync (fd : Int) : BridgeM S Int :=
  let attempt : BridgeAttempt S Unit := do
    let file ← requireFile fd
    call .sync (S.flush file.handle)
  answer attempt fun _ => Status.ok

/-- The length of a file. -/
def fileSize (fd : Int) : BridgeM S Int :=
  let attempt : BridgeAttempt S Nat := do
    let file ← requireFile fd
    call .fileSize (S.size file.handle)
  answer attempt Status.ofSize

/-- The directory that holds the entry of a path, if it can be reached. -/
def lookupParent (root : S.Directory) (p : StoragePath) : BridgeM S (Option S.Directory) :=
  fun (b, s) =>
    match S.walk false root p.parents s with
    | .ok parent s => (some parent, b, s)
    | .error _ s => (none, b, s)

/-- A bridge step as one that cannot fail. -/
def attempt {α : Type} (x : BridgeM S α) : BridgeAttempt S α := fun w =>
  let (a, w) := x w
  .ok a w

/-- Deleting the entry of a path; an entry that is not there counts as deleted. -/
def tryDelete (path : String) : BridgeAttempt S Unit := do
  let root ← requireRoot
  let some p := StoragePath.parse path | throw (.invalidPath .delete path)
  let some parent ← attempt (lookupParent root p) | pure ()
  fun (b, s) =>
    match S.remove parent p.fileName s with
    | .ok () s => .ok () (b, s)
    | .error .notFound s => .ok () (b, s)
    | .error e s => .error (.storage .delete e) (b, s)

/-- Deletes the entry of a path. -/
def delete (path : String) : BridgeM S Int := answer (tryDelete path) fun _ => Status.ok

/-- Whether a path names a file. -/
def tryAccess (path : String) : BridgeAttempt S Bool := do
  let root ← requireRoot
  let some p := StoragePath.parse path | pure false
  let some parent ← attempt (lookupParent root p) | pure false
  fun (b, s) =>
    match S.file parent p.fileName false s with
    | .ok _ s => .ok true (b, s)
    | .error .notFound s => .ok false (b, s)
    | .error e s => .error (.storage .access e) (b, s)

/-- Asks whether a path names a file. -/
def access (path : String) : BridgeM S Int :=
  answer (tryAccess path) fun found => if found then Status.present else Status.absent

/-- Locking changes nothing: an open file is held exclusively as it is. -/
def lock (fd : Int) (_level : Int32) : BridgeM S Int := answer (requireFile fd) fun _ => Status.ok

/-- Unlocking changes nothing either. -/
def unlock (fd : Int) (_level : Int32) : BridgeM S Int :=
  answer (requireFile fd) fun _ => Status.ok

/-- The end of a bridge: it closes all its files. -/
def dispose (b : Bridge S) (s : σ) : σ :=
  b.files.foldl (fun s f =>
    let (_, handle, s) := S.close f.2.handle s
    S.release handle s) s

end Bridge

end EngineHost

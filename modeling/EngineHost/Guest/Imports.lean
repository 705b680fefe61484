import EngineHost.Guest.Basic

/-!
# The imports

The functions that a module finds in the space `env`: the operations of the bridge, with paths and
data given as stretches of the guest's memory.  Pointers and lengths are unsigned words.

A negative offset or size is refused first; then a stretch outside the memory, or no memory at all;
then a path that is not UTF-8.  What is refused changes nothing.
-/

namespace EngineHost

variable {σ : Type} {S : Storage σ}

/-- Why a stretch of memory gives no bytes or no path. -/
inductive StretchFault where
  /-- The imports reach no memory. -/
  | noMemory
  /-- The stretch does not lie inside the memory. -/
  | outOfRange
  /-- The bytes are not UTF-8. -/
  | notUtf8
  deriving DecidableEq, Repr

namespace Guest

/-- A pointer or a length as an unsigned number. -/
def unsigned (n : Int32) : Nat := n.toUInt32.toNat

/-- An offset or a size, unless it is negative. -/
def offset? (n : Int64) : Option UInt64 := if n < 0 then none else some n.toUInt64

/-- The bytes of a stretch. -/
def bytesAt (g : Guest S) (pointer length : Int32) : Except StretchFault (List UInt8) :=
  match g.reachable with
  | none => .error .noMemory
  | some m =>
    match m.load (unsigned pointer) (unsigned length) with
    | some bytes => .ok bytes
    | none => .error .outOfRange

/-- The path in a stretch. -/
def pathAt (g : Guest S) (pointer length : Int32) : Except StretchFault String :=
  match g.bytesAt pointer length with
  | .error e => .error e
  | .ok bytes =>
    match String.fromUTF8? ⟨bytes.toArray⟩ with
    | some path => .ok path
    | none => .error .notUtf8

/-- Puts bytes into the memory; outside of it nothing happens. -/
def put (g : Guest S) (pointer : Int32) (bytes : List UInt8) : Guest S :=
  match g.memory with
  | some m => { g with memory := some ((m.store (unsigned pointer) bytes).getD m) }
  | none => g

/-! ### Operations -/

/-- Opens the file of a path. -/
def openFile (pointer length flags : Int32) : GuestM S Int := fun (g, s) =>
  match g.pathAt pointer length with
  | .ok path => onBridge (Bridge.openFile path flags) (g, s)
  | .error .notUtf8 => (Status.cannotOpen, g, s)
  | .error _ => (Status.error, g, s)

/-- Closes a descriptor. -/
def closeFile (fd : Int32) : GuestM S Int := onBridge (Bridge.closeFile fd.toInt)

/-- Reads into a stretch; only the bytes that were read are put there. -/
def read (fd pointer length : Int32) (offset : Int64) : GuestM S Int := fun (g, s) =>
  match offset? offset, g.bytesAt pointer length with
  | none, _ => (Status.ioError, g, s)
  | some _, .error _ => (Status.error, g, s)
  | some offset, .ok _ =>
    let buffer := List.replicate (unsigned length) 0
    let ((count, buffer), g, s) := onBridge (Bridge.read fd.toInt buffer offset) (g, s)
    (count, if 0 < count then g.put pointer (buffer.take count.toNat) else g, s)

/-- Writes what is in a stretch. -/
def write (fd pointer length : Int32) (offset : Int64) : GuestM S Int := fun (g, s) =>
  match offset? offset, g.bytesAt pointer length with
  | none, _ => (Status.ioError, g, s)
  | some _, .error _ => (Status.error, g, s)
  | some offset, .ok bytes => onBridge (Bridge.write fd.toInt bytes offset) (g, s)

/-- Sets the length of a file. -/
def truncate (fd : Int32) (size : Int64) : GuestM S Int := fun (g, s) =>
  match offset? size with
  | none => (Status.ioError, g, s)
  | some size => onBridge (Bridge.truncate fd.toInt size) (g, s)

/-- Makes durable what was written. -/
def sync (fd : Int32) : GuestM S Int := onBridge (Bridge.sync fd.toInt)

/-- The length of a file. -/
def fileSize (fd : Int32) : GuestM S Int := onBridge (Bridge.fileSize fd.toInt)

/-- Deletes the entry of a path. -/
def delete (pointer length : Int32) : GuestM S Int := fun (g, s) =>
  match g.pathAt pointer length with
  | .ok path => onBridge (Bridge.delete path) (g, s)
  | .error _ => (Status.error, g, s)

/-- Asks whether a path names a file. -/
def access (pointer length : Int32) : GuestM S Int := fun (g, s) =>
  match g.pathAt pointer length with
  | .ok path => onBridge (Bridge.access path) (g, s)
  | .error _ => (Status.error, g, s)

/-- Locks a descriptor. -/
def lock (fd level : Int32) : GuestM S Int := onBridge (Bridge.lock fd.toInt level)

/-- Unlocks a descriptor. -/
def unlock (fd level : Int32) : GuestM S Int := onBridge (Bridge.unlock fd.toInt level)

end Guest

/-! ### The table of imports -/

/-- The functions a module finds in its import space. -/
inductive ImportName where
  | openFile
  | closeFile
  | read
  | write
  | truncate
  | sync
  | fileSize
  | delete
  | access
  | lock
  | unlock
  deriving DecidableEq, Repr

namespace ImportName

/-- The space the imports are in. -/
def space : String := "env"

/-- All imports, in their order. -/
def all : List ImportName :=
  [openFile, closeFile, read, write, truncate, sync, fileSize, delete, access, lock, unlock]

/-- The name of an import without its beginning. -/
def shortName : ImportName → String
  | openFile => "open"
  | closeFile => "close"
  | read => "read"
  | write => "write"
  | truncate => "truncate"
  | sync => "sync"
  | fileSize => "file_size"
  | delete => "delete"
  | access => "access"
  | lock => "lock"
  | unlock => "unlock"

/-- The name of an import. -/
def name (i : ImportName) : String := "isar_opfs_" ++ i.shortName

/-- The types an import takes. -/
def params : ImportName → List ValueType
  | openFile => [.i32, .i32, .i32]
  | closeFile => [.i32]
  | read => [.i32, .i32, .i32, .i64]
  | write => [.i32, .i32, .i32, .i64]
  | truncate => [.i32, .i64]
  | sync => [.i32]
  | fileSize => [.i32]
  | delete => [.i32, .i32]
  | access => [.i32, .i32]
  | lock => [.i32, .i32]
  | unlock => [.i32, .i32]

/-- The type an import gives. -/
def resultType : ImportName → ValueType
  | fileSize => .i64
  | _ => .i32

/-- What a module says of an import that it expects. -/
def toImport (i : ImportName) : Import := ⟨space, i.name, i.params, [i.resultType]⟩

/-- What an import does with arguments of its types; it answers an integer. -/
def status (i : ImportName) (args : List Value) : Option (GuestM S Int) :=
  match i, args with
  | openFile, [.i32 pointer, .i32 length, .i32 flags] => some (Guest.openFile pointer length flags)
  | closeFile, [.i32 fd] => some (Guest.closeFile fd)
  | read, [.i32 fd, .i32 pointer, .i32 length, .i64 offset] =>
    some (Guest.read fd pointer length offset)
  | write, [.i32 fd, .i32 pointer, .i32 length, .i64 offset] =>
    some (Guest.write fd pointer length offset)
  | truncate, [.i32 fd, .i64 size] => some (Guest.truncate fd size)
  | sync, [.i32 fd] => some (Guest.sync fd)
  | fileSize, [.i32 fd] => some (Guest.fileSize fd)
  | delete, [.i32 pointer, .i32 length] => some (Guest.delete pointer length)
  | access, [.i32 pointer, .i32 length] => some (Guest.access pointer length)
  | lock, [.i32 fd, .i32 level] => some (Guest.lock fd level)
  | unlock, [.i32 fd, .i32 level] => some (Guest.unlock fd level)
  | _, _ => none

/-- An integer as the value that an import gives. -/
def value (i : ImportName) (n : Int) : Value :=
  match i.resultType with
  | .i64 => .i64 (Int64.ofInt n)
  | _ => .i32 (Int32.ofInt n)

/-- An import as a guest function. -/
def function (i : ImportName) : Function S where
  params := i.params
  results := [i.resultType]
  run args := fun w =>
    match i.status args with
    | some x =>
      let (n, w) := x w
      .ok [i.value n] w
    | none => .error .unreachable w

end ImportName

/-- Why a module cannot be started. -/
inductive StartFault where
  /-- It imports something that is not there. -/
  | unknownImport (space name : String)
  /-- It imports something of another type. -/
  | wrongImport (space name : String)
  /-- Its start function trapped. -/
  | trap (t : Trap)
  deriving DecidableEq, Repr

/-- The words for a fault. -/
def StartFault.message : StartFault → String
  | unknownImport space name =>
    "Error while importing \"" ++ space ++ "\".\"" ++ name ++ "\": unknown import"
  | wrongImport space name =>
    "Error while importing \"" ++ space ++ "\".\"" ++ name ++ "\": incompatible import type"
  | trap t => t.message

/-- Checks that an import is there and has the type that a module expects. -/
def Import.check (i : Import) : Except StartFault Unit :=
  if i.space ≠ ImportName.space then .error (.unknownImport i.space i.name)
  else
    match ImportName.all.find? fun known => known.name = i.name with
    | none => .error (.unknownImport i.space i.name)
    | some known =>
      if known.toImport = i then .ok () else .error (.wrongImport i.space i.name)

/-- Starts a module over a bridge.  The imports reach its memory only after its start function has
run. -/
def Module.launch (m : Module S) (bridge : Bridge S) (s : σ) :
    Except StartFault Unit × Guest S × σ :=
  match m.imports.forM Import.check with
  | .error e => (.error e, m.guest bridge, s)
  | .ok () =>
    match m.start (m.guest bridge, s) with
    | .error t (g, s) => (.error (.trap t), g, s)
    | .ok () (g, s) => (.ok (), if m.exportsMemory then g.attach else g, s)

end EngineHost

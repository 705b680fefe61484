import EngineHost.Guest.Imports

/-!
# Known modules

The host does not run machine code: it knows modules by their content.  `KnownModule` lists them and
`KnownModule.module` gives each as a table of imports, exports and functions; `compile` finds the
module of a content.

* `engine` offers all imports again under their short names, and functions that store, compute,
  trap, count and give back values of every type.
* `bare` has no memory, `odd` exports it under another name, `early` uses the imports before they
  reach its memory.
* The others import what is not there or trap while starting.
-/

namespace EngineHost

variable {σ : Type} {S : Storage σ}

namespace Function

/-- A function that neither traps nor uses its guest. -/
def pure (params results : List ValueType) (f : List Value → List Value) : Function S :=
  ⟨params, results, fun args w => .ok (f args) w⟩

/-- A function that gives its argument back. -/
def identity (type : ValueType) : Function S := pure [type] [type] id

/-- A function without arguments that always gives the same. -/
def constant (values : List Value) : Function S := pure [] (values.map Value.type) fun _ => values

/-- A function that always traps. -/
def trapping (t : Trap) : Function S := ⟨[], [], fun _ w => .error t w⟩

/-- A function on two integers of 32 bits. -/
def onWords (f : Int32 → Int32 → Except Trap Int32) : Function S :=
  ⟨[.i32, .i32], [.i32], fun args w =>
    match args with
    | [.i32 a, .i32 b] =>
      match f a b with
      | .ok c => .ok [.i32 c] w
      | .error t => .error t w
    | _ => .error .unreachable w⟩

end Function

namespace Guest

/-- A number of the guest's own. -/
def global (g : Guest S) (i : Nat) : Int32 := g.globals[i]?.getD 0

/-- Sets a number of the guest's own. -/
def setGlobal (g : Guest S) (i : Nat) (n : Int32) : Guest S :=
  { g with globals := g.globals.set i n }

/-- The lowest bytes of a number, the lowest first. -/
def littleEndian : (count : Nat) → Nat → List UInt8
  | 0, _ => []
  | count + 1, n => UInt8.ofNat (n % 256) :: littleEndian count (n / 256)

/-- Loads a byte of the guest's own memory. -/
def loadByte (address : Int32) : GuestRun S (List Value) := fun (g, s) =>
  match g.memory.bind fun m => m.load (unsigned address) 1 with
  | some [b] => .ok [.i32 (Int32.ofInt b.toNat)] (g, s)
  | _ => .error .outOfBounds (g, s)

/-- Stores bytes in the guest's own memory. -/
def storeBytes (address : Int32) (bytes : List UInt8) : GuestRun S (List Value) := fun (g, s) =>
  match g.memory.bind fun m => m.store (unsigned address) bytes with
  | some m => .ok [] ({ g with memory := some m }, s)
  | none => .error .outOfBounds (g, s)

/-- The number of pages of the guest's memory. -/
def pageCount (g : Guest S) : Nat := (g.memory.map LinearMemory.pages).getD 0

/-- Grows the guest's memory; answers the number of pages before, or `-1` if it may not grow. -/
def growMemory (more : Int32) : GuestRun S (List Value) := fun (g, s) =>
  match g.memory.bind fun m => m.grow (unsigned more) with
  | some m => .ok [.i32 (Int32.ofInt g.pageCount)] ({ g with memory := some m }, s)
  | none => .ok [.i32 (-1)] (g, s)

/-- Adds to the guest's first number and answers the sum. -/
def accumulate (n : Int32) : GuestRun S (List Value) := fun (g, s) =>
  let sum := g.global 0 + n
  .ok [.i32 sum] (g.setGlobal 0 sum, s)

end Guest

/-- A module the host knows. -/
inductive KnownModule where
  | engine
  | bare
  | bareText
  | early
  | odd
  | minimal
  | needsRename
  | otherSpace
  | wrongSignature
  | startTrap
  deriving DecidableEq, Repr

namespace KnownModule

/-- All known modules. -/
def all : List KnownModule :=
  [engine, bare, bareText, early, odd, minimal, needsRename, otherSpace, wrongSignature, startTrap]

/-- The name of the file a module is kept in. -/
def fileName : KnownModule → String
  | engine => "engine.wasm"
  | bare => "bare.wasm"
  | bareText => "bare.wat"
  | early => "early.wasm"
  | odd => "odd.wasm"
  | minimal => "min.wasm"
  | needsRename => "needs.wasm"
  | otherSpace => "otherns.wasm"
  | wrongSignature => "badsig.wasm"
  | startTrap => "starttrap.wasm"

/-- The first bytes of a module in binary form. -/
def header : List UInt8 := [0, 0x61, 0x73, 0x6d, 1, 0, 0, 0]

/-- A section that carries a name. -/
def nameSection (name : String) : List UInt8 :=
  let bytes := name.toUTF8.toList
  0 :: UInt8.ofNat (bytes.length + 1) :: UInt8.ofNat bytes.length :: bytes

/-- The bytes that a module is known by. -/
def content : KnownModule → List UInt8
  | engine => header ++ nameSection "engine" ++ [0xff, 0xfe]
  | bare => header ++ nameSection "bare" ++ [0xff]
  | bareText => "(module $bare)\n".toUTF8.toList
  | early => header ++ nameSection "early"
  | odd => header ++ nameSection "odd"
  | minimal => header
  | needsRename => header ++ nameSection "needs"
  | otherSpace => header ++ nameSection "otherns"
  | wrongSignature => header ++ nameSection "badsig"
  | startTrap => header ++ nameSection "starttrap"

/-- The export of an import under its short name. -/
def reexport (i : ImportName) : String × Export S := (i.shortName, .function i.function)

/-- A memory with texts at some addresses. -/
def memoryWith (pages maxPages : Nat) (data : List (Nat × List UInt8)) : LinearMemory :=
  data.foldl (fun m (address, bytes) => (m.store address bytes).getD m)
    (.ofPages pages maxPages)

/-- The memory of the engine. -/
def engineMemory : LinearMemory :=
  memoryWith 1 4 [(0, "db/a.isar".toUTF8.toList), (16, "nope/x".toUTF8.toList),
    (32, "abc".toUTF8.toList), (48, [0xff, 0xfe, 0x61]), (64, "db/../b".toUTF8.toList),
    (80, "h\u00e9llo.db".toUTF8.toList)]

/-- The quotient of signed integers. -/
def quotient (a b : Int32) : Except Trap Int32 :=
  if b = 0 then .error .divideByZero
  else if a = Int32.minValue && b = -1 then .error .integerOverflow
  else .ok (a / b)

/-- The functions of the engine besides the imports. -/
def engineFunctions : List (String × Function S) :=
  [("byte_at", ⟨[.i32], [.i32], fun args =>
      match args with
      | [.i32 address] => Guest.loadByte address
      | _ => throw .unreachable⟩),
    ("store8", ⟨[.i32, .i32], [], fun args =>
      match args with
      | [.i32 address, .i32 n] => Guest.storeBytes address (Guest.littleEndian 1 n.toUInt32.toNat)
      | _ => throw .unreachable⟩),
    ("store64", ⟨[.i32, .i64], [], fun args =>
      match args with
      | [.i32 address, .i64 n] => Guest.storeBytes address (Guest.littleEndian 8 n.toUInt64.toNat)
      | _ => throw .unreachable⟩),
    ("add", .onWords fun a b => .ok (a + b)),
    ("add64", .pure [.i64, .i64] [.i64] fun args =>
      match args with
      | [.i64 a, .i64 b] => [.i64 (a + b)]
      | _ => []),
    ("div", .onWords quotient),
    ("fdiv", .pure [.f64, .f64] [.f64] fun args =>
      match args with
      | [.f64 a, .f64 b] => [.f64 (a.div b)]
      | _ => []),
    ("echo_i32", .identity .i32),
    ("echo_i64", .identity .i64),
    ("echo_f32", .identity .f32),
    ("echo_f64", .identity .f64),
    ("mix", .pure [.i32, .i64, .f32, .f64] [.f64, .f32, .i64, .i32] List.reverse),
    ("pair", .constant [.i32 1, .i64 2]),
    ("accumulate", ⟨[.i32], [.i32], fun args =>
      match args with
      | [.i32 n] => Guest.accumulate n
      | _ => throw .unreachable⟩),
    ("accumulate_boom", ⟨[.i32], [], fun args => do
      match args with
      | [.i32 n] =>
        let _ ← Guest.accumulate n
        throw .unreachable
      | _ => throw .unreachable⟩),
    ("noop", .constant []),
    ("boom", .trapping .unreachable),
    ("pages", ⟨[], [.i32], fun _ (g, s) => .ok [.i32 (Int32.ofInt g.pageCount)] (g, s)⟩),
    ("grow", ⟨[.i32], [.i32], fun args =>
      match args with
      | [.i32 more] => Guest.growMemory more
      | _ => throw .unreachable⟩),
    ("take_ref", .pure [.externRef] [] fun _ => []),
    ("give_ref", .constant [.funcRef]),
    ("give_extern", .constant [.i32 1, .externRef]),
    ("take_vec", .pure [.i32, .v128] [] fun _ => []),
    ("give_vec", .constant [.v128 0]),
    ("", .constant [.i32 99]),
    ("h\u00e9", .constant [.i32 100])]

/-- Calls an import. -/
def callImport (i : ImportName) (args : List Value) : GuestRun S (List Value) :=
  (i.function : Function S).run args

/-- The start of the early module: it opens a file and truncates one, and keeps the answers. -/
def earlyStart : GuestRun S Unit := do
  let keep (i : Nat) (values : List Value) : GuestRun S Unit :=
    match values with
    | [.i32 n] => modify fun (g, s) => (g.setGlobal i n, s)
    | _ => Pure.pure ()
  let opened ← callImport .openFile [.i32 0, .i32 8, .i32 1]
  keep 0 opened
  let cut ← callImport .truncate [.i32 1, .i64 (-1)]
  keep 1 cut

/-- A function that gives one of the guest's own numbers. -/
def giveGlobal (i : Nat) : Function S :=
  ⟨[], [.i32], fun _ (g, s) => .ok [.i32 (g.global i)] (g, s)⟩

/-- A module that imports something and does nothing. -/
def importing (imports : List Import) : Module S := ⟨imports, none, [], [], Pure.pure ()⟩

/-- The imports of the bare module. -/
def bareImports : List ImportName :=
  [.openFile, .closeFile, .read, .write, .truncate, .delete, .access]

/-- The bare module. -/
def bareModule : Module S where
  imports := bareImports.map ImportName.toImport
  memory := none
  globals := []
  exports := bareImports.map reexport ++ [("one", .function (.constant [.i32 1]))]
  start := Pure.pure ()

/-- What the host knows of a module. -/
def module : KnownModule → Module S
  | engine =>
    { imports := ImportName.all.map ImportName.toImport
      memory := some engineMemory
      globals := [0]
      exports := ImportName.all.map reexport ++
        engineFunctions.map (fun (name, f) => (name, .function f)) ++
        [("memory", .memory), ("counter", .global), ("table", .table)]
      start := Pure.pure () }
  | bare | bareText => bareModule
  | early =>
    { imports := [ImportName.openFile.toImport, ImportName.truncate.toImport]
      memory := some (memoryWith 1 1 [(0, "early.db".toUTF8.toList)])
      globals := [0, 0]
      exports := [reexport .openFile, ("memory", .memory),
        ("opened", .function (giveGlobal 0)), ("cut", .function (giveGlobal 1))]
      start := earlyStart }
  | odd =>
    { imports := [ImportName.openFile.toImport]
      memory := some (memoryWith 1 1 [(0, "odd.db".toUTF8.toList)])
      globals := []
      exports := [reexport .openFile, ("mem", .memory),
        ("memory", .function (.constant [.i32 5]))]
      start := Pure.pure () }
  | minimal => importing []
  | needsRename => importing [⟨ImportName.space, "isar_opfs_rename", [.i32, .i32], [.i32]⟩]
  | otherSpace => importing [⟨"host", ImportName.closeFile.name, [.i32], [.i32]⟩]
  | wrongSignature => importing [⟨ImportName.space, ImportName.closeFile.name, [.i64], [.i32]⟩]
  | startTrap => ⟨[], none, [], [], throw .unreachable⟩

/-- The module of a content, if it is known. -/
def compile (S : Storage σ) (bytes : List UInt8) : Option (Module S) :=
  (all.find? fun k => k.content = bytes).map module

end KnownModule

end EngineHost

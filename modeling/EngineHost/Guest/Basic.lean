import EngineHost.Bridge.Basic
import EngineHost.Guest.Memory
import EngineHost.Guest.Value

/-!
# Guests

A `Module S` is what the host knows of a compiled module: what it imports, what it exports, and what
its functions do.  A `Guest S` is a running instance with its bridge over the storage `S`.  A guest
function takes and gives lists of values and may trap; what it did before it trapped stays done.
-/

namespace EngineHost

variable {σ : Type}

/-- Why a guest function stops. -/
inductive Trap where
  | unreachable
  | divideByZero
  | integerOverflow
  | outOfBounds
  deriving DecidableEq, Repr

/-- The words for a trap. -/
def Trap.message : Trap → String
  | unreachable => "RuntimeError: unreachable"
  | divideByZero => "RuntimeError: integer divide by zero"
  | integerOverflow => "RuntimeError: integer overflow"
  | outOfBounds => "RuntimeError: out of bounds memory access"

/-- A running module. -/
structure Guest (S : Storage σ) where
  bridge : Bridge S
  /-- The module's memory, if it has one. -/
  memory : Option LinearMemory
  /-- Whether the imports can reach the memory. -/
  attached : Bool
  /-- The module's own numbers. -/
  globals : List Int32

/-- A step of a guest that cannot fail. -/
abbrev GuestM (S : Storage σ) := StateM (Guest S × σ)

/-- A step of a guest that may trap. -/
abbrev GuestRun (S : Storage σ) := EStateM Trap (Guest S × σ)

/-- A guest function. -/
structure Function (S : Storage σ) where
  params : List ValueType
  results : List ValueType
  run : List Value → GuestRun S (List Value)

/-- What a module makes available under a name. -/
inductive Export (S : Storage σ) where
  | function (f : Function S)
  | memory
  | global
  | table

/-- A function that a module expects from its host. -/
structure Import where
  space : String
  name : String
  params : List ValueType
  results : List ValueType
  deriving DecidableEq, Repr

/-- What the host knows of a compiled module. -/
structure Module (S : Storage σ) where
  imports : List Import
  memory : Option LinearMemory
  globals : List Int32
  exports : List (String × Export S)
  /-- What runs before anything is called. -/
  start : GuestRun S Unit

namespace Module

variable {S : Storage σ}

/-- The exported function of a name. -/
def function? (m : Module S) (name : String) : Option (Function S) :=
  match m.exports.lookup name with
  | some (.function f) => some f
  | _ => none

/-- Whether the module exports its memory under the name the host looks for. -/
def exportsMemory (m : Module S) : Bool :=
  match m.exports.lookup "memory" with
  | some .memory => true
  | _ => false

/-- The guest of a module before its start. -/
def guest (m : Module S) (bridge : Bridge S) : Guest S := ⟨bridge, m.memory, false, m.globals⟩

end Module

namespace Guest

variable {S : Storage σ}

/-- Lets the imports reach the memory. -/
def attach (g : Guest S) : Guest S := { g with attached := true }

/-- The memory that the imports can reach. -/
def reachable (g : Guest S) : Option LinearMemory := if g.attached then g.memory else none

/-- A step of the bridge as a step of the guest. -/
def onBridge {α : Type} (x : BridgeM S α) : GuestM S α := fun (g, s) =>
  let (a, bridge, s) := x (g.bridge, s)
  (a, { g with bridge }, s)

end Guest

end EngineHost

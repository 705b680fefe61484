import EngineHost.Host.Error
import EngineHost.Host.Platform
import EngineHost.Message.Request

/-!
# The module host

A `Host P` loads one module and calls its functions.  It is uninitialized until it is told what to
load; then it is ready for good or failed for good.  While it loads it is initializing and while a
function runs it is busy; nobody sees it in between.

`Host.handle` answers one message.
-/

namespace EngineHost

variable {σ : Type}

/-- What a host is doing. -/
inductive Phase where
  | uninitialized
  | initializing
  | ready
  | busy
  | failed (reason : String)
  deriving DecidableEq, Repr

/-- A module that was loaded. -/
structure Runtime (S : Storage σ) where
  module : Module S
  guest : Guest S
  /-- Whether there is storage. -/
  hasStorage : Bool

/-- A module host. -/
structure Host (P : Platform σ) where
  settings : Settings
  phase : Phase
  runtime : Option (Runtime (P.storage settings.storage))

/-- A step of a host in its surroundings. -/
abbrev HostM (P : Platform σ) := StateM (Host P × σ)

namespace Host

variable {P : Platform σ}

/-- A host that has loaded nothing. -/
def new (settings : Settings) : Host P := ⟨settings, .uninitialized, none⟩

/-- Whether there is storage, once that is known. -/
def hasStorage? (h : Host P) : Option Bool := h.runtime.map Runtime.hasStorage

/-- The number of files that the module has open, once it is loaded. -/
def openDescriptors? (h : Host P) : Option Nat :=
  h.runtime.map fun r => r.guest.bridge.openDescriptors

/-- The path of a file that the module has open. -/
def pathOf? (h : Host P) (fd : Int) : Option String :=
  h.runtime.bind fun r => r.guest.bridge.pathOf fd

/-- The module at a location. -/
def fetchModule (P : Platform σ) (S : Storage σ) (location : String) (base : Option String)
    (s : σ) : Except HostError (Module S) :=
  match P.fetch location base s with
  | .error e => .error (.fetch e)
  | .ok bytes =>
    match P.compile S bytes with
    | none => .error .compile
    | some m => .ok m

/-- Loads a module: the storage is asked for its root first, and the bridge goes again when the
module cannot be fetched or started. -/
def launch (P : Platform σ) (settings : Settings) (location : String) (s : σ) :
    Except HostError (Runtime (P.storage settings.storage)) × σ :=
  let S := P.storage settings.storage
  let (hasStorage, bridge, s) := Bridge.probe (Bridge.new, P.prepare settings.storage s)
  match fetchModule P S location settings.baseDir s with
  | .error e => (.error e, bridge.dispose s)
  | .ok m =>
    match m.launch bridge s with
    | (.error fault, guest, s) => (.error (.start fault), guest.bridge.dispose s)
    | (.ok (), guest, s) => (.ok ⟨m, guest, hasStorage⟩, s)

/-- Loads the module of the host; answers whether there is storage. -/
def load (location : String) : HostM P (Except HostError Bool) := fun (h, s) =>
  match h.phase with
  | .failed reason => (.error (.failed reason), h, s)
  | .initializing | .ready | .busy => (.error .alreadyInitialized, h, s)
  | .uninitialized =>
    let h := { h with phase := .initializing }
    match launch P h.settings location s with
    | (.ok r, s) => (.ok r.hasStorage, { h with runtime := some r, phase := .ready }, s)
    | (.error e, s) => (.error e, { h with phase := .failed e.message }, s)

/-- The function of a call and its arguments. -/
def prepareCall {S : Storage σ} (m : Module S) (name : String) (args : List Json) :
    Except HostError (Function S × List Value) := do
  let some f := m.function? name | throw (.missingExport name)
  let values ← (Value.ofArguments f.params args).mapError (.arguments name)
  pure (f, values)

/-- Calls a function of the module. -/
def call (name : String) (args : List Json) : HostM P (Except HostError Json) := fun (h, s) =>
  match h.phase, h.runtime with
  | .failed reason, _ => (.error (.failed reason), h, s)
  | .ready, some r =>
    match prepareCall r.module name args with
    | .error e => (.error e, h, s)
    | .ok (f, values) =>
      let h := { h with phase := .busy }
      match f.run values (r.guest, s) with
      | .error t (guest, s) =>
        (.error (.trap t), { h with runtime := some { r with guest }, phase := .ready }, s)
      | .ok results (guest, s) =>
        ((Value.toResult results).mapError (.result name),
          { h with runtime := some { r with guest }, phase := .ready }, s)
  | _, _ => (.error .notInitialized, h, s)

/-- The response to a load request. -/
def loadResponse (id : Option Json) : Except HostError Bool → Response
  | .ok hasStorage => .initialized hasStorage
  | .error .alreadyInitialized => .error id HostError.alreadyInitialized.message
  | .error (.failed reason) => .error id (HostError.failed reason).message
  | .error e => .error id ("Failed to initialize WASM: " ++ e.message)

/-- The response to a call request. -/
def callResponse (id : Option Json) : Except HostError Json → Response
  | .ok value => .result id true (some value) none
  | .error e => .result id false none (some e.message)

/-- Acts on a request. -/
def handleRequest : Request → HostM P Response
  | .load id location => do
    let outcome ← load location
    pure (loadResponse id outcome)
  | .call id function args => do
    let outcome ← call function args
    pure (callResponse id outcome)
  | .ping id => pure (.pong id)

/-- Answers a message. -/
def handle (message : Json) : HostM P Response :=
  match Request.parse message with
  | .ok r => handleRequest r
  | .error e => pure e.toResponse

/-- The end of a host: its module's files are closed. -/
def dispose (h : Host P) (s : σ) : σ :=
  match h.runtime with
  | some r => r.guest.bridge.dispose s
  | none => s

end Host

end EngineHost

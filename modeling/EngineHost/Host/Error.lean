import EngineHost.Guest.Conversion
import EngineHost.Guest.Imports
import EngineHost.Location.Source

/-!
# Host errors

`HostError` lists why a host refuses to load a module or to call a function of it.
-/

namespace EngineHost

/-- Why a host refuses. -/
inductive HostError where
  /-- No module was loaded. -/
  | notInitialized
  /-- A module was loaded before. -/
  | alreadyInitialized
  /-- Loading a module failed before. -/
  | failed (reason : String)
  /-- The module exports no function of the name. -/
  | missingExport (function : String)
  /-- The arguments do not fit the function. -/
  | arguments (function : String) (fault : ArgumentsFault)
  /-- What the function gave back has no JSON form. -/
  | result (function : String) (fault : ResultFault)
  /-- The module cannot be fetched. -/
  | fetch (e : FetchError)
  /-- The bytes are no module. -/
  | compile
  /-- The module does not start. -/
  | start (fault : StartFault)
  /-- The function trapped. -/
  | trap (t : Trap)

/-- The words for an error. -/
def HostError.message : HostError → String
  | notInitialized => "WASM not initialized"
  | alreadyInitialized => "WASM already initialized"
  | failed reason => "worker failed to initialize and must be restarted: " ++ reason
  | missingExport function => "Function " ++ function ++ " not found in WASM exports"
  | arguments function fault => "invalid arguments for " ++ function ++ ": " ++ fault.message
  | result function fault =>
    function ++ " returned a value that can't be represented: " ++ fault.message
  | fetch e => e.message
  | compile => "failed to compile module"
  | start fault => "failed to instantiate module: " ++ fault.message
  | trap t => t.message

end EngineHost

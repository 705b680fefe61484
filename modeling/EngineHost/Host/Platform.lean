import EngineHost.Guest.Imports
import EngineHost.Location.Source
import EngineHost.Settings.Basic

/-!
# Platforms

A `Platform σ` is what a module host needs from the outside: the storages its settings can ask for,
the bytes of modules, and what to make of them.  Everything outside is in a state `σ`.
-/

namespace EngineHost

variable {σ : Type}

/-- The surroundings of a module host. -/
structure Platform (σ : Type) where
  /-- The storage that settings ask for. -/
  storage : StorageSettings → Storage σ
  /-- Gets such a storage ready for a host that will use it. -/
  prepare : StorageSettings → σ → σ
  /-- The bytes of a module. -/
  fetch : (location : String) → (base : Option String) → σ → Except FetchError (List UInt8)
  /-- The module in some bytes, or nothing when they hold none. -/
  compile : (S : Storage σ) → List UInt8 → Option (Module S)

end EngineHost

import EngineHost.Disk.Creation
import EngineHost.Location.Url
import EngineHost.Text.Lossy

/-!
# Sources of modules

A location names the place of a module: an address of the web, the address of a file, or the path
of a file, which may be relative to a base.
-/

namespace EngineHost

/-- The place of a module. -/
inductive ModuleSource where
  | file (path : String)
  | web (url : Url)
  deriving DecidableEq, Repr

/-- Why a module cannot be fetched. -/
structure FetchError where
  /-- The place that was tried. -/
  location : String
  reason : String
  deriving DecidableEq, Repr

/-- The words for an error. -/
def FetchError.message (e : FetchError) : String :=
  "failed to fetch module from `" ++ e.location ++ "`: " ++ e.reason

namespace ModuleSource

/-- The path of a file, where a relative one starts at the base. -/
def ofPath (location : String) (base : Option String) : ModuleSource :=
  match base with
  | some dir => file (PathText.join dir location)
  | none => file location

/-- The place that a location names. -/
def resolve (location : String) (base : Option String) : Except FetchError ModuleSource :=
  match Url.parse location with
  | none => .ok (ofPath location base)
  | some url =>
    match url.scheme with
    | .http | .https => .ok (web url)
    | .file =>
      match url.host with
      | some _ => .error ⟨location, "not a local file URL"⟩
      | none => .ok (file (decodeLossy url.toPathBytes))

/-- The bytes at a place.  The web cannot be reached. -/
def fetch (d : Disk) : ModuleSource → Except FetchError (List UInt8)
  | file path => (d.contentAt path).mapError fun e => ⟨path, e.text⟩
  | web url => .error ⟨url.render, "the web cannot be reached"⟩

end ModuleSource

end EngineHost

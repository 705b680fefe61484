import EngineHost.Disk.PathText
import EngineHost.Json.Basic
import EngineHost.Toml.Reader

/-!
# Settings

`Settings` say where a worker keeps files and where it looks for modules.  They come from a JSON
value or from a TOML document; both are seen as a `SettingValue`, so that one reader serves both.
Settings from a file are rebased: relative paths in it start at the directory of the file.
-/

namespace EngineHost

/-- Where a worker keeps files. -/
inductive StorageSettings where
  | memory
  | directory (path : String)
  | disabled
  deriving DecidableEq, Repr

/-- What a worker is told. -/
structure Settings where
  storage : StorageSettings
  /-- Where relative paths of modules start. -/
  baseDir : Option String
  deriving DecidableEq, Repr

/-- A value of a settings file, as far as settings tell values apart. -/
inductive SettingValue where
  | nothing
  | text (value : String)
  | list (items : List SettingValue)
  | table (fields : List (String × SettingValue))
  | other

namespace SettingValue

mutual

/-- A JSON value as a setting. -/
def ofJson : Json → SettingValue
  | .null => nothing
  | .string s => text s
  | .array items => list (ofJsonItems items)
  | .object fields => table (ofJsonFields fields)
  | .bool _ | .number _ => other

/-- The items of an array as settings. -/
def ofJsonItems : List Json → List SettingValue
  | [] => []
  | j :: rest => ofJson j :: ofJsonItems rest

/-- The fields of an object as settings. -/
def ofJsonFields : List (String × Json) → List (String × SettingValue)
  | [] => []
  | (k, v) :: rest => (k, ofJson v) :: ofJsonFields rest

end

mutual

/-- A value of a document as a setting. -/
def ofToml : Toml.Node → SettingValue
  | .scalar => other
  | .text s => text s
  | .array items => list (ofTomlItems items)
  | .inline fields => table (ofTomlFields fields)
  | .table _ _ fields => table (ofTomlFields fields)
  | .tables entries => list (ofTomlEntries entries)

/-- The items of an array as settings. -/
def ofTomlItems : List Toml.Node → List SettingValue
  | [] => []
  | n :: rest => ofToml n :: ofTomlItems rest

/-- The fields of a table as settings. -/
def ofTomlFields : List (String × Toml.Node) → List (String × SettingValue)
  | [] => []
  | (k, v) :: rest => (k, ofToml v) :: ofTomlFields rest

/-- The entries of an array of tables as settings. -/
def ofTomlEntries : List (List (String × Toml.Node)) → List SettingValue
  | [] => []
  | fields :: rest => table (ofTomlFields fields) :: ofTomlEntries rest

end

/-- The text of a value. -/
def asText? : SettingValue → Option String
  | text s => some s
  | _ => none

end SettingValue

namespace StorageSettings

/-- The storage of a kind, with the path that a directory needs. -/
def ofKind (kind : String) (path : Option SettingValue) : Option StorageSettings :=
  match kind with
  | "memory" => some memory
  | "disabled" => some disabled
  | "directory" => (path.bind SettingValue.asText?).map directory
  | _ => none

/-- Reads where to keep files: a table with a kind, or a list that starts with it. -/
def ofValue : SettingValue → Option StorageSettings
  | .table fields => do
    let kind ← (fields.lookup "kind").bind SettingValue.asText?
    ofKind kind (fields.lookup "path")
  | .list (kind :: rest) => do
    let storage ← kind.asText?.bind fun kind => ofKind kind rest.head?
    let count := match storage with
      | directory _ => 1
      | memory | disabled => 0
    if rest.length = count then pure storage else none
  | _ => none

end StorageSettings

namespace Settings

/-- Files in memory, and modules where the process runs. -/
def standard : Settings := ⟨.memory, none⟩

/-- The settings given by their two fields, each of which may be left out. -/
def ofParts (storage baseDir : Option SettingValue) : Option Settings := do
  let storage ← match storage with
    | none => some .memory
    | some value => StorageSettings.ofValue value
  let baseDir ← match baseDir with
    | none | some .nothing => some none
    | some value => value.asText?.map some
  pure ⟨storage, baseDir⟩

/-- Reads settings: a table without other fields, or a list of the fields in order. -/
def ofValue : SettingValue → Option Settings
  | .table fields =>
    if fields.all fun f => f.1 = "storage" || f.1 = "base-dir" then
      ofParts (fields.lookup "storage") (fields.lookup "base-dir")
    else none
  | .list items =>
    if items.length ≤ 2 then ofParts items[0]? items[1]? else none
  | _ => none

/-- Settings from a JSON value. -/
def ofJson (j : Json) : Option Settings := ofValue (.ofJson j)

/-- Settings from the text of a document. -/
def ofToml (text : String) : Option Settings := do
  let fields ← Toml.parse text
  ofValue (.table (SettingValue.ofTomlFields fields))

/-- Settings with relative paths taken from a directory. -/
def rebase (dir : String) (s : Settings) : Settings where
  storage := match s.storage with
    | .directory path => .directory (PathText.join dir path)
    | storage => storage
  baseDir := s.baseDir.map (PathText.join dir)

/-- The settings as a JSON value. -/
def toJson (s : Settings) : Json :=
  let storage : Json := match s.storage with
    | .memory => .ofFields [("kind", .string "memory")]
    | .directory path => .ofFields [("kind", .string "directory"), ("path", .string path)]
    | .disabled => .ofFields [("kind", .string "disabled")]
  let baseDir := match s.baseDir with
    | some dir => [("base-dir", .string dir)]
    | none => []
  .ofFields (("storage", storage) :: baseDir)

end Settings

end EngineHost

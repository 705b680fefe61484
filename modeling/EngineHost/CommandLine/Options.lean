import EngineHost.Settings.File

/-!
# Options

`Options.parse` reads the arguments of the command line from left to right.  An option that takes a
value waits for it: the value may be attached to it or be the next argument that does not look like
an option.  An option is only entered when the next one is recognised or the arguments end, so an
argument that is not known is reported before a value that is missing.

`Options.settings` lets the options decide over a settings file, setting by setting.
-/

namespace EngineHost

/-- The options of the command line. -/
inductive OptionName where
  | storageDir
  | inMemory
  | noStorage
  | baseDir
  | config
  | help
  | version
  deriving DecidableEq, Repr

namespace OptionName

/-- All options. -/
def all : List OptionName := [storageDir, inMemory, noStorage, baseDir, config, help, version]

/-- The name of an option, as written after two hyphens. -/
def long : OptionName → String
  | storageDir => "storage-dir"
  | inMemory => "in-memory"
  | noStorage => "no-storage"
  | baseDir => "base-dir"
  | config => "config"
  | help => "help"
  | version => "version"

/-- The letter of an option, if it has one. -/
def letter : OptionName → Option Char
  | config => some 'c'
  | help => some 'h'
  | version => some 'V'
  | _ => none

/-- Whether an option takes a value. -/
def takesValue : OptionName → Bool
  | storageDir | baseDir | config => true
  | _ => false

/-- The options that cannot be given together. -/
def conflicts : List (OptionName × OptionName) :=
  [(storageDir, inMemory), (storageDir, noStorage), (inMemory, noStorage)]

end OptionName

/-- Why arguments give no options. -/
inductive UsageError where
  /-- An argument is not known. -/
  | unknownArgument
  /-- An option is given twice, or with one it excludes. -/
  | conflict
  /-- The value of an option is missing or empty. -/
  | invalidValue
  /-- An option that takes no value has one. -/
  | tooManyValues
  /-- The help is asked for. -/
  | help
  /-- The version is asked for. -/
  | version
  deriving DecidableEq, Repr

namespace Options

/-- The version of the program. -/
def versionNumber : String := "0.1.0"

/-- The line that tells the version. -/
def versionText : String := "isar-worker " ++ versionNumber ++ "\n"

/-- The text that explains the options. -/
def helpText : String :=
  "Runs an Isar storage engine module behind a JSON-lines message protocol.\n\n" ++
  "Usage: isar-worker [OPTIONS]\n\n" ++
  "Options:\n" ++
  "      --storage-dir <DIR>  Keep database files in this directory\n" ++
  "      --in-memory          Keep database files in memory; " ++
  "they are gone when the worker exits\n" ++
  "      --no-storage         Run without storage. Modules see `opfsAvailable: false`\n" ++
  "      --base-dir <DIR>     Directory that relative module paths are resolved against\n" ++
  "  -c, --config <FILE>      Load worker settings from a TOML file. Flags take precedence\n" ++
  "  -h, --help               Print help\n" ++
  "  -V, --version            Print version\n"

end Options

/-- The words for arguments that cannot be used. -/
def UsageError.message : UsageError → String
  | unknownArgument => "an argument is not known"
  | conflict => "arguments cannot be used together"
  | invalidValue => "a value is missing or empty"
  | tooManyValues => "an option takes no value"
  | help => Options.helpText
  | version => Options.versionText

/-- What the arguments say. -/
structure Options where
  /-- The options given, with their values. -/
  given : List (OptionName × String)
  deriving DecidableEq, Repr

namespace Options

/-- The value of an option that is given. -/
def value? (o : Options) (name : OptionName) : Option String := o.given.lookup name

/-- Whether an option is given. -/
def has (o : Options) (name : OptionName) : Bool := (o.value? name).isSome

/-! ### Reading arguments -/

/-- What is known in the midst of the arguments. -/
structure Scan where
  given : List (OptionName × String)
  /-- An option that was recognised but not entered, with its value when it has come. -/
  pending : Option (OptionName × Option String)
  /-- Whether `--` has been passed. -/
  ended : Bool

namespace Scan

/-- Enters an option that takes a value, or refuses it. -/
def enter (s : Scan) (name : OptionName) (value : String) : Except UsageError Scan :=
  if (s.given.lookup name).isSome then .error .conflict
  else if value = "" then .error .invalidValue
  else .ok { s with given := (name, value) :: s.given }

/-- Enters the pending option. -/
def settle (s : Scan) : Except UsageError Scan :=
  match s.pending with
  | none => .ok s
  | some (_, none) => .error .invalidValue
  | some (name, some value) => { s with pending := none }.enter name value

/-- An option without a value. -/
def flag (s : Scan) (name : OptionName) : Except UsageError Scan := do
  let s ← s.settle
  match name with
  | .help => throw .help
  | .version => throw .version
  | _ => s.enter name "true"

/-- An option with a value, attached or still to come. -/
def option (s : Scan) (name : OptionName) (attached : Option String) : Except UsageError Scan := do
  let s ← s.settle
  match attached with
  | some value => s.enter name value
  | none => pure { s with pending := some (name, none) }

/-- The letters after one hyphen: options without values, then perhaps one with its value. -/
def letters (s : Scan) : List Char → Except UsageError Scan
  | [] => .ok s
  | c :: rest =>
    match OptionName.all.find? fun name => name.letter = some c with
    | none => .error .unknownArgument
    | some name =>
      if name.takesValue then
        let attached : Option String := match rest with
          | [] => none
          | '=' :: value => some (String.ofList value)
          | value => some (String.ofList value)
        s.option name attached
      else
        match s.flag name with
        | .error e => .error e
        | .ok s => s.letters rest

/-- The name after two hyphens, with a value attached to it or not. -/
def name (s : Scan) (text : List Char) : Except UsageError Scan :=
  let long := String.ofList (text.takeWhile (· ≠ '='))
  let attached : Option String := match text.dropWhile (· ≠ '=') with
    | [] => none
    | _ :: value => some (String.ofList value)
  match OptionName.all.find? fun name => name.long = long with
  | none => .error .unknownArgument
  | some name =>
    if name.takesValue then s.option name attached
    else if attached.isSome then .error .tooManyValues
    else s.flag name

/-- An argument that is no option: the value that the pending option waits for. -/
def plain (s : Scan) (text : String) : Except UsageError Scan :=
  match s.pending with
  | some (name, none) => .ok { s with pending := some (name, some text) }
  | _ => .error .unknownArgument

/-- One argument. -/
def argument (s : Scan) (text : String) : Except UsageError Scan :=
  if s.ended then .error .unknownArgument
  else
    match text.toList with
    | ['-', '-'] => .ok { s with ended := true }
    | '-' :: '-' :: rest => s.name rest
    | '-' :: c :: rest => s.letters (c :: rest)
    | _ => s.plain text

/-- The end of the arguments. -/
def finish (s : Scan) : Except UsageError Options := do
  let s ← s.settle
  let o : Options := ⟨s.given⟩
  if OptionName.conflicts.any fun (a, b) => o.has a && o.has b then throw .conflict
  pure o

end Scan

/-- The options in arguments. -/
def parse (args : List String) : Except UsageError Options := do
  let s ← args.foldlM Scan.argument ⟨[], none, false⟩
  s.finish

/-! ### Settings -/

/-- Settings that could not be loaded from a file. -/
structure LoadError where
  path : String
  cause : SettingsError
  deriving DecidableEq, Repr

/-- The words for an error, without its cause. -/
def LoadError.message (e : LoadError) : String := "unable to load " ++ e.path

/-- The storage that the options ask for, if they do. -/
def storage? (o : Options) : Option StorageSettings :=
  match o.value? .storageDir with
  | some dir => some (.directory dir)
  | none =>
    if o.has .inMemory then some .memory
    else if o.has .noStorage then some .disabled
    else none

/-- Settings in which the options come before what a file says. -/
def override (o : Options) (s : Settings) : Settings where
  storage := o.storage?.getD s.storage
  baseDir := (o.value? .baseDir).or s.baseDir

/-- The settings that the options describe. -/
def settings (d : Disk) (o : Options) : Except LoadError Settings :=
  match o.value? .config with
  | none => .ok (o.override .standard)
  | some path =>
    match Settings.ofFile d path with
    | .ok s => .ok (o.override s)
    | .error cause => .error ⟨path, cause⟩

end Options

end EngineHost

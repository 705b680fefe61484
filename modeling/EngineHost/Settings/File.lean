import EngineHost.Disk.Creation
import EngineHost.Settings.Basic

/-!
# Settings in files

`Settings.ofFile` reads settings from a file of a disk; relative paths in them start at the
directory that holds the file.
-/

namespace EngineHost

/-- Why a file gives no settings. -/
inductive SettingsError where
  /-- The file cannot be read. -/
  | unreadable (path : String) (cause : IoError)
  /-- The file holds something else. -/
  | malformed
  deriving DecidableEq, Repr

/-- The words for a file that cannot be read. -/
def SettingsError.message : SettingsError → Option String
  | unreadable path cause =>
    some ("invalid configuration: unable to read " ++ path ++ ": " ++ cause.text)
  | malformed => none

namespace Disk

/-- The text in a file. -/
def textAt (d : Disk) (path : String) : Except IoError String := do
  let bytes ← d.contentAt path
  match String.fromUTF8? ⟨bytes.toArray⟩ with
  | some text => pure text
  | none => throw .notUtf8

end Disk

namespace Settings

/-- The settings in a file. -/
def ofFile (d : Disk) (path : String) : Except SettingsError Settings :=
  match d.textAt path with
  | .error e => .error (.unreadable path e)
  | .ok text =>
    match ofToml text with
    | none => .error .malformed
    | some s => .ok (((PathText.parent? path).map fun dir => s.rebase dir).getD s)

end Settings

end EngineHost

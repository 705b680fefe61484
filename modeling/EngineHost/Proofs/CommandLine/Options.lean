import EngineHost.CommandLine.Options
import EngineHost.Proofs.Settings.File

/-!
# Options and a settings file

Options decide over a settings file, setting by setting: where files are kept, and where modules
are.  What an option says is taken as it stands; what the file says lies relative to the directory
of the file.

* `Options.StorageFrom`, `Options.BaseDirFrom` : what each setting comes from.  Neither is told what
  the options for the other one are.
* `Options.parse_excludes` : an option is not given together with one that it excludes.
* `Options.settings_of_parse` : the settings that options describe, and when there are none.
-/

namespace EngineHost

namespace Options

open PathText (Rebased)
open Settings (Found)

/-- An option asks for where files are kept. -/
inductive Asked (storageDir : Option String) (inMemory noStorage : Bool) : StorageSettings → Prop
  | directory {path : String} : storageDir = some path →
      Asked storageDir inMemory noStorage (.directory path)
  | memory : inMemory = true → Asked storageDir inMemory noStorage .memory
  | disabled : noStorage = true → Asked storageDir inMemory noStorage .disabled

/-- Where files are kept by what a file in a directory says, which may be nothing. -/
inductive KeptBy (dir : String) : Option StorageSettings → StorageSettings → Prop
  | unsaid : KeptBy dir none .memory
  | memory : KeptBy dir (some .memory) .memory
  | disabled : KeptBy dir (some .disabled) .disabled
  | directory {path rebased : String} : Rebased dir path rebased →
      KeptBy dir (some (.directory path)) (.directory rebased)

/-- Where files are kept: what an option asks for, or without one what the file says. -/
inductive StorageFrom (storageDir : Option String) (inMemory noStorage : Bool) (dir : String)
    (file : Option StorageSettings) (x : StorageSettings) : Prop
  | option : Asked storageDir inMemory noStorage x →
      StorageFrom storageDir inMemory noStorage dir file x
  | file : (∀ y, ¬ Asked storageDir inMemory noStorage y) → KeptBy dir file x →
      StorageFrom storageDir inMemory noStorage dir file x

/-- Where modules are: what the option says, as it stands; without it what the file says, rebased to
its directory. -/
inductive BaseDirFrom (baseDir : Option String) (dir : String) (file : Option String) :
    Option String → Prop
  | option {path : String} : baseDir = some path → BaseDirFrom baseDir dir file (some path)
  | file {path rebased : String} : baseDir = none → file = some path → Rebased dir path rebased →
      BaseDirFrom baseDir dir file (some rebased)
  | unsaid : baseDir = none → file = none → BaseDirFrom baseDir dir file none

variable {o : Options} {args : List String} {d : Disk} {dir : String}

/-- An option that excludes another one is not given with it. -/
theorem parse_excludes (h : parse args = .ok o) {a b : OptionName}
    (hab : (a, b) ∈ OptionName.conflicts) (hb : o.has b = true) : o.value? a = none := by
  simp only [parse, Scan.finish, except_bind_ok_iff] at h
  obtain ⟨s, -, s', -, h⟩ := h
  split_ifs at h with hconflict
  · simp only [except_bind_ok_iff, except_throw_ok_iff, false_and, exists_false] at h
  · obtain rfl := except_pure_ok_iff.1 h
    rw [Bool.not_eq_true, List.any_eq_false] at hconflict
    have hboth := hconflict (a, b) hab
    rw [hb, Bool.and_true, Bool.not_eq_true] at hboth
    exact Option.not_isSome_iff_eq_none.1 (Bool.eq_false_iff.1 hboth)

/-- At most one option asks for where files are kept. -/
theorem asked_iff (h : parse args = .ok o) {x : StorageSettings} :
    Asked (o.value? .storageDir) (o.has .inMemory) (o.has .noStorage) x ↔
      o.storage? = some x := by
  rw [storage?]
  constructor
  · intro hasked
    cases hasked with
    | directory hdir => simp [hdir]
    | memory hmemory =>
      have hdir : o.value? .storageDir = none := parse_excludes h (by decide) hmemory
      simp [hdir, hmemory]
    | disabled hdisabled =>
      have hdir : o.value? .storageDir = none := parse_excludes h (by decide) hdisabled
      have hmemory : o.has .inMemory = false := by
        rw [has, parse_excludes h (by decide) hdisabled]
        rfl
      simp [hdir, hmemory, hdisabled]
  · intro hasked
    cases hdir : o.value? .storageDir with
    | some path =>
      simp only [hdir, Option.some.injEq] at hasked
      exact hasked ▸ .directory rfl
    | none =>
      simp only [hdir] at hasked
      split_ifs at hasked with hmemory hdisabled
      · exact Option.some.inj hasked ▸ .memory hmemory
      · exact Option.some.inj hasked ▸ .disabled hdisabled

/-- Without an option the file is followed, rebased. -/
theorem keptBy_iff {file : Option StorageSettings} {x : StorageSettings} (base : Option String) :
    KeptBy dir file x ↔ (Settings.rebase dir ⟨file.getD .memory, base⟩).storage = x := by
  constructor
  · intro hkept
    cases hkept with
    | unsaid | memory | disabled => rfl
    | directory hrebased =>
      rw [PathText.rebased_iff.1 hrebased]
      rfl
  · rintro rfl
    rcases file with _ | (_ | path | _)
    · exact .unsaid
    · exact .memory
    · exact .directory (PathText.rebased_iff.2 rfl)
    · exact .disabled

/-- What the options ask for comes before what the file says about where files are kept. -/
theorem storageFrom_iff (h : parse args = .ok o) {file : Option StorageSettings}
    {x : StorageSettings} {base : Option String} :
    StorageFrom (o.value? .storageDir) (o.has .inMemory) (o.has .noStorage) dir file x ↔
      (o.override (Settings.rebase dir ⟨file.getD .memory, base⟩)).storage = x := by
  rw [override]
  cases hasked : o.storage? with
  | some y =>
    have hy := (asked_iff h).2 hasked
    constructor
    · intro hfrom
      cases hfrom with
      | option hx => exact Option.some.inj (hasked.symm.trans ((asked_iff h).1 hx))
      | file hnone => exact absurd hy (hnone y)
    · rintro rfl
      exact .option hy
  | none =>
    have hnone : ∀ y, ¬ Asked (o.value? .storageDir) (o.has .inMemory) (o.has .noStorage) y := by
      intro y hy
      rw [(asked_iff h).1 hy] at hasked
      cases hasked
    rw [Option.getD_none, ← keptBy_iff base]
    constructor
    · intro hfrom
      cases hfrom with
      | option hx => exact absurd hx (hnone x)
      | file _ hkept => exact hkept
    · exact .file hnone

theorem baseDirFrom_iff {storage : StorageSettings} {file x : Option String} :
    BaseDirFrom (o.value? .baseDir) dir file x ↔
      (o.override (Settings.rebase dir ⟨storage, file⟩)).baseDir = x := by
  constructor
  · intro hfrom
    cases hfrom with
    | option hoption => simp [override, hoption]
    | file hoption hfile hrebased =>
      simp [override, hoption, hfile, Settings.rebase, PathText.rebased_iff.1 hrebased]
    | unsaid hoption hfile => simp [override, hoption, hfile, Settings.rebase]
  · rintro rfl
    cases hoption : o.value? .baseDir with
    | some path => simpa [override, hoption] using BaseDirFrom.option rfl
    | none =>
      cases file with
      | none => simpa [override, hoption, Settings.rebase] using BaseDirFrom.unsaid rfl rfl
      | some path =>
        simpa [override, hoption, Settings.rebase] using
          BaseDirFrom.file rfl rfl (PathText.rebased_iff.2 rfl)

/-- **Options decide over a settings file setting by setting, and only what a file says is
rebased.**

* Whatever is found in the file, or without one, there are settings, and each of the two comes from
  the options for it or from what was found.
* When nothing can be found in the file that is named, there are no settings, whatever the other
  options are.
* A file that is named without a directory lies in the one where the worker runs. -/
theorem settings_of_parse {args : List String} {o : Options} (hparse : parse args = .ok o)
    (d : Disk) :
    (∀ storage baseDir dir, Found d (o.value? .config) storage baseDir dir →
      ∃ s, o.settings d = .ok s ∧
        (∀ x, StorageFrom (o.value? .storageDir) (o.has .inMemory) (o.has .noStorage) dir storage x
          ↔ s.storage = x) ∧
        ∀ x, BaseDirFrom (o.value? .baseDir) dir baseDir x ↔ s.baseDir = x) ∧
    ((¬ ∃ storage baseDir dir, Found d (o.value? .config) storage baseDir dir) →
      ∃ path cause, o.value? .config = some path ∧ Settings.ofFile d path = .error cause ∧
        o.settings d = .error ⟨path, cause⟩) ∧
    ∀ path storage baseDir dir, '/' ∉ path.toList → Found d (some path) storage baseDir dir →
      dir = "" := by
  refine ⟨fun storage baseDir dir hfound => ?_, fun hnone => ?_, ?_⟩
  · refine ⟨o.override (Settings.rebase dir ⟨storage.getD .memory, baseDir⟩), ?_,
      fun x => storageFrom_iff hparse, fun x => baseDirFrom_iff⟩
    rw [settings]
    generalize o.value? .config = config at hfound
    cases hfound with
    | nothing => rfl
    | file htext hsays hdir =>
      have hfile := Settings.ofFile_ok_iff.2 ⟨storage, baseDir, dir, .file htext hsays hdir, rfl⟩
      simp only [hfile]
  · rw [settings]
    generalize o.value? .config = config at hnone
    cases config with
    | none => exact absurd ⟨none, none, "", .nothing⟩ hnone
    | some path =>
      cases hfile : Settings.ofFile d path with
      | ok s =>
        obtain ⟨storage, baseDir, dir, hfound, -⟩ := Settings.ofFile_ok_iff.1 hfile
        exact absurd ⟨storage, baseDir, dir, hfound⟩ hnone
      | error cause => exact ⟨path, cause, rfl, hfile, by simp only [hfile]⟩
  · intro path storage baseDir dir hslash hfound
    cases hfound with
    | file htext hsays hdir =>
      have hpath : path ≠ "" := fun hempty => by
        rw [hempty] at hdir
        cases hdir
      rw [PathText.parent?_of_not_mem hslash hpath] at hdir
      exact (Option.some.inj hdir).symm

/-- The text of a settings file. -/
def fileText : String :=
  "base-dir = \"mods\"\n[storage]\nkind = \"directory\"\npath = \"data\"\n"

/-- A disk with this file in a directory. -/
def fileDisk : Disk :=
  ⟨[.directory [("conf", 1)], .directory [("w.toml", 2)],
    .file (.ofList fileText.toUTF8.data.toList)], [], 0, []⟩

theorem settings_of_parse_inMemory :
    parse ["--in-memory", "--config", "conf/w.toml"] =
        .ok ⟨[(.config, "conf/w.toml"), (.inMemory, "true")]⟩ ∧
      ∃ s, settings fileDisk ⟨[(.config, "conf/w.toml"), (.inMemory, "true")]⟩ = .ok s ∧
        s.storage = .memory ∧ s.baseDir = some "conf/mods" := by
  have hparse : parse ["--in-memory", "--config", "conf/w.toml"] =
      .ok ⟨[(.config, "conf/w.toml"), (.inMemory, "true")]⟩ := rfl
  have hread : Settings.ofToml fileText = some ⟨.directory "data", some "mods"⟩ := by
    decide +kernel
  obtain ⟨storage, baseDir, hsays, hsaid⟩ := Settings.ofToml_eq_some_iff.1 hread
  obtain rfl : some "mods" = baseDir := congrArg Settings.baseDir hsaid
  have hfound : Found fileDisk (some "conf/w.toml") storage (some "mods") "conf" :=
    .file rfl hsays (by decide +kernel)
  obtain ⟨s, hsettings, hstorage, hbase⟩ := (settings_of_parse hparse fileDisk).1 _ _ _ hfound
  refine ⟨hparse, s, hsettings, (hstorage _).1 (.option (.memory rfl)), (hbase _).1 ?_⟩
  exact .file rfl rfl (PathText.rebased_iff.2 (by decide +kernel))

end Options

end EngineHost

import EngineHost.Proofs.Disk.OpenFile
import EngineHost.Proofs.Text.Segments
import EngineHost.Settings.File
import Mathlib.Data.List.DropRight
import Mathlib.Tactic.SplitIfs

/-!
# What a settings file says

A settings file says where files are kept and where modules are, or leaves either open.  What it
says lies relative to the directory that holds the file, and a file that can be read always lies in
one.

* `PathText.Rebased` : a path in a file, as seen from where the worker runs.
* `Settings.Says`, `Settings.Found` : what a text says, and what is found in a file of a disk.
* `Disk.exists_parent_of_contentAt` : a file lies in a directory.
* `Settings.ofFile_ok_iff` : the settings in a file are what is found in it, rebased.
-/

namespace EngineHost

/-! ### Paths -/

theorem pieces_of_not_mem {cs : List Char} (h : '/' ∉ cs) : pieces cs = [cs] := by
  rw [pieces_eq_splitOn, List.splitOn_eq_singleton h]

/-- What is no separator is in a piece. -/
theorem exists_mem_pieces {cs : List Char} {c : Char} (hc : c ∈ cs) (hne : c ≠ '/') :
    ∃ piece ∈ pieces cs, c ∈ piece := by
  induction cs with
  | nil => cases hc
  | cons c' rest ih =>
    rw [pieces]
    split_ifs with hslash
    · have hrest : c ∈ rest := (List.mem_cons.1 hc).resolve_left fun h => hne (h.trans hslash)
      obtain ⟨piece, hpiece, hmem⟩ := ih hrest
      exact ⟨piece, List.mem_cons_of_mem _ hpiece, hmem⟩
    · cases hrest : pieces rest with
      | nil => exact absurd hrest (pieces_ne_nil rest)
      | cons piece others =>
        rcases List.mem_cons.1 hc with rfl | hc
        · exact ⟨c :: piece, List.mem_cons_self, List.mem_cons_self⟩
        · obtain ⟨piece', hpiece', hmem⟩ := ih hc
          rw [hrest] at hpiece'
          rcases List.mem_cons.1 hpiece' with rfl | hothers
          · exact ⟨_, List.mem_cons_self, List.mem_cons_of_mem _ hmem⟩
          · exact ⟨piece', List.mem_cons_of_mem _ hothers, hmem⟩

namespace PathText

variable {dir path rebased : String}

/-- A path that is written in a directory, and the path that stands for it elsewhere. -/
inductive Rebased (dir : String) : String → String → Prop
  | absolute {path : String} : isAbsolute path = true → Rebased dir path path
  /-- The directory has no name, being where the worker runs. -/
  | bare {path : String} : dir = "" → Rebased dir path path
  | below {path : String} : isAbsolute path = false → dir.toList.getLast? = some '/' →
      Rebased dir path (dir ++ path)
  | beside {path : String} : isAbsolute path = false → dir ≠ "" → dir.toList.getLast? ≠ some '/' →
      Rebased dir path (dir ++ "/" ++ path)

theorem rebased_iff : Rebased dir path rebased ↔ rebased = join dir path := by
  constructor
  · intro h
    cases h with
    | absolute habsolute => simp [join, habsolute]
    | bare hdir => simp [join, hdir]
    | below hrelative hlast =>
      have hdir : dir ≠ "" := by rintro rfl; cases hlast
      simp [join, hrelative, hlast, hdir]
    | beside hrelative hdir hlast => simp [join, hrelative, hlast, hdir]
  · rintro rfl
    rw [join]
    split_ifs with hself hlast
    · rcases Bool.or_eq_true_iff.1 hself with habsolute | hdir
      · exact .absolute habsolute
      · exact .bare (of_decide_eq_true hdir)
    · rw [Bool.not_eq_true, Bool.or_eq_false_iff] at hself
      exact .below hself.1 hlast
    · rw [Bool.not_eq_true, Bool.or_eq_false_iff] at hself
      exact .beside hself.1 (of_decide_eq_false hself.2) hlast

theorem trimBlank_eq_nil_iff {parts : List (List Char)} :
    trimBlank parts = [] ↔ ∀ piece ∈ parts, isBlankSegment piece = true :=
  List.rdropWhile_eq_nil_iff

/-- How a text starts. -/
theorem splitStart_cases (cs : List Char) :
    (∃ rest, cs = '/' :: rest ∧ splitStart cs = (['/'], rest)) ∨
      (∃ rest, cs = '.' :: rest ∧ (rest = [] ∨ '/' ∈ rest) ∧ splitStart cs = (['.'], rest)) ∨
      splitStart cs = ([], cs) ∧ (∀ rest, cs ≠ '/' :: rest) ∧ cs ≠ ['.'] ∧
        ∀ rest, cs ≠ '.' :: '/' :: rest := by
  unfold splitStart
  split
  · next rest => exact .inl ⟨rest, rfl, rfl⟩
  · exact .inr (.inl ⟨[], rfl, .inl rfl, rfl⟩)
  · next rest => exact .inr (.inl ⟨_, rfl, .inr List.mem_cons_self, rfl⟩)
  · next hslash hdot hboth => exact .inr (.inr ⟨rfl, hslash, hdot, hboth⟩)

/-- A text whose first piece is blank is empty, or starts like a root or like `.`. -/
theorem eq_nil_of_blank {cs : List Char} (hblank : ∀ piece ∈ pieces cs, isBlankSegment piece = true)
    (hslash : ∀ rest, cs ≠ '/' :: rest) (hdot : cs ≠ ['.'])
    (hboth : ∀ rest, cs ≠ '.' :: '/' :: rest) : cs = [] := by
  cases cs with
  | nil => rfl
  | cons c rest =>
    have hc : c ≠ '/' := fun h => hslash rest (h ▸ rfl)
    rw [pieces, if_neg hc] at hblank
    cases hrest : pieces rest with
    | nil => exact absurd hrest (pieces_ne_nil rest)
    | cons piece others =>
      have hfirst : isBlankSegment (c :: piece) = true := hblank _ (by simp [hrest])
      obtain ⟨rfl, rfl⟩ : c = '.' ∧ piece = [] := by simpa [isBlankSegment] using hfirst
      -- what follows the dot is nothing or a separator
      cases rest with
      | nil => exact absurd rfl hdot
      | cons c' rest =>
        by_cases hc' : c' = '/'
        · exact absurd rfl (hc' ▸ hboth rest)
        · rw [pieces, if_neg hc'] at hrest
          split at hrest <;> cases hrest

/-- Only a root and nothing lie in no directory. -/
theorem blank_of_parent?_eq_none (h : parent? path = none) :
    path = "" ∨ isAbsolute path = true ∧
      ∀ piece ∈ pieces path.toList, isBlankSegment piece = true := by
  rcases splitStart_cases path.toList with
    ⟨rest, hpath, hstart⟩ | ⟨rest, -, -, hstart⟩ | ⟨hstart, hslash, hdot, hboth⟩
  all_goals
    rw [parent?, hstart] at h
    dsimp only at h
    split at h
  · next hnil =>
    refine .inr ⟨by simp [isAbsolute, hpath], ?_⟩
    rw [hpath, pieces, if_pos rfl, List.forall_mem_cons]
    exact ⟨rfl, trimBlank_eq_nil_iff.1 hnil⟩
  · cases h
  · simp at h
  · cases h
  · next hnil =>
    exact .inl (String.toList_eq_nil_iff.1
      (eq_nil_of_blank (trimBlank_eq_nil_iff.1 hnil) hslash hdot hboth))
  · cases h

/-- A name alone lies in the directory without a name. -/
theorem parent?_of_not_mem (hslash : '/' ∉ path.toList) (hpath : path ≠ "") :
    parent? path = some "" := by
  rcases splitStart_cases path.toList with
    ⟨rest, hroot, -⟩ | ⟨rest, hrest, hend, hstart⟩ | ⟨hstart, -, hdot, -⟩
  · exact absurd (by simp [hroot]) hslash
  · have hnil : rest = [] := hend.resolve_right fun hmem => hslash (by simp [hrest, hmem])
    simp [parent?, hstart, hnil, pieces, trimBlank, isBlankSegment]
  · have hblank : isBlankSegment path.toList = false := by
      simp [isBlankSegment, hdot, hpath]
    simp [parent?, hstart, pieces_of_not_mem hslash, trimBlank, hblank, joinPieces]

end PathText

namespace Disk

variable {d : Disk} {trail trail' : Trail} {names : List String} {r : Route} {path : String}

/-- Following dots goes nowhere, but tells that there is a directory. -/
theorem follow_dots (hnames : ∀ name ∈ names, name = ".")
    (h : d.follow trail names = .ok trail') :
    trail' = trail ∧
      (names = [] ∨ ∃ children, d.node? trail.node = some (.directory children)) := by
  induction names with
  | nil =>
    cases h
    exact ⟨rfl, .inl rfl⟩
  | cons name names ih =>
    rw [List.forall_mem_cons] at hnames
    obtain ⟨rfl, hnames⟩ := hnames
    rw [follow, List.foldlM_cons, except_bind_ok_iff] at h
    obtain ⟨next, hnext, h⟩ := h
    simp only [enter, except_bind_ok_iff, children_ok_iff, if_true, except_pure_ok_iff] at hnext
    obtain ⟨children, hchildren, rfl⟩ := hnext
    exact ⟨(ih hnames h).1, .inr ⟨children, hchildren⟩⟩

/-- The route of a path that starts at the root. -/
theorem route_of_isAbsolute (habsolute : PathText.isAbsolute path = true)
    (h : d.route path = .ok r) :
    r = ⟨[], ((pieces path.toList).filter fun piece => !piece.isEmpty).map String.ofList,
      path.toList.getLast? = some '/'⟩ := by
  simp only [route, habsolute, if_true] at h
  split_ifs at h <;>
    simp only [except_bind_ok_iff, except_throw_ok_iff, false_and, exists_false,
      except_pure_ok_iff] at h
  obtain ⟨start, rfl, rfl⟩ := h
  rfl

/-- Where all pieces of a path are blank, the root is found as a directory. -/
theorem reach_of_blank (habsolute : PathText.isAbsolute path = true)
    (hblank : ∀ piece ∈ pieces path.toList, isBlankSegment piece = true)
    (hr : d.route path = .ok r) (h : d.reach r = .ok trail) :
    ∃ children, d.node? trail.node = some (.directory children) := by
  obtain rfl := route_of_isAbsolute habsolute hr
  simp only [reach, except_bind_ok_iff] at h
  obtain ⟨trail', hfollow, h⟩ := h
  have hdots : ∀ name ∈ ((pieces path.toList).filter fun piece => !piece.isEmpty).map String.ofList,
      name = "." := by
    intro name hname
    obtain ⟨piece, hpiece, rfl⟩ := List.mem_map.1 hname
    obtain ⟨hpiece, hempty⟩ := List.mem_filter.1 hpiece
    have hdot : piece = [] ∨ piece = ['.'] := by
      simpa [isBlankSegment] using hblank piece hpiece
    rw [hdot.resolve_left fun h => by simp [h] at hempty]
  obtain ⟨rfl, hend⟩ := follow_dots hdots hfollow
  split_ifs at h with hlast
  · simp only [except_bind_ok_iff, children_ok_iff, except_pure_ok_iff] at h
    obtain ⟨children, hchildren, rfl⟩ := h
    exact ⟨children, hchildren⟩
  · cases h
    refine hend.resolve_left fun hnil => ?_
    -- what the path ends with is no separator, so it has a piece that is not empty
    have hpath : path.toList ≠ [] := fun h => by simp [PathText.isAbsolute, h] at habsolute
    have hne : path.toList.getLast hpath ≠ '/' := by
      simpa [List.getLast?_eq_some_getLast hpath] using hlast
    obtain ⟨piece, hpiece, hmem⟩ := exists_mem_pieces (List.getLast_mem hpath) hne
    have hempty : piece.isEmpty = false := by
      rw [List.isEmpty_eq_false_iff]
      exact List.ne_nil_of_mem hmem
    have hfiltered : piece ∈ (pieces path.toList).filter fun piece => !piece.isEmpty :=
      List.mem_filter.2 ⟨hpiece, by simp [hempty]⟩
    rw [List.map_eq_nil_iff.1 hnil] at hfiltered
    cases hfiltered

/-- **A file lies in a directory.**  What lies in none is the root, or nothing. -/
theorem exists_parent_of_contentAt {bytes : List UInt8} (h : d.contentAt path = .ok bytes) :
    ∃ dir, PathText.parent? path = some dir := by
  by_contra hnone
  have hparent : PathText.parent? path = none :=
    Option.eq_none_iff_forall_ne_some.2 fun dir hdir => hnone ⟨dir, hdir⟩
  simp only [contentAt, nodeAt, except_bind_ok_iff] at h
  obtain ⟨r, hr, n, ⟨trail, htrail, hn⟩, h⟩ := h
  rcases PathText.blank_of_parent?_eq_none hparent with rfl | ⟨habsolute, hblank⟩
  · cases hr
  · obtain ⟨children, hchildren⟩ := reach_of_blank habsolute hblank hr htrail
    simp only [hchildren] at hn
    cases hn
    cases h

end Disk

/-! ### What is said -/

namespace SettingValue

theorem lookup_ofTomlFields (fields : List (String × Toml.Node)) (key : String) :
    (ofTomlFields fields).lookup key = (fields.lookup key).map ofToml := by
  induction fields with
  | nil => rfl
  | cons f rest ih =>
    obtain ⟨k, v⟩ := f
    rw [ofTomlFields, List.lookup_cons, List.lookup_cons, ih]
    cases key == k <;> rfl

theorem all_ofTomlFields (fields : List (String × Toml.Node)) (p : String → Bool) :
    (ofTomlFields fields).all (fun f => p f.1) = fields.all fun f => p f.1 := by
  induction fields with
  | nil => rfl
  | cons f rest ih => rw [ofTomlFields, List.all_cons, List.all_cons, ih]

end SettingValue

namespace Settings

variable {d : Disk} {path text : String} {s : Settings}

/-- What the value of a field says about where files are kept. -/
inductive SaysStorage : Option Toml.Node → Option StorageSettings → Prop
  | unsaid : SaysStorage none none
  | said {n : Toml.Node} {storage : StorageSettings} :
      StorageSettings.ofValue (.ofToml n) = some storage → SaysStorage (some n) (some storage)

/-- What the value of a field says about where modules are. -/
inductive SaysBaseDir : Option Toml.Node → Option String → Prop
  | unsaid : SaysBaseDir none none
  | said {dir : String} : SaysBaseDir (some (.text dir)) (some dir)

/-- What a text says about where files are kept and where modules are. -/
inductive Says (text : String) (storage : Option StorageSettings) (baseDir : Option String) : Prop
  | document {fields : List (String × Toml.Node)} : Toml.parse text = some fields →
      (∀ f ∈ fields, f.1 = "storage" ∨ f.1 = "base-dir") →
      SaysStorage (fields.lookup "storage") storage →
      SaysBaseDir (fields.lookup "base-dir") baseDir → Says text storage baseDir

/-- What is found in a settings file, and the directory where the file lies.  Without a file
nothing is said. -/
inductive Found (d : Disk) : Option String → Option StorageSettings → Option String → String → Prop
  | nothing : Found d none none none ""
  | file {path text dir : String} {storage : Option StorageSettings} {baseDir : Option String} :
      d.textAt path = .ok text → Says text storage baseDir → PathText.parent? path = some dir →
      Found d (some path) storage baseDir dir

/-- The settings are what their two fields say, and files are kept in memory if nothing is said
about them. -/
theorem ofParts_ofToml {storage baseDir : Option Toml.Node} :
    ofParts (storage.map SettingValue.ofToml) (baseDir.map SettingValue.ofToml) = some s ↔
      ∃ kept dir, SaysStorage storage kept ∧ SaysBaseDir baseDir dir ∧
        s = ⟨kept.getD .memory, dir⟩ := by
  constructor
  · intro h
    obtain ⟨dir, hdir⟩ : ∃ dir, SaysBaseDir baseDir dir := by
      cases baseDir with
      | none => exact ⟨none, .unsaid⟩
      | some m =>
        cases m with
        | text dir => exact ⟨some dir, .said⟩
        | _ => cases storage <;> simp [ofParts, SettingValue.ofToml, SettingValue.asText?] at h
    cases storage with
    | none =>
      refine ⟨none, dir, .unsaid, hdir, ?_⟩
      cases hdir <;> exact (Option.some.inj h).symm
    | some n =>
      obtain ⟨kept, hkept, hs⟩ := Option.bind_eq_some_iff.1 h
      refine ⟨some kept, dir, .said hkept, hdir, ?_⟩
      cases hdir <;> exact (Option.some.inj hs).symm
  · rintro ⟨kept, dir, hkept, hdir, rfl⟩
    cases hkept with
    | unsaid => cases hdir <;> rfl
    | said h => cases hdir <;> exact Option.bind_eq_some_iff.2 ⟨_, h, rfl⟩

/-- The settings that a text gives are what it says. -/
theorem ofToml_eq_some_iff :
    ofToml text = some s ↔
      ∃ storage baseDir, Says text storage baseDir ∧ s = ⟨storage.getD .memory, baseDir⟩ := by
  have hread (fields : List (String × Toml.Node)) :
      ofValue (.table (SettingValue.ofTomlFields fields)) =
        if fields.all fun f => f.1 = "storage" || f.1 = "base-dir" then
          ofParts ((fields.lookup "storage").map SettingValue.ofToml)
            ((fields.lookup "base-dir").map SettingValue.ofToml)
        else none := by
    rw [ofValue, SettingValue.lookup_ofTomlFields, SettingValue.lookup_ofTomlFields,
      SettingValue.all_ofTomlFields fields fun k => k = "storage" || k = "base-dir"]
  constructor
  · intro h
    obtain ⟨fields, hfields, h⟩ := Option.bind_eq_some_iff.1 h
    rw [hread, Option.ite_none_right_eq_some, ofParts_ofToml] at h
    obtain ⟨hkeys, storage, baseDir, hstorage, hbase, rfl⟩ := h
    exact ⟨storage, baseDir, .document hfields (by simpa using hkeys) hstorage hbase, rfl⟩
  · rintro ⟨storage, baseDir, ⟨hfields, hkeys, hstorage, hbase⟩, rfl⟩
    refine Option.bind_eq_some_iff.2 ⟨_, hfields, ?_⟩
    rw [hread, Option.ite_none_right_eq_some, ofParts_ofToml]
    exact ⟨by simpa using hkeys, storage, baseDir, hstorage, hbase, rfl⟩

theorem textAt_ok {d : Disk} (h : d.textAt path = .ok text) :
    ∃ bytes, d.contentAt path = .ok bytes := by
  simp only [Disk.textAt, except_bind_ok_iff] at h
  obtain ⟨bytes, hbytes, -⟩ := h
  exact ⟨bytes, hbytes⟩

/-- **The settings in a file are what is found in it, rebased.** -/
theorem ofFile_ok_iff :
    ofFile d path = .ok s ↔ ∃ storage baseDir dir, Found d (some path) storage baseDir dir ∧
      s = Settings.rebase dir ⟨storage.getD .memory, baseDir⟩ := by
  constructor
  · intro h
    rw [ofFile] at h
    cases htext : d.textAt path with
    | error e => simp [htext] at h
    | ok text =>
      cases hsays : ofToml text with
      | none => simp [htext, hsays] at h
      | some said =>
        obtain ⟨bytes, hbytes⟩ := textAt_ok htext
        obtain ⟨dir, hdir⟩ := Disk.exists_parent_of_contentAt hbytes
        obtain ⟨storage, baseDir, hstated, rfl⟩ := ofToml_eq_some_iff.1 hsays
        simp only [htext, hsays, hdir] at h
        cases h
        exact ⟨storage, baseDir, dir, .file htext hstated hdir, rfl⟩
  · rintro ⟨storage, baseDir, dir, hfound, rfl⟩
    cases hfound with
    | file htext hsays hdir =>
      simp [ofFile, htext, ofToml_eq_some_iff.2 ⟨storage, baseDir, hsays, rfl⟩, hdir]

end Settings

end EngineHost

import EngineHost.Proofs.Disk.OpenFile

/-!
# Locks of open files

What a system call about one open file, or about an entry, leaves for those who have other files
open.

* `Disk.LeadsTo` : a path leads to a node or nowhere.
* `Disk.SoleLock` : an open file has the lock of a node, and no other one has it.
* `Disk.Spares` : a change to one open file gives no name to a node, leaves the other open files as
  they are and takes no lock that another one has.  So paths that lead to a node or nowhere still
  do, and who has a lock alone still has it alone (`Disk.Spares.leadsTo`, `Disk.Spares.soleLock`).
* `Disk.spares_openFile`, `Disk.spares_tryLock`, `Disk.spares_unlock`, `Disk.spares_closeFile`,
  `Disk.spares_removeFile`, `Disk.spares_removeDirectory` : the calls are such changes.
-/

namespace EngineHost

namespace Disk

variable {d d' : Disk} {id id' : DescriptionId} {own : Option DescriptionId} {path : DiskPath}
  {f g : Description} {i : Nat}

/-- A path leads to a node, if it leads anywhere. -/
def LeadsTo (d : Disk) (path : DiskPath) (i : Nat) : Prop :=
  ∀ trail, d.follow [] path = .ok trail → trail.node = i

/-- An open file, and no other one, has the lock of a node. -/
structure SoleLock (d : Disk) (id : DescriptionId) (i : Nat) : Prop where
  locked : d.description? id = some ⟨i, true⟩
  sole : ∀ id', d.description? id' = some ⟨i, true⟩ → id' = id

/-- The names of new open files are new. -/
def FreshNames (d : Disk) : Prop := ∀ e ∈ d.descriptions, e.1 < d.nextDescription

theorem FreshNames.lt (h : d.FreshNames) (hf : d.description? id = some f) :
    id < d.nextDescription := h _ (mem_of_lookup hf)

/-- A change to one open file, or to none, that others can bear. -/
structure Spares (own : Option DescriptionId) (d d' : Disk) : Prop where
  /-- What a name leads to now, it led to before. -/
  names : KeepsNames d' d
  others : ∀ id, own ≠ some id → d'.description? id = d.description? id
  /-- A lock is taken only where nobody else has it. -/
  locks : ∀ {id i}, own = some id → d'.description? id = some ⟨i, true⟩ →
    ∀ id', d.description? id' = some ⟨i, true⟩ → id' = id
  fresh : d.FreshNames → d'.FreshNames

namespace Spares

theorem leadsTo (h : Spares own d d') (hpath : d.LeadsTo path i) : d'.LeadsTo path i :=
  fun trail htrail => hpath trail (KeepsNames.follow h.names htrail)

/-- An open file that has a lock alone keeps it alone when another one changes. -/
theorem soleLock (h : Spares own d d') (hid : own ≠ some id) (hlock : d.SoleLock id i) :
    d'.SoleLock id i where
  locked := (h.others id hid).trans hlock.locked
  sole id' hid' := by
    by_cases hown : own = some id'
    · exact (h.locks hown hid' id hlock.locked).symm
    · exact hlock.sole id' (by rwa [← h.others id' hown])

end Spares

/-! ### The system calls -/

theorem keepsNames_refl (d : Disk) : KeepsNames d d := fun hi => ⟨_, hi, fun hj => hj⟩

theorem spares_refl (d : Disk) : Spares none d d :=
  ⟨keepsNames_refl d, fun _ _ => rfl, nofun, fun h => h⟩

theorem reach_path (d : Disk) (path : DiskPath) :
    d.reach ⟨[], path, false⟩ = d.follow [] path := by
  simp only [reach, Bool.false_eq_true, if_false, bind_pure]

/-- Another open file in the place of one. -/
theorem description?_setDescription_of_ne (hne : id' ≠ id) (g : Description) :
    (d.setDescription id g).description? id' = d.description? id' := by
  obtain ⟨nodes, descriptions, next, working⟩ := d
  simp only [description?, setDescription]
  induction descriptions with
  | nil => rfl
  | cons e rest ih =>
    obtain ⟨k, f⟩ := e
    rw [List.map_cons]
    by_cases hk : k = id
    · rw [if_pos hk, lookup_cons_of_ne hne, lookup_cons_of_ne (hk ▸ hne), ih]
    · rw [if_neg hk, List.lookup_cons, List.lookup_cons, ih]

/-- Putting an open file in the place of one takes no lock, unless nobody else has it. -/
theorem spares_setDescription (hf : d.description? id = some f)
    (hg : g.locked = true → ∀ id', d.description? id' = some ⟨g.node, true⟩ → id' = id) :
    Spares (some id) d (d.setDescription id g) where
  names := keepsNames_refl d
  others id' hid' := description?_setDescription_of_ne (fun h => hid' (congrArg some h.symm)) g
  locks := by
    rintro _ i ⟨⟩ hlocked
    rw [description?_setDescription hf] at hlocked
    cases hlocked
    exact hg rfl
  fresh h e he := by
    obtain ⟨e', he', rfl⟩ := List.mem_map.1 he
    by_cases hid : e'.1 = id
    · rw [if_pos hid]
      exact hid ▸ h e' he'
    · rw [if_neg hid]
      exact h e' he'

theorem openFile_ok {write : Bool} (h : d.openFile ⟨[], path, false⟩ write = .ok (id, d')) :
    ∃ trail, d.follow [] path = .ok trail ∧ id = d.nextDescription ∧
      d' = { d with
        descriptions := (id, ⟨trail.node, false⟩) :: d.descriptions
        nextDescription := id + 1 } := by
  simp only [openFile, reach_path, except_bind_ok_iff] at h
  obtain ⟨trail, htrail, h⟩ := h
  refine ⟨trail, htrail, ?_⟩
  cases hn : d.node? trail.node with
  | none =>
    simp only [hn] at h
    cases h
  | some n =>
    cases n with
    | file =>
      simp only [hn] at h
      cases h
      exact ⟨rfl, rfl⟩
    | directory =>
      simp only [hn] at h
      cases write with
      | true => cases h
      | false =>
        cases h
        exact ⟨rfl, rfl⟩

/-- A new open file has no lock, and its path leads to its node. -/
theorem spares_openFile {write : Bool} (hfresh : d.FreshNames)
    (h : d.openFile ⟨[], path, false⟩ write = .ok (id, d')) :
    Spares (some id) d d' ∧ d.nextDescription ≤ id ∧
      ∃ i, d'.description? id = some ⟨i, false⟩ ∧ d'.LeadsTo path i := by
  obtain ⟨trail, htrail, rfl, rfl⟩ := openFile_ok h
  refine ⟨⟨keepsNames_refl d, fun id' hid' => ?_, ?_, ?_⟩, Nat.le_refl _, trail.node, ?_, ?_⟩
  · exact lookup_cons_of_ne fun h => hid' (congrArg some h.symm)
  · rintro _ i ⟨⟩ hlocked
    rw [description?, List.lookup_cons_self] at hlocked
    cases hlocked
  · intro _ e he
    rcases List.mem_cons.1 he with rfl | he
    · exact Nat.lt_succ_self _
    · exact Nat.lt_succ_of_lt (hfresh e he)
  · exact List.lookup_cons_self
  · intro trail' htrail'
    have hsame : d.follow [] path = .ok trail' := htrail'
    rw [htrail] at hsame
    cases hsame
    rfl

/-- **The lock of a file is taken only while no other open file has it.** -/
theorem spares_tryLock (hf : d.description? id = some ⟨i, false⟩) (h : d.tryLock id = .ok d') :
    Spares (some id) d d' ∧ d'.SoleLock id i := by
  simp only [tryLock, hf] at h
  split_ifs at h with helse
  cases h
  have hsole : ∀ id', d.description? id' = some ⟨i, true⟩ → id' = id := by
    intro id' hid'
    by_contra hne
    refine helse (List.any_eq_true.2 ⟨_, mem_of_lookup hid', ?_⟩)
    simp [hne]
  refine ⟨spares_setDescription hf fun _ => hsole, description?_setDescription hf _, ?_⟩
  intro id' hid'
  by_contra hne
  rw [description?_setDescription_of_ne hne] at hid'
  exact hne (hsole id' hid')

theorem spares_unlock (hf : d.description? id = some f) :
    ∃ d', d.unlock id = .ok d' ∧ Spares (some id) d d' ∧
      d'.description? id = some ⟨f.node, false⟩ := by
  refine ⟨d.setDescription id ⟨f.node, false⟩, ?_, ?_, description?_setDescription hf _⟩
  · simp only [unlock, hf]
  · exact spares_setDescription hf fun hlocked => nomatch hlocked

theorem description?_closeFile (d : Disk) (id id' : DescriptionId) :
    (d.closeFile id).description? id' = if id' = id then none else d.description? id' :=
  lookup_leaveOut _ _ _

theorem spares_closeFile (d : Disk) (id : DescriptionId) : Spares (some id) d (d.closeFile id) where
  names := keepsNames_refl d
  others id' hid' := by
    rw [description?_closeFile, if_neg fun h => hid' (congrArg some h.symm)]
  locks := by
    rintro _ i ⟨⟩ hlocked
    rw [description?_closeFile, if_pos rfl] at hlocked
    cases hlocked
  fresh h e he := h e (List.mem_filter.1 he).1

/-- A name less leads nowhere else. -/
theorem spares_unlink {parent : Nat} {name : String} (h : d.unlink parent name = .ok d') :
    Spares none d d' := by
  simp only [unlink, except_bind_ok_iff, children_ok_iff, except_pure_ok_iff] at h
  obtain ⟨children, hparent, rfl⟩ := h
  refine { spares_refl d with names := ?_ }
  intro j children' hj
  rw [node?_setNode hparent] at hj
  split_ifs at hj with hat
  · cases hj
    refine ⟨children, hat ▸ hparent, fun {name' k} hk => ?_⟩
    rw [lookup_leaveOut] at hk
    split_ifs at hk
    exact hk
  · exact ⟨children', hj, fun hk => hk⟩

theorem spares_removeDirectory {r : Route} (h : d.removeDirectory r = .ok d') :
    Spares none d d' := by
  simp only [removeDirectory, except_bind_ok_iff] at h
  obtain ⟨place, -, h⟩ := h
  cases place with
  | none => cases h
  | some place =>
    simp only [except_bind_ok_iff] at h
    obtain ⟨trail, -, children, -, h⟩ := h
    split_ifs at h
    exact spares_unlink h

/-- A file is removed where there is one. -/
theorem spares_removeFile (h : d.removeFile ⟨[], path, false⟩ = .ok d') :
    Spares none d d' ∧
      ∃ trail data, d.follow [] path = .ok trail ∧ d.node? trail.node = some (.file data) := by
  simp only [removeFile, except_bind_ok_iff] at h
  obtain ⟨place, -, h⟩ := h
  cases place with
  | none => cases h
  | some place =>
    simp only [except_bind_ok_iff] at h
    obtain ⟨n, hn, h⟩ := h
    cases n with
    | directory => cases h
    | file data =>
      refine ⟨spares_unlink h, ?_⟩
      simp only [nodeAt, reach_path, except_bind_ok_iff] at hn
      obtain ⟨trail, htrail, hn⟩ := hn
      cases hnode : d.node? trail.node with
      | none => simp [hnode] at hn
      | some m =>
        obtain rfl : m = .file data := by simpa [hnode] using hn
        exact ⟨trail, data, htrail, hnode⟩

end Disk

end EngineHost

import EngineHost.Proofs.Bridge.Operation
import EngineHost.Proofs.Storage.Holding
import EngineHost.Proofs.Tree.Naming

/-!
# Walking in the tree

A chain of names is walked name by name, and what is missing may be made on the way.

* `Tree.WellFormed.walk_of_descend` : a chain that leads to a directory is walked without a change.
* `Tree.Grown.walk_found_or_new` : a walk ends where the chain led before it, or in a new directory.
* `Tree.walk_leads` : afterwards the chain leads to where the walk ended.
* `Tree.WellFormed.reach_file` : a file that a path names is found through its parent.
* `Tree.idleFile?` : the file that a path names, if nobody holds it.
-/

namespace EngineHost

namespace Tree

open EngineHost.Storage

variable {a : Allocator} {t t' : Tree} {d d' i : Inode} {name : String} {names : List String}
  {create : Bool} {kind : EntryKind} {children : List (String × Inode)}

/-! ### One name -/

/-- A child that is looked up is the one that is there, or a new one. -/
theorem lookupOrCreate_found_or_new (h : t.lookupOrCreate d name create kind = .ok (i, t')) :
    (t' = t ∧ t.child? d name = some i) ∨ i = t.nextInode := by
  obtain ⟨children, hd, ⟨hl, -, rfl⟩ | ⟨-, -, hi, -⟩⟩ := lookupOrCreate_ok_iff.1 h
  · exact .inl ⟨rfl, by rw [child?, hd]; exact hl⟩
  · exact .inr hi

/-- A child has a greater number than its parent. -/
theorem Grown.lt_of_lookupOrCreate (ht : t.Grown)
    (h : t.lookupOrCreate d name create kind = .ok (i, t')) : d < i := by
  obtain ⟨children, hd, -⟩ := lookupOrCreate_ok_iff.1 h
  rcases lookupOrCreate_found_or_new h with ⟨-, hi⟩ | hi
  · exact ht.entry_lt (entry_of_child? hi)
  · exact hi ▸ lt_nextInode hd

/-- A child of the right kind is found as it is. -/
theorem WellFormed.lookupOrCreate_of_child? (ht : t.WellFormed) (hi : t.child? d name = some i)
    {n : Node} (hn : t.node? i = some n) (create : Bool) :
    isEntryName name = true ∧ t.lookupOrCreate d name create n.kind = .ok (i, t) := by
  have he := entry_of_child? hi
  refine ⟨ht.entry_name he, lookupOrCreate_ok_iff.2 ?_⟩
  obtain ⟨children, hd, hmem⟩ := he
  exact ⟨children, hd, .inl ⟨(lookup_eq_some_iff_mem (ht.distinct hd)).2 hmem, ⟨n, hn, rfl⟩, rfl⟩⟩

theorem Grown.of_directory (ht : t.Grown)
    (h : (memory a).directory d name create t = .ok i t') : t'.Grown := by
  have hsteps := memory_keeps a .directory d name create t
  rw [h] at hsteps
  exact hsteps.keeps Step.grown ht

/-- Looking for a directory without making it leaves the tree as it is. -/
theorem memory_directory_looks (a : Allocator) (d : Inode) (name : String) :
    Moves (Unchanged id) ((memory a).directory d name false) := fun _ =>
  stateAfter_of_ok (memory_failsClean a .directory) fun _ _ h =>
    lookupOrCreate_false (memory_directory_ok_iff.1 h).2

/-- Looking for a file without making it leaves the tree as it is. -/
theorem memory_file_looks (a : Allocator) (d : Inode) (name : String) :
    Moves (Unchanged id) ((memory a).file d name false) := fun _ =>
  stateAfter_of_ok (memory_failsClean a .file) fun _ _ h =>
    lookupOrCreate_false (memory_file_ok_iff.1 h).2

/-- A locked file is not removed. -/
theorem memory_remove_of_locked {data : Content} (hname : isEntryName name = true)
    (hc : t.child? d name = some i) (hi : t.node? i = some (.file data true)) :
    (memory a).remove d name t = .error .noModificationAllowed t := by
  obtain ⟨children, hd, -⟩ := entry_of_child? hc
  rw [child?_of_directory hd] at hc
  exact memory_remove_error_iff.2 ⟨.inr ⟨hname, unlink_of_locked hd hc hi⟩, rfl⟩

/-- The handle of a locked file is refused. -/
theorem memory_acquire_of_locked {data : Content} (hi : t.node? i = some (.file data true)) :
    (memory a).acquire i t = .error .noModificationAllowed t :=
  memory_acquire_error_iff.2 ⟨lock_of_locked hi, rfl⟩

/-! ### Chains of names -/

theorem walk_cons_ok_iff {rest : List String} :
    (memory a).walk create d (name :: rest) t = .ok d' t' ↔
      ∃ i t₁, (memory a).directory d name create t = .ok i t₁ ∧
        (memory a).walk create i rest t₁ = .ok d' t' :=
  attempt_bind_ok_iff

/-- A walk goes down. -/
theorem Grown.walk_le (ht : t.Grown) (h : (memory a).walk create d names t = .ok d' t') :
    d ≤ d' := by
  induction names generalizing d t with
  | nil => cases h; exact Nat.le_refl _
  | cons name rest ih =>
    obtain ⟨i, t₁, hi, hrest⟩ := walk_cons_ok_iff.1 h
    have hlt : d < i := ht.lt_of_lookupOrCreate (memory_directory_ok_iff.1 hi).2
    exact Nat.le_trans (Nat.le_of_lt hlt) (ih (ht.of_directory hi) hrest)

/-- **A walk ends where the chain led before it, or in a new directory.** -/
theorem Grown.walk_found_or_new (ht : t.Grown)
    (h : (memory a).walk create d names t = .ok d' t') :
    (t' = t ∧ t.descend d names = some d') ∨ t.nextInode ≤ d' := by
  induction names generalizing d t with
  | nil => cases h; exact .inl ⟨rfl, rfl⟩
  | cons name rest ih =>
    obtain ⟨i, t₁, hi, hrest⟩ := walk_cons_ok_iff.1 h
    rcases lookupOrCreate_found_or_new (memory_directory_ok_iff.1 hi).2 with ⟨rfl, hc⟩ | hnew
    · rw [descend, hc]
      exact ih ht hrest
    · -- below a new directory there are only newer ones
      exact .inr (hnew ▸ (ht.of_directory hi).walk_le hrest)

/-- **A chain that leads to a directory is walked without a change.** -/
theorem WellFormed.walk_of_descend (ht : t.WellFormed) (hd : t.descend d names = some d')
    (hdir : t.node? d' = some (.directory children)) (create : Bool) :
    (memory a).walk create d names t = .ok d' t := by
  induction names generalizing d with
  | nil => cases hd; rfl
  | cons name rest ih =>
    rw [descend, Option.bind_eq_some_iff] at hd
    obtain ⟨i, hi, hrest⟩ := hd
    -- what a chain goes on from is a directory
    have hnode : ∃ cs, t.node? i = some (.directory cs) := by
      cases rest with
      | nil => cases hrest; exact ⟨children, hdir⟩
      | cons name' rest =>
        rw [descend, Option.bind_eq_some_iff] at hrest
        obtain ⟨j, hj, -⟩ := hrest
        obtain ⟨cs, hcs, -⟩ := entry_of_child? hj
        exact ⟨cs, hcs⟩
    obtain ⟨cs, hcs⟩ := hnode
    have hstep := ht.lookupOrCreate_of_child? hi hcs create
    exact walk_cons_ok_iff.2 ⟨i, t, memory_directory_ok_iff.2 hstep, ih hrest⟩

/-- A walk takes no child from its name, and afterwards the chain leads to where it ended. -/
theorem walk_leads (h : (memory a).walk create d names t = .ok d' t') :
    KeepsChildren t t' ∧ t'.descend d names = some d' := by
  induction names generalizing d t with
  | nil => cases h; exact ⟨fun _ _ _ hj => hj, rfl⟩
  | cons name rest ih =>
    obtain ⟨i, t₁, hi, hrest⟩ := walk_cons_ok_iff.1 h
    have hleaf := (memory_directory_ok_iff.1 hi).2
    have hstep : KeepsChildren t t₁ := keepsChildren_lookupOrCreate hleaf
    obtain ⟨hkeeps, hd⟩ := ih hrest
    refine ⟨fun _ _ _ hj => hkeeps _ _ _ (hstep _ _ _ hj), ?_⟩
    rw [descend, hkeeps _ _ _ (child?_of_lookupOrCreate hleaf)]
    exact hd

/-! ### Paths -/

/-- A file that a path names is found through its parent, and nothing is changed on the way. -/
theorem WellFormed.reach_file (a : Allocator) (ht : t.WellFormed) {p : StoragePath} {data : Content}
    {locked : Bool} (hd : t.descend rootInode (p.parents ++ [p.fileName]) = some i)
    (hi : t.node? i = some (.file data locked)) :
    ∃ d, t.child? d p.fileName = some i ∧ isEntryName p.fileName = true ∧
      (∀ create, (memory a).walk create rootInode p.parents t = .ok d t) ∧
      ∀ create, (memory a).file d p.fileName create t = .ok i t := by
  obtain ⟨d, hparent, hc⟩ := descend_concat_iff.1 hd
  obtain ⟨children, hdir, -⟩ := entry_of_child? hc
  have hleaf := fun create => ht.lookupOrCreate_of_child? hc hi create
  exact ⟨d, hc, (hleaf false).1, ht.walk_of_descend hparent hdir,
    fun create => memory_file_ok_iff.2 (hleaf create)⟩

/-- The file that a path names, if nobody holds it. -/
def idleFile? (t : Tree) (path : String) : Option Inode :=
  match StoragePath.parse path with
  | none => none
  | some p =>
    match t.descend rootInode (p.parents ++ [p.fileName]) with
    | none => none
    | some i =>
      match t.node? i with
      | some (.file _ false) => some i
      | _ => none

theorem idleFile?_eq_some_iff {path : String} :
    t.idleFile? path = some i ↔ ∃ p data, StoragePath.parse path = some p ∧
      t.descend rootInode (p.parents ++ [p.fileName]) = some i ∧
      t.node? i = some (.file data false) := by
  unfold idleFile?
  cases StoragePath.parse path with
  | none => simp
  | some p =>
    cases hd : t.descend rootInode (p.parents ++ [p.fileName]) with
    | none => simp [hd]
    | some j =>
      simp only [Option.some.injEq, exists_and_left, exists_eq_left', hd]
      split
      · rename_i data hj
        constructor
        · rintro ⟨⟩
          exact ⟨rfl, data, hj⟩
        · rintro ⟨rfl, -⟩
          rfl
      · rename_i hno
        simp only [reduceCtorEq, false_iff]
        rintro ⟨rfl, data, hj⟩
        exact hno data hj

/-- A file that a walk found and that nobody holds is the one that the path names, or it is new. -/
theorem Grown.file_found_or_new (ht : t.Grown) {p : StoragePath} {path : String}
    {t₁ t₂ t₃ : Tree} (hp : StoragePath.parse path = some p)
    (hwalk : (memory a).walk true rootInode p.parents t = .ok d t₁)
    (hfile : (memory a).file d p.fileName create t₁ = .ok i t₂) (hlock : t₂.lock i = .ok t₃) :
    t.idleFile? path = some i ∨ t.nextInode ≤ i := by
  have hleaf := (memory_file_ok_iff.1 hfile).2
  rcases ht.walk_found_or_new hwalk with ⟨rfl, hd⟩ | hnew
  · rcases lookupOrCreate_found_or_new hleaf with ⟨rfl, hi⟩ | hi
    · obtain ⟨data, hdata, -⟩ := lock_ok_iff.1 hlock
      exact .inl (idleFile?_eq_some_iff.2 ⟨p, data, hp, descend_concat_iff.2 ⟨d, hd, hi⟩, hdata⟩)
    · exact .inr (Nat.le_of_eq hi.symm)
  · have hsteps : Steps t t₁ := by
      have hdirectory := fun d name => memory_keeps a .directory d name true
      have := Bridge.walk_moves hdirectory rootInode p.parents t
      rwa [hwalk] at this
    have hlt : d < i := (hsteps.keeps Step.grown ht).lt_of_lookupOrCreate hleaf
    exact .inr (Nat.le_trans hnew (Nat.le_of_lt hlt))

end Tree

end EngineHost

import EngineHost.Proofs.Text.Segments
import EngineHost.Proofs.Tree.Shape
import Mathlib.Data.List.Induction

/-!
# Paths keep naming their nodes

A chain of names that leads to a node leads to it as long as the node is there: a name is never
given to another node while its entry stands, and the directories above a node hold entries, so none
of them can be removed.

* `Tree.Names` : the node that a path names, and `Tree.HasFile` : there is a file under a path.
* `Tree.Steps.keepsNames` : changes of a tree keep what the paths of the remaining nodes name.
-/

namespace EngineHost

namespace Tree

/-- The node that a path names. -/
def Names (t : Tree) (path : String) (i : Inode) : Prop :=
  ∃ p, StoragePath.parse path = some p ∧ t.descend rootInode (p.parents ++ [p.fileName]) = some i

/-- There is a file under a path. -/
def HasFile (t : Tree) (path : String) : Prop :=
  ∃ i data locked, t.Names path i ∧ t.node? i = some (.file data locked)

/-- No child is taken from its name. -/
def KeepsChildren (t t' : Tree) : Prop :=
  ∀ d name j, t.child? d name = some j → t'.child? d name = some j

/-- A node that is left is one that was there, or new, and chains that led to it lead to it. -/
def KeepsNames (t t' : Tree) : Prop :=
  t.nextInode ≤ t'.nextInode ∧ ∀ i, i < t.nextInode → t'.Present i → t.Present i ∧
    ∀ names, t.descend rootInode names = some i → t'.descend rootInode names = some i

instance : Std.Refl KeepsNames := ⟨fun _ => ⟨Nat.le_refl _, fun _ _ h => ⟨h, fun _ => id⟩⟩⟩

instance : IsTrans Tree KeepsNames where
  trans t t' t'' h h' := by
    refine ⟨Nat.le_trans h.1 h'.1, fun i hi hpresent => ?_⟩
    obtain ⟨hpresent', hnames'⟩ := h'.2 i (Nat.lt_of_lt_of_le hi h.1) hpresent
    obtain ⟨hpresent, hnames⟩ := h.2 i hi hpresent'
    exact ⟨hpresent, fun names hd => hnames' names (hnames names hd)⟩

variable {t t' : Tree} {d i j : Inode} {name : String} {names : List String} {path : String}
  {children : List (String × Inode)} {data data' : Content} {b b' create : Bool}
  {kind : EntryKind}

/-! ### Children -/

theorem child?_of_directory (hd : t.node? d = some (.directory children)) (name : String) :
    t.child? d name = children.lookup name := by
  rw [child?, hd]

theorem child?_of_file (hd : t.node? d = some (.file data b)) (name : String) :
    t.child? d name = none := by
  rw [child?, hd]

theorem child?_of_missing (hd : t.node? d = none) (name : String) : t.child? d name = none := by
  rw [child?, hd]

theorem child?_congr (h : t'.node? d = t.node? d) (name : String) :
    t'.child? d name = t.child? d name := by
  rw [child?, child?, h]

/-- Putting a file in the place of a file leaves every child. -/
theorem child?_replaced (hi : t.node? i = some (.file data b))
    (hnode : ∀ j, t'.node? j = if j = i then some (.file data' b') else t.node? j) (d : Inode)
    (name : String) : t'.child? d name = t.child? d name := by
  by_cases hd : d = i
  · subst hd
    have hfile := hnode d
    rw [if_pos rfl] at hfile
    rw [child?_of_file hi, child?_of_file hfile]
  · exact child?_congr (by rw [hnode, if_neg hd]) name

/-- The children after a child was unlinked: its entry is gone, and so are those of the node that
went. -/
theorem child?_unlinked (hd : t.node? d = some (.directory children)) (name : String)
    (i d' : Inode) (name' : String) :
    (t.unlinked d children name i).child? d' name' =
      if d' = i ∨ (d' = d ∧ name' = name) then none else t.child? d' name' := by
  have hnode := node?_unlinked hd name i d'
  by_cases hgone : d' = i
  · rw [if_pos hgone] at hnode
    rw [if_pos (.inl hgone), child?_of_missing hnode]
  · rw [if_neg hgone] at hnode
    by_cases hparent : d' = d
    · subst hparent
      rw [if_pos rfl] at hnode
      rw [child?_of_directory hnode, child?_of_directory hd, lookup_leaveOut]
      simp [hgone]
    · rw [if_neg hparent] at hnode
      simp [hgone, hparent, child?_congr hnode]

/-- A name that is not found to be unlinked has no child. -/
theorem child?_of_unlink_notFound (h : t.unlink d name = .error .notFound) :
    t.child? d name = none := by
  cases hc : t.child? d name with
  | none => rfl
  | some i =>
    obtain ⟨children, hd, -⟩ := entry_of_child? hc
    rw [child?_of_directory hd] at hc
    simp only [unlink, children_ok_iff.2 hd, bind, Except.bind, hc] at h
    split at h <;> cases h

/-- Linking a node takes no child from its name. -/
theorem keepsChildren_linked (hd : t.node? d = some (.directory children)) (name : String)
    (n : Node) : KeepsChildren t (t.linked d children name n) := by
  intro d' name' j hj
  obtain ⟨children', hd', -⟩ := entry_of_child? hj
  have hnode := node?_linked hd name n d'
  rw [if_neg (Nat.ne_of_lt (lt_nextInode hd'))] at hnode
  by_cases hparent : d' = d
  · subst hparent
    rw [if_pos rfl] at hnode
    rw [child?_of_directory hd] at hj
    rw [child?_of_directory hnode, List.lookup_append, hj]
    rfl
  · rw [if_neg hparent] at hnode
    rw [child?_congr hnode, hj]

theorem keepsChildren_lookupOrCreate (h : t.lookupOrCreate d name create kind = .ok (i, t')) :
    KeepsChildren t t' := by
  obtain ⟨children, hd, ⟨-, -, rfl⟩ | ⟨-, -, -, rfl⟩⟩ := lookupOrCreate_ok_iff.1 h
  · exact fun _ _ _ hj => hj
  · exact keepsChildren_linked hd name _

/-- A child that was looked up is the one of its name. -/
theorem child?_of_lookupOrCreate (h : t.lookupOrCreate d name create kind = .ok (i, t')) :
    t'.child? d name = some i := by
  obtain ⟨children, hd, ⟨hl, -, rfl⟩ | ⟨hl, -, rfl, rfl⟩⟩ := lookupOrCreate_ok_iff.1 h
  · rw [child?_of_directory hd, hl]
  · have hnode := node?_linked hd name (.ofKind kind) d
    rw [if_neg (Nat.ne_of_lt (lt_nextInode hd)), if_pos rfl] at hnode
    rw [child?_of_directory hnode, List.lookup_append, hl]
    simp

/-! ### Chains of names -/

theorem KeepsChildren.descend (h : KeepsChildren t t') (hd : t.descend i names = some j) :
    t'.descend i names = some j := by
  induction names generalizing i with
  | nil => exact hd
  | cons name rest ih =>
    rw [Tree.descend, Option.bind_eq_some_iff] at hd ⊢
    obtain ⟨k, hk, hrest⟩ := hd
    exact ⟨k, h i name k hk, ih hrest⟩

theorem KeepsChildren.keepsNames (h : KeepsChildren t t') (hnext : t.nextInode ≤ t'.nextInode)
    (hpresent : ∀ {i}, i < t.nextInode → t'.Present i → t.Present i) : KeepsNames t t' :=
  ⟨hnext, fun _ hi hp => ⟨hpresent hi hp, fun _ => h.descend⟩⟩

/-- Putting a file in the place of a file takes no child from its name. -/
theorem keepsChildren_replaced (hi : t.node? i = some (.file data b))
    (hnode : ∀ j, t'.node? j = if j = i then some (.file data' b') else t.node? j) :
    KeepsChildren t t' := fun d name j hj => by rwa [child?_replaced hi hnode]

/-- Putting a file in the place of a file keeps what every path names. -/
theorem keepsNames_replaced (hi : t.node? i = some (.file data b))
    (hnext : t'.nextInode = t.nextInode)
    (hnode : ∀ j, t'.node? j = if j = i then some (.file data' b') else t.node? j) :
    KeepsNames t t' := by
  refine (keepsChildren_replaced hi hnode).keepsNames (Nat.le_of_eq hnext.symm) fun {j} _ hp => ?_
  simp only [Present, hnode] at hp
  split_ifs at hp with hj
  · exact ⟨_, hj ▸ hi⟩
  · exact hp

/-- A chain to a node that stays does not lead through what is unlinked. -/
theorem descend_unlinked (hd : t.node? d = some (.directory children))
    (hl : children.lookup name = some i) (hr : Removable (t.node? i)) (hj : j ≠ i)
    (h : t.descend rootInode names = some j) :
    (t.unlinked d children name i).descend rootInode names = some j := by
  induction names using List.reverseRecOn generalizing j with
  | nil => exact h
  | append_singleton names last ih =>
    obtain ⟨e, he, hlast⟩ := descend_concat_iff.1 h
    -- what goes has no entries, so it is not the directory of the last name
    have hne : e ≠ i := by
      rintro rfl
      exact hr.no_entry (entry_of_child? hlast)
    refine descend_concat_iff.2 ⟨e, ih hne he, ?_⟩
    rw [child?_unlinked hd, if_neg, hlast]
    rintro (hei | ⟨rfl, rfl⟩)
    · exact hne hei
    · rw [child?_of_directory hd, hl] at hlast
      exact hj (Option.some.inj hlast).symm

/-- **A change of a tree keeps what the paths of the remaining nodes name.** -/
theorem Step.keepsNames (h : Step t t') : KeepsNames t t' := by
  cases h with
  | link kind hd hl hname =>
    refine (keepsChildren_linked hd _ _).keepsNames (by simp [linked]) fun hi hp => ?_
    exact ((present_linked hd _).1 hp).resolve_right (Nat.ne_of_lt hi)
  | unlink hd hl hr =>
    refine ⟨by simp [unlinked], fun j hj hp => ?_⟩
    obtain ⟨hp, hne⟩ := (present_unlinked hd).1 hp
    exact ⟨hp, fun names => descend_unlinked hd hl hr hne⟩
  | resize a hi hadmits => exact keepsNames_replaced hi (by simp [resized]) (node?_resized hi _)
  | replace hi hlen => exact keepsNames_replaced hi (by simp) (node?_setNode hi _)

theorem Steps.keepsNames (h : Steps t t') : KeepsNames t t' := by
  induction h with
  | refl => exact Std.Refl.refl t
  | tail _ hstep ih => exact trans_of KeepsNames ih hstep.keepsNames

/-- A name that was unlinked is free, and no other chain leads to where it was. -/
theorem not_names_of_unlink {p : StoragePath} (hp : StoragePath.parse path = some p)
    (hd : t.descend rootInode p.parents = some d) (h : t.unlink d p.fileName = .ok t') :
    ¬ t'.Names path j := by
  obtain ⟨children, hdir, i, -, -, rfl⟩ := unlink_ok_iff.1 h
  have hold : KeepsChildren (t.unlinked d children p.fileName i) t := by
    intro d' name' k hk
    rw [child?_unlinked hdir] at hk
    split_ifs at hk
    exact hk
  rintro ⟨q, hq, hchain⟩
  obtain rfl : p = q := Option.some.inj (hp.symm.trans hq)
  obtain ⟨d', hd', hlast⟩ := descend_concat_iff.1 hchain
  -- the chain of the parents led to the same directory before
  obtain rfl : d = d' := Option.some.inj (hd.symm.trans (hold.descend hd'))
  rw [child?_unlinked hdir, if_pos (.inr ⟨rfl, rfl⟩)] at hlast
  cases hlast

/-- A path that named a node names it as long as the node is there. -/
theorem Names.of_steps (h : t.Names path i) (hi : t.Present i) (hs : Steps t t')
    (hi' : t'.Present i) : t'.Names path i := by
  obtain ⟨p, hp, hd⟩ := h
  exact ⟨p, hp, (hs.keepsNames.2 i hi.lt_nextInode hi').2 _ hd⟩

end Tree

end EngineHost

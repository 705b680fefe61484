import EngineHost.Proofs.Tree.Step
import Mathlib.Logic.ExistsUnique

/-!
# The tree stays a tree

Nodes are kept by number and directories hold the numbers of their children, so nothing in the data
itself makes a tree of them.  `Tree.WellFormed` says that they are one: the root is a directory,
every entry leads to a node, every other node has one entry and one path from the root.

* `Tree.Grown` : the inductive form of it.  The path from the root is replaced by its reason: a
  node is linked when it is made and never again, so an entry always leads from a smaller number to
  a greater one.
* `Tree.Step.grown` : every change of a tree keeps `Tree.Grown`.
* `Tree.Grown.wellFormed` : a tree that grew so is well formed.
-/

namespace EngineHost

namespace Tree

/-- There is a node of a number. -/
def Present (t : Tree) (i : Inode) : Prop := ∃ n, t.node? i = some n

/-- A directory has an entry under a name. -/
def Entry (t : Tree) (d : Inode) (name : String) (i : Inode) : Prop :=
  ∃ children, t.node? d = some (.directory children) ∧ (name, i) ∈ children

/-- The child that a directory has under a name. -/
def child? (t : Tree) (d : Inode) (name : String) : Option Inode :=
  match t.node? d with
  | some (.directory children) => children.lookup name
  | _ => none

/-- The node that a chain of names leads to. -/
def descend (t : Tree) : Inode → List String → Option Inode
  | i, [] => some i
  | i, name :: rest => (t.child? i name).bind fun j => t.descend j rest

/-- The nodes form a tree below the root. -/
structure WellFormed (t : Tree) : Prop where
  root : ∃ children, t.node? rootInode = some (.directory children)
  distinct : ∀ {d children}, t.node? d = some (.directory children) →
    (children.map Prod.fst).Nodup
  entry_name : ∀ {d name i}, t.Entry d name i → isEntryName name = true
  entry_present : ∀ {d name i}, t.Entry d name i → t.Present i
  one_entry : ∀ {i}, t.Present i → i ≠ rootInode → ∃! e : Inode × String, t.Entry e.1 e.2 i
  one_path : ∀ {i}, t.Present i → ∃! path : List String, t.descend rootInode path = some i
  below_next : ∀ {i}, t.Present i → i < t.nextInode

/-- The nodes were linked one after another, each once. -/
structure Grown (t : Tree) : Prop where
  root : ∃ children, t.node? rootInode = some (.directory children)
  distinct : ∀ {d children}, t.node? d = some (.directory children) →
    (children.map Prod.fst).Nodup
  entry_name : ∀ {d name i}, t.Entry d name i → isEntryName name = true
  entry_present : ∀ {d name i}, t.Entry d name i → t.Present i
  entry_lt : ∀ {d name i}, t.Entry d name i → d < i
  entry_unique : ∀ {d d' name name' i}, t.Entry d name i → t.Entry d' name' i →
    d = d' ∧ name = name'
  has_entry : ∀ {i}, t.Present i → i ≠ rootInode → ∃ d name, t.Entry d name i

variable {t t' : Tree} {d d' i j : Inode} {name name' : String} {n : Node}
  {children : List (String × Inode)} {data data' : Content} {locked locked' : Bool}

theorem Present.lt_nextInode (h : t.Present i) : i < t.nextInode := by
  obtain ⟨n, hn⟩ := h
  exact Tree.lt_nextInode hn

theorem Entry.present_parent (h : t.Entry d name i) : t.Present d := by
  obtain ⟨children, hd, -⟩ := h
  exact ⟨_, hd⟩

/-! ### Paths -/

theorem entry_of_child? (h : t.child? d name = some i) : t.Entry d name i := by
  rw [child?] at h
  split at h
  · exact ⟨_, ‹_›, mem_of_lookup h⟩
  · cases h

theorem Grown.child?_eq_some_iff (ht : t.Grown) : t.child? d name = some i ↔ t.Entry d name i := by
  refine ⟨entry_of_child?, ?_⟩
  rintro ⟨children, hd, hmem⟩
  rw [child?, hd]
  exact (lookup_eq_some_iff_mem (ht.distinct hd)).2 hmem

theorem descend_append (t : Tree) (i : Inode) (path rest : List String) :
    t.descend i (path ++ rest) = (t.descend i path).bind fun j => t.descend j rest := by
  induction path generalizing i with
  | nil => rfl
  | cons name path ih =>
    simp only [List.cons_append, descend, Option.bind_assoc]
    exact congrArg _ (funext fun j => ih j)

theorem descend_concat_iff {path : List String} :
    t.descend i (path ++ [name]) = some j ↔
      ∃ d, t.descend i path = some d ∧ t.child? d name = some j := by
  simp [descend_append, descend, Option.bind_eq_some_iff]

/-- Every node is reached: the parent of a node has a smaller number. -/
theorem Grown.exists_path (ht : t.Grown) (hi : t.Present i) :
    ∃ path, t.descend rootInode path = some i := by
  induction i using Nat.strongRecOn with
  | ind i ih =>
    by_cases hroot : i = rootInode
    · exact ⟨[], by rw [hroot, descend]⟩
    · obtain ⟨d, name, he⟩ := ht.has_entry hi hroot
      obtain ⟨path, hpath⟩ := ih d (ht.entry_lt he) he.present_parent
      exact ⟨path ++ [name], descend_concat_iff.2 ⟨d, hpath, ht.child?_eq_some_iff.2 he⟩⟩

/-- No node is reached in two ways. -/
theorem Grown.path_unique (ht : t.Grown) {path path' : List String}
    (h : t.descend rootInode path = some i) (h' : t.descend rootInode path' = some i) :
    path = path' := by
  -- a path that is not empty ends with an entry, and no entry leads to the root
  have hlast : ∀ {q name j}, t.descend rootInode (q ++ [name]) = some j →
      ∃ d, t.descend rootInode q = some d ∧ t.Entry d name j := by
    intro q name j hq
    obtain ⟨d, hd, hc⟩ := descend_concat_iff.1 hq
    exact ⟨d, hd, entry_of_child? hc⟩
  have hroot : ∀ {d name}, ¬ t.Entry d name rootInode := by
    intro d name he
    exact absurd (ht.entry_lt he) (Nat.not_lt_zero _)
  induction i using Nat.strongRecOn generalizing path path' with
  | ind i ih =>
    -- both paths are taken apart at their last names, whose entry is the same one
    rcases List.eq_nil_or_concat' path with rfl | ⟨q, name, rfl⟩ <;>
      rcases List.eq_nil_or_concat' path' with rfl | ⟨q', name', rfl⟩
    · rfl
    · obtain rfl := Option.some.inj h
      obtain ⟨d, -, he⟩ := hlast h'
      exact absurd he hroot
    · obtain rfl := Option.some.inj h'
      obtain ⟨d, -, he⟩ := hlast h
      exact absurd he hroot
    · obtain ⟨d, hq, he⟩ := hlast h
      obtain ⟨d', hq', he'⟩ := hlast h'
      obtain ⟨rfl, rfl⟩ := ht.entry_unique he he'
      rw [ih d (ht.entry_lt he) hq hq']

/-- **A tree that grew node by node is a tree.** -/
theorem Grown.wellFormed (ht : t.Grown) : t.WellFormed where
  root := ht.root
  distinct := ht.distinct
  entry_name := ht.entry_name
  entry_present := ht.entry_present
  one_entry hi hroot := by
    obtain ⟨d, name, he⟩ := ht.has_entry hi hroot
    refine ⟨(d, name), he, ?_⟩
    rintro ⟨d', name'⟩ he'
    obtain ⟨rfl, rfl⟩ := ht.entry_unique he' he
    rfl
  one_path hi := by
    obtain ⟨path, hpath⟩ := ht.exists_path hi
    exact ⟨path, hpath, fun path' hpath' => ht.path_unique hpath' hpath⟩
  below_next hi := hi.lt_nextInode

/-! ### Changes -/

/-- A new tree holds nothing but its root. -/
theorem grown_empty (quota : UInt64) : (empty quota).Grown := by
  have hnode : ∀ i, (empty quota).node? i =
      if i = rootInode then some (.directory []) else none := by
    intro i
    cases i <;> rfl
  have hentry : ∀ {d name i}, ¬ (empty quota).Entry d name i := by
    rintro d name i ⟨children, hd, hmem⟩
    rw [hnode] at hd
    split_ifs at hd
    cases hd; cases hmem
  refine ⟨⟨[], rfl⟩, fun {d children} hd => ?_, fun he => absurd he hentry,
    fun he => absurd he hentry, fun he => absurd he hentry, fun he => absurd he hentry,
    fun {i} hi hroot => ?_⟩
  · rw [hnode] at hd
    split_ifs at hd
    cases hd; exact List.nodup_nil
  · obtain ⟨n, hn⟩ := hi
    rw [hnode, if_neg hroot] at hn
    cases hn

/-- A change that leaves every directory as it is and every node in its place keeps the form. -/
theorem Grown.of_same (ht : t.Grown)
    (hdir : ∀ j children,
      t'.node? j = some (.directory children) ↔ t.node? j = some (.directory children))
    (hpresent : ∀ j, t'.Present j ↔ t.Present j) : t'.Grown := by
  have hentry : ∀ {d name i}, t'.Entry d name i ↔ t.Entry d name i := by
    intro d name i
    simp only [Entry, hdir]
  refine ⟨?_, fun hd => ht.distinct ((hdir _ _).1 hd), fun he => ht.entry_name (hentry.1 he),
    fun he => (hpresent _).2 (ht.entry_present (hentry.1 he)), fun he => ht.entry_lt (hentry.1 he),
    fun he he' => ht.entry_unique (hentry.1 he) (hentry.1 he'), fun hi hroot => ?_⟩
  · obtain ⟨children, h⟩ := ht.root
    exact ⟨children, (hdir _ _).2 h⟩
  · obtain ⟨d, name, he⟩ := ht.has_entry ((hpresent _).1 hi) hroot
    exact ⟨d, name, hentry.2 he⟩

/-- Putting a file in the place of a file. -/
theorem Grown.replace (ht : t.Grown) (hi : t.node? i = some (.file data locked))
    (data' : Content) (locked' : Bool) : (t.setNode i (.file data' locked')).Grown := by
  refine ht.of_same (fun j children => ?_) (fun j => ?_)
  · rw [node?_setNode hi]
    split_ifs with hj
    · subst hj; simp [hi]
    · rfl
  · simp only [Present, node?_setNode hi]
    split_ifs with hj
    · subst hj; simp [hi]
    · rfl

/-- The entries after a new node was linked. -/
theorem entry_linked (hd : t.node? d = some (.directory children)) (kind : EntryKind) :
    (t.linked d children name (.ofKind kind)).Entry d' name' i ↔
      t.Entry d' name' i ∨ (d' = d ∧ name' = name ∧ i = t.nextInode) := by
  have hnext : ∀ children', ¬ (Node.ofKind kind = .directory children' ∧
      (name', i) ∈ children') := by
    rintro children' ⟨hk, hmem⟩
    cases kind <;> cases hk
    cases hmem
  simp only [Entry, node?_linked hd]
  by_cases hnew : d' = t.nextInode
  · have hne : d ≠ t.nextInode := Nat.ne_of_lt (Tree.lt_nextInode hd)
    subst hnew
    simp only [if_true, Option.some.injEq, node?_nextInode, Ne.symm hne, false_and, or_false]
    simp [hnext]
  · by_cases hparent : d' = d
    · subst hparent
      simp [hnew, hd, eq_comm]
    · simp [hnew, hparent]

/-- The nodes after a new one was linked. -/
theorem present_linked (hd : t.node? d = some (.directory children)) (n : Node) :
    (t.linked d children name n).Present i ↔ t.Present i ∨ i = t.nextInode := by
  simp only [Present, node?_linked hd]
  by_cases hnew : i = t.nextInode
  · simp [hnew]
  · by_cases hparent : i = d
    · subst hparent; simp [hnew, hd]
    · simp [hnew, hparent]

theorem Grown.link (ht : t.Grown) (hd : t.node? d = some (.directory children))
    (hl : children.lookup name = none) (hname : isEntryName name = true) (kind : EntryKind) :
    (t.linked d children name (.ofKind kind)).Grown where
  root := by
    obtain ⟨children', hroot⟩ := ht.root
    rw [node?_linked hd, if_neg (Nat.ne_of_lt (Tree.lt_nextInode hroot))]
    split_ifs
    · exact ⟨_, rfl⟩
    · exact ⟨_, hroot⟩
  distinct {d' children'} hd' := by
    rw [node?_linked hd] at hd'
    split_ifs at hd' with hnew hparent
    · cases kind <;> cases hd'
      exact List.nodup_nil
    · cases hd'
      exact nodup_keys_append_new (ht.distinct hd) _ hl
    · exact ht.distinct hd'
  entry_name he := by
    rcases (entry_linked hd kind).1 he with he | ⟨rfl, rfl, rfl⟩
    · exact ht.entry_name he
    · exact hname
  entry_present he := by
    rw [present_linked hd]
    rcases (entry_linked hd kind).1 he with he | ⟨rfl, rfl, rfl⟩
    · exact .inl (ht.entry_present he)
    · exact .inr rfl
  entry_lt he := by
    rcases (entry_linked hd kind).1 he with he | ⟨rfl, rfl, rfl⟩
    · exact ht.entry_lt he
    · exact Tree.lt_nextInode hd
  entry_unique he he' := by
    -- no old entry leads to the new node, whose number was not given out
    have hfresh : ∀ {d name}, ¬ t.Entry d name t.nextInode := by
      intro d name he
      exact absurd (ht.entry_present he).lt_nextInode (Nat.lt_irrefl _)
    rcases (entry_linked hd kind).1 he with old | ⟨rfl, rfl, rfl⟩ <;>
      rcases (entry_linked hd kind).1 he' with old' | ⟨rfl, rfl, hi⟩
    · exact ht.entry_unique old old'
    · exact absurd (hi ▸ old) hfresh
    · exact absurd old' hfresh
    · exact ⟨rfl, rfl⟩
  has_entry {i} hi hroot := by
    rcases (present_linked hd _).1 hi with hi | rfl
    · obtain ⟨d', name', he⟩ := ht.has_entry hi hroot
      exact ⟨d', name', (entry_linked hd kind).2 (.inl he)⟩
    · exact ⟨d, name, (entry_linked hd kind).2 (.inr ⟨rfl, rfl, rfl⟩)⟩

/-- A node that may be removed has no entries of its own. -/
theorem Removable.no_entry (hr : Removable (t.node? i)) : ¬ t.Entry i name j := by
  rintro ⟨children, hi, hmem⟩
  rw [hi] at hr
  cases hr
  cases hmem

/-- The entries after a child was unlinked. -/
theorem entry_unlinked (hd : t.node? d = some (.directory children))
    (hr : Removable (t.node? i)) :
    (t.unlinked d children name i).Entry d' name' j ↔
      t.Entry d' name' j ∧ ¬ (d' = d ∧ name' = name) := by
  simp only [Entry, node?_unlinked hd]
  by_cases hgone : d' = i
  · subst hgone
    have hno : ¬ t.Entry d' name' j := hr.no_entry
    simp only [Entry, not_exists, not_and] at hno
    simp only [if_true, reduceCtorEq, false_and, exists_false, false_iff]
    rintro ⟨⟨children', hi, hmem⟩, -⟩
    exact hno children' hi hmem
  · by_cases hparent : d' = d
    · subst hparent
      simp [hgone, hd]
    · simp [hgone, hparent]

/-- The nodes after a child was unlinked. -/
theorem present_unlinked (hd : t.node? d = some (.directory children)) :
    (t.unlinked d children name i).Present j ↔ t.Present j ∧ j ≠ i := by
  simp only [Present, node?_unlinked hd]
  by_cases hgone : j = i
  · simp [hgone]
  · by_cases hparent : j = d
    · subst hparent; simp [hgone, hd]
    · simp [hgone, hparent]

theorem Grown.unlink (ht : t.Grown) (hd : t.node? d = some (.directory children))
    (hl : children.lookup name = some i) (hr : Removable (t.node? i)) :
    (t.unlinked d children name i).Grown where
  root := by
    -- the root is no child, so it is not what goes
    have hlt : d < i := ht.entry_lt ⟨children, hd, mem_of_lookup hl⟩
    have hne : rootInode ≠ i := Nat.ne_of_lt (Nat.lt_of_le_of_lt (Nat.zero_le d) hlt)
    obtain ⟨children', hroot⟩ := ht.root
    rw [node?_unlinked hd, if_neg hne]
    split_ifs
    · exact ⟨_, rfl⟩
    · exact ⟨_, hroot⟩
  distinct {d' children'} hd' := by
    rw [node?_unlinked hd] at hd'
    split_ifs at hd' with hgone hparent
    · cases hd'
      exact nodup_keys_leaveOut (ht.distinct hd) name
    · exact ht.distinct hd'
  entry_name he := ht.entry_name ((entry_unlinked hd hr).1 he).1
  entry_present he := by
    obtain ⟨old, hne⟩ := (entry_unlinked hd hr).1 he
    refine (present_unlinked hd).2 ⟨ht.entry_present old, fun hi => ?_⟩
    -- the only entry of the node that goes is the one that is unlinked
    exact hne (ht.entry_unique (hi ▸ old) ⟨children, hd, mem_of_lookup hl⟩)
  entry_lt he := ht.entry_lt ((entry_unlinked hd hr).1 he).1
  entry_unique he he' :=
    ht.entry_unique ((entry_unlinked hd hr).1 he).1 ((entry_unlinked hd hr).1 he').1
  has_entry {j} hj hroot := by
    obtain ⟨hj, hne⟩ := (present_unlinked hd).1 hj
    obtain ⟨d', name', he⟩ := ht.has_entry hj hroot
    refine ⟨d', name', (entry_unlinked hd hr).2 ⟨he, ?_⟩⟩
    rintro ⟨rfl, rfl⟩
    obtain ⟨children', hd', hmem⟩ := he
    -- the entry that was unlinked leads to the node that went, and to no other
    obtain rfl : children = children' := by simpa [hd] using hd'
    have := (lookup_eq_some_iff_mem (ht.distinct hd)).2 hmem
    rw [hl] at this
    exact hne (Option.some.inj this).symm

/-- **Every change of a tree keeps it one.** -/
theorem Step.grown (h : Step t t') (ht : t.Grown) : t'.Grown := by
  cases h with
  | link kind hd hl hname => exact ht.link hd hl hname kind
  | unlink hd hl hr => exact ht.unlink hd hl hr
  | resize a hi _ => exact (ht.replace hi _ _).of_same (fun _ _ => Iff.rfl) fun _ => Iff.rfl
  | replace hi _ => exact ht.replace hi _ _

end Tree

end EngineHost

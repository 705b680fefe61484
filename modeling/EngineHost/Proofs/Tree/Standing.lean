import EngineHost.Proofs.Tree.Bytes
import EngineHost.Proofs.Tree.Naming
import Mathlib.Data.Set.Insert

/-!
# What stands in a tree

Whoever uses a tree sees chains of names and what stands under them: a directory, or a file with
its bytes and its lock.  `Tree.standing?` says this, and `Tree.AgreeOutside` that two trees differ
under some chains only.

* `Tree.Grown.agreeOutside_linked`, `Tree.Grown.agreeOutside_unlinked`,
  `Tree.Grown.agreeOutside_replaced` : the changes of a tree change what stands under one chain.

Numbers of nodes do not show this at once: a change is made at a number, and it is seen under every
chain that leads to it.  In a tree that grew node by node there is one such chain.
-/

namespace EngineHost

/-- What stands under a chain of names. -/
inductive Standing where
  | directory
  /-- A file with its bytes, held by somebody or not. -/
  | file (bytes : List UInt8) (held : Bool)
  deriving DecidableEq, Repr

/-- What is seen of a node. -/
def Node.standing : Node → Standing
  | .file data locked => .file data.toList locked
  | .directory _ => .directory

namespace Tree

/-- What stands under a chain of names from the root. -/
def standing? (t : Tree) (names : List String) : Option Standing :=
  (t.descend rootInode names).bind fun i => (t.node? i).map Node.standing

/-- There is a file under a chain of names. -/
def FileAt (t : Tree) (names : List String) : Prop :=
  ∃ bytes held, t.standing? names = some (.file bytes held)

/-- The bytes of the file under a chain of names; none where there is no file. -/
def contents (t : Tree) (names : List String) : List UInt8 :=
  match t.standing? names with
  | some (.file bytes _) => bytes
  | _ => []

/-- Every other chain leads to the same node in both trees, and the same stands under it. -/
def AgreeOutside (s : Set (List String)) (t t' : Tree) : Prop :=
  ∀ names, names ∉ s →
    t'.descend rootInode names = t.descend rootInode names ∧ t'.standing? names = t.standing? names

variable {t t' t'' : Tree} {d i j : Inode} {n : Node} {name : String}
  {names parents : List String} {children : List (String × Inode)} {data data' : Content}
  {locked locked' : Bool} {s s' : Set (List String)} {bytes : List UInt8} {held : Bool}

/-! ### Looking -/

theorem standing?_of_node (hi : t.descend rootInode names = some i) (hn : t.node? i = some n) :
    t.standing? names = some n.standing := by
  rw [standing?, hi, Option.bind_some, hn, Option.map_some]

theorem standing?_of_descend_none (h : t.descend rootInode names = none) :
    t.standing? names = none := by
  rw [standing?, h, Option.bind_none]

theorem standing?_directory_iff :
    t.standing? names = some .directory ↔
      ∃ d children, t.descend rootInode names = some d ∧
        t.node? d = some (.directory children) := by
  constructor
  · intro h
    obtain ⟨d, hd, hn⟩ := Option.bind_eq_some_iff.1 h
    obtain ⟨n, hn, hstanding⟩ := Option.map_eq_some_iff.1 hn
    cases n with
    | file => cases hstanding
    | directory children => exact ⟨d, children, hd, hn⟩
  · rintro ⟨d, children, hd, hn⟩
    exact standing?_of_node hd hn

theorem standing?_file_iff :
    t.standing? names = some (.file bytes held) ↔
      ∃ i data, t.descend rootInode names = some i ∧ t.node? i = some (.file data held) ∧
        data.toList = bytes := by
  constructor
  · intro h
    obtain ⟨i, hi, hn⟩ := Option.bind_eq_some_iff.1 h
    obtain ⟨n, hn, hstanding⟩ := Option.map_eq_some_iff.1 hn
    cases n with
    | file data locked =>
      cases hstanding
      exact ⟨i, data, hi, hn, rfl⟩
    | directory => cases hstanding
  · rintro ⟨i, data, hi, hn, rfl⟩
    exact standing?_of_node hi hn

theorem contents_of_file (h : t.standing? names = some (.file bytes held)) :
    t.contents names = bytes := by
  rw [contents, h]

theorem contents_of_none (h : t.standing? names = none) : t.contents names = [] := by
  rw [contents, h]

/-- A chain leads to a node that is there. -/
theorem Grown.present_of_descend (ht : t.Grown) (h : t.descend rootInode names = some i) :
    t.Present i := by
  rcases List.eq_nil_or_concat' names with rfl | ⟨parents, name, rfl⟩
  · cases h
    obtain ⟨children, hroot⟩ := ht.root
    exact ⟨_, hroot⟩
  · obtain ⟨d, -, hc⟩ := descend_concat_iff.1 h
    exact ht.entry_present (entry_of_child? hc)

/-- Nothing stands under a chain just when it leads nowhere. -/
theorem Grown.standing?_none_iff (ht : t.Grown) :
    t.standing? names = none ↔ t.descend rootInode names = none := by
  refine ⟨fun h => ?_, standing?_of_descend_none⟩
  cases hi : t.descend rootInode names with
  | none => rfl
  | some i =>
    obtain ⟨n, hn⟩ := ht.present_of_descend hi
    rw [standing?_of_node hi hn] at h
    cases h

/-- A directory is always at the root. -/
theorem Grown.standing?_root (ht : t.Grown) : t.standing? [] = some .directory := by
  obtain ⟨children, hroot⟩ := ht.root
  exact standing?_of_node rfl hroot

/-- The last name of a chain is looked up where the others lead. -/
theorem descend_concat (hd : t.descend rootInode parents = some d) (name : String) :
    t.descend rootInode (parents ++ [name]) = t.child? d name := by
  rw [descend_append, hd, Option.bind_some, descend]
  cases t.child? d name <;> rfl

/-- A name in a directory has no entry, or it leads to a node. -/
theorem Grown.last_cases (ht : t.Grown) (hd : t.descend rootInode parents = some d)
    (name : String) :
    (t.child? d name = none ∧ t.standing? (parents ++ [name]) = none) ∨
    ∃ i n, t.child? d name = some i ∧ t.node? i = some n ∧
      t.descend rootInode (parents ++ [name]) = some i ∧
      t.standing? (parents ++ [name]) = some n.standing := by
  have hchain := descend_concat hd name
  cases hc : t.child? d name with
  | none => exact .inl ⟨rfl, standing?_of_descend_none (hchain.trans hc)⟩
  | some i =>
    obtain ⟨n, hn⟩ := ht.entry_present (entry_of_child? hc)
    exact .inr ⟨i, n, rfl, hn, hchain.trans hc, standing?_of_node (hchain.trans hc) hn⟩

/-- What stands below something is an entry of a directory. -/
theorem entry_of_standing? {x : Standing} (h : t.standing? (parents ++ [name]) = some x) :
    ∃ d i, t.descend rootInode parents = some d ∧ t.Entry d name i := by
  obtain ⟨i, hi, -⟩ := Option.bind_eq_some_iff.1 h
  obtain ⟨d, hd, hc⟩ := descend_concat_iff.1 hi
  exact ⟨d, i, hd, entry_of_child? hc⟩

theorem standing?_parent {x : Standing} (h : t.standing? (parents ++ [name]) = some x) :
    t.standing? parents = some .directory := by
  obtain ⟨d, i, hd, children, hdir, -⟩ := entry_of_standing? h
  exact standing?_directory_iff.2 ⟨d, children, hd, hdir⟩

/-- Only permitted names have entries. -/
theorem Grown.isEntryName_of_standing? (ht : t.Grown) {x : Standing}
    (h : t.standing? (parents ++ [name]) = some x) : isEntryName name = true := by
  obtain ⟨d, i, -, hentry⟩ := entry_of_standing? h
  exact ht.entry_name hentry

/-! ### Agreement -/

namespace AgreeOutside

theorem refl (s : Set (List String)) (t : Tree) : AgreeOutside s t t := fun _ _ => ⟨rfl, rfl⟩

theorem trans (h : AgreeOutside s t t') (h' : AgreeOutside s t' t'') : AgreeOutside s t t'' :=
  fun names hnames =>
    ⟨(h' names hnames).1.trans (h names hnames).1, (h' names hnames).2.trans (h names hnames).2⟩

theorem mono (h : AgreeOutside s t t') (hs : s ⊆ s') : AgreeOutside s' t t' :=
  fun names hnames => h names fun hmem => hnames (hs hmem)

end AgreeOutside

/-- Trees whose chains lead to the same nodes outside a set, and whose nodes there look the same. -/
theorem agreeOutside_of
    (hdescend : ∀ names, names ∉ s → t'.descend rootInode names = t.descend rootInode names)
    (hnode : ∀ names i, names ∉ s → t.descend rootInode names = some i →
      (t'.node? i).map Node.standing = (t.node? i).map Node.standing) : AgreeOutside s t t' := by
  intro names hnames
  refine ⟨hdescend names hnames, ?_⟩
  rw [standing?, standing?, hdescend names hnames]
  cases hi : t.descend rootInode names with
  | none => rfl
  | some i => exact hnode names i hnames hi

/-! ### Changes -/

/-- A tree in which one name of one directory leads elsewhere, with nothing below it before and
after: of all chains only the one to this name leads elsewhere. -/
theorem Grown.descend_altered (ht : t.Grown) (hd : t.descend rootInode parents = some d)
    {x : Option Inode}
    (hchild : ∀ e last, t'.child? e last = if e = d ∧ last = name then x else t.child? e last)
    (hold : ∀ {i}, t.child? d name = some i → ∀ last, t.child? i last = none)
    (hnew : ∀ {i}, x = some i → ∀ last, t'.child? i last = none) (names : List String) :
    t'.descend rootInode names =
      if names = parents ++ [name] then x else t.descend rootInode names := by
  -- by the last name: what the names before it lead to is known
  induction names using List.reverseRecOn with
  | nil => simp [descend]
  | append_singleton front last ih =>
    by_cases hfront : front = parents ++ [name]
    · -- the chain goes on below what was altered, and there is nothing
      rw [if_pos hfront] at ih
      have hbefore : t.descend rootInode (front ++ [last]) = none := by
        rw [Option.eq_none_iff_forall_ne_some]
        intro j hj
        obtain ⟨i, hi, hlast⟩ := descend_concat_iff.1 hj
        rw [hfront, descend_concat hd] at hi
        rw [hold hi] at hlast
        cases hlast
      have hafter : t'.descend rootInode (front ++ [last]) = none := by
        rw [Option.eq_none_iff_forall_ne_some]
        intro j hj
        obtain ⟨i, hi, hlast⟩ := descend_concat_iff.1 hj
        rw [hnew (ih.symm.trans hi)] at hlast
        cases hlast
      have hne : front ++ [last] ≠ parents ++ [name] := by
        rw [hfront]
        simp
      rw [if_neg hne, hbefore, hafter]
    · rw [if_neg hfront] at ih
      cases he : t.descend rootInode front with
      | none =>
        have hne : front ++ [last] ≠ parents ++ [name] := by
          intro heq
          rw [(List.append_inj' heq rfl).1, hd] at he
          cases he
        rw [if_neg hne, descend_append, descend_append, ih, he]
        rfl
      | some e =>
        rw [descend_concat (ih.trans he), descend_concat he, hchild]
        -- the directory of the name is reached by one chain
        have hiff : (e = d ∧ last = name) ↔ front ++ [last] = parents ++ [name] := by
          rw [List.append_singleton_inj]
          refine and_congr_left fun _ => ⟨?_, ?_⟩
          · rintro rfl
            exact ht.path_unique he hd
          · rintro rfl
            exact Option.some.inj (he.symm.trans hd)
        simp only [hiff]

/-- The children after a new node was linked. -/
theorem child?_linked (hd : t.node? d = some (.directory children))
    (hl : children.lookup name = none) (kind : EntryKind) (e : Inode) (last : String) :
    (t.linked d children name (.ofKind kind)).child? e last =
      if e = d ∧ last = name then some t.nextInode else t.child? e last := by
  have hnode := node?_linked hd name (.ofKind kind) e
  have hne : d ≠ t.nextInode := Nat.ne_of_lt (lt_nextInode hd)
  by_cases hnew : e = t.nextInode
  · subst hnew
    rw [if_pos rfl] at hnode
    rw [if_neg fun h => hne h.1.symm, child?_of_missing (node?_nextInode t)]
    cases kind with
    | file => exact child?_of_file hnode last
    | directory => exact child?_of_directory hnode last
  · rw [if_neg hnew] at hnode
    by_cases hparent : e = d
    · subst hparent
      rw [if_pos rfl] at hnode
      rw [child?_of_directory hnode, child?_of_directory hd, List.lookup_append]
      by_cases hlast : last = name
      · subst hlast
        simp [hl]
      · rw [if_neg fun h => hlast h.2, lookup_cons_of_ne hlast]
        simp
    · rw [if_neg hparent] at hnode
      rw [if_neg fun h => hparent h.1, child?_congr hnode]

/-- Linking a node is seen under its own chain only. -/
theorem Grown.agreeOutside_linked (ht : t.Grown) (hd : t.descend rootInode parents = some d)
    (hdir : t.node? d = some (.directory children)) (hl : children.lookup name = none)
    (kind : EntryKind) :
    (t.linked d children name (.ofKind kind)).descend rootInode (parents ++ [name]) =
        some t.nextInode ∧
      AgreeOutside {parents ++ [name]} t (t.linked d children name (.ofKind kind)) := by
  have hnode := node?_linked hdir name (.ofKind kind)
  have hnew : ∀ last,
      (t.linked d children name (.ofKind kind)).child? t.nextInode last = none := by
    intro last
    have hne : d ≠ t.nextInode := Nat.ne_of_lt (lt_nextInode hdir)
    rw [child?_linked hdir hl, if_neg fun h => hne h.1.symm,
      child?_of_missing (node?_nextInode t)]
  have hdescend := ht.descend_altered hd (child?_linked hdir hl kind)
    (fun h => by rw [child?_of_directory hdir, hl] at h; cases h)
    (fun h => by cases h; exact hnew)
  refine ⟨by rw [hdescend, if_pos rfl], agreeOutside_of (fun names hnames => ?_) ?_⟩
  · rw [hdescend, if_neg (Set.mem_singleton_iff.not.1 hnames)]
  · intro names i _ hi
    have hold := Nat.ne_of_lt (ht.present_of_descend hi).lt_nextInode
    rw [hnode, if_neg hold]
    split_ifs with hparent
    · rw [hparent, hdir]
      rfl
    · rfl

/-- Unlinking a node is seen under its own chain only. -/
theorem Grown.agreeOutside_unlinked (ht : t.Grown) (hd : t.descend rootInode parents = some d)
    (hdir : t.node? d = some (.directory children)) (hl : children.lookup name = some i)
    (hr : Removable (t.node? i)) :
    (t.unlinked d children name i).standing? (parents ++ [name]) = none ∧
      AgreeOutside {parents ++ [name]} t (t.unlinked d children name i) := by
  have hi : t.child? d name = some i := by rw [child?_of_directory hdir, hl]
  have hnone : ∀ last, t.child? i last = none := by
    intro last
    rw [Option.eq_none_iff_forall_ne_some]
    exact fun j hj => hr.no_entry (entry_of_child? hj)
  have hchild : ∀ e last, (t.unlinked d children name i).child? e last =
      if e = d ∧ last = name then none else t.child? e last := by
    intro e last
    rw [child?_unlinked hdir]
    by_cases he : e = i
    · subst he
      rw [if_pos (.inl rfl), hnone, ite_self]
    · simp only [he, false_or]
  have hdescend := ht.descend_altered hd hchild
    (fun h => by rw [hi] at h; cases h; exact hnone) nofun
  refine ⟨standing?_of_descend_none (by rw [hdescend, if_pos rfl]),
    agreeOutside_of (fun names hnames => ?_) ?_⟩
  · rw [hdescend, if_neg (Set.mem_singleton_iff.not.1 hnames)]
  · intro names j hnames hj
    -- the node that went is reached by its own chain only
    have hne : j ≠ i := by
      rintro rfl
      exact hnames (ht.path_unique hj (by rw [descend_concat hd, hi]))
    rw [node?_unlinked hdir, if_neg hne]
    split_ifs with hparent
    · rw [hparent, hdir]
      rfl
    · rfl

/-- Putting a file in the place of a file is seen under its own chain only. -/
theorem Grown.agreeOutside_replaced (ht : t.Grown) (hd : t.descend rootInode names = some i)
    (hi : t.node? i = some (.file data locked))
    (hnode : ∀ j, t'.node? j = if j = i then some (.file data' locked') else t.node? j) :
    t'.standing? names = some (.file data'.toList locked') ∧ AgreeOutside {names} t t' := by
  have hdescend : ∀ chain, t'.descend rootInode chain = t.descend rootInode chain := by
    have hchild : t'.child? = t.child? := by
      funext e last
      exact child?_replaced hi hnode e last
    intro chain
    generalize rootInode = start
    induction chain generalizing start with
    | nil => rfl
    | cons name rest ih => simp only [descend, hchild, ih]
  have hnew : t'.node? i = some (.file data' locked') := by rw [hnode, if_pos rfl]
  refine ⟨standing?_of_node ((hdescend names).trans hd) hnew,
    agreeOutside_of (fun chain _ => hdescend chain) ?_⟩
  intro chain j hchain hj
  have hne : j ≠ i := by
    rintro rfl
    exact hchain (ht.path_unique hj hd)
  rw [hnode, if_neg hne]

end Tree

end EngineHost

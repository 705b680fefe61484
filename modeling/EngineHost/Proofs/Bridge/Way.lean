import EngineHost.Proofs.Bridge.Walk
import EngineHost.Proofs.Tree.Standing

/-!
# The way to a file

Opening a file walks down its parents and makes those that are missing.  The walk stops at the first
name that it cannot pass, one that is not permitted or that is a file's, and what it made before
stays.

* `Tree.Clear` : a chain that can be walked to its end, and `Tree.wayTo` : the part of a chain up to
  the first name that cannot be passed.
* `Tree.Grown.walk_made` : a walk gets to the end of a clear chain and of no other, and either way
  it makes the directories on the way and nothing else.
* `Tree.Grown.walk_looked` : a walk that makes nothing gets to the directories that are there.
-/

namespace EngineHost

namespace Storage

variable {σ : Type} {S : Storage σ} {create : Bool} {d d' : S.Directory} {name : String}
  {names : List String} {s s' : σ}

/-- A walk along two chains is a walk along the first and on along the second. -/
theorem walk_append (S : Storage σ) (create : Bool) (d : S.Directory) (names rest : List String) :
    S.walk create d (names ++ rest) =
      S.walk create d names >>= fun e => S.walk create e rest := by
  induction names generalizing d with
  | nil => rfl
  | cons name names ih => simp only [List.cons_append, walk, bind_assoc, ih]

theorem walk_concat_of_ok (h : S.walk create d names s = .ok d' s') :
    S.walk create d (names ++ [name]) s = S.directory d' name create s' := by
  simp only [walk_append, bind, EStateM.bind, h, walk]
  cases S.directory d' name create s' <;> rfl

theorem walk_concat_of_error {e : StorageError} (h : S.walk create d names s = .error e s') :
    S.walk create d (names ++ [name]) s = .error e s' := by
  simp only [walk_append, bind, EStateM.bind, h]

end Storage

namespace Tree

open EngineHost.Storage

/-- Every name of a chain is permitted and none of them is a file's. -/
def Clear (t : Tree) (names : List String) : Prop :=
  ∀ front name, front ++ [name] <+: names →
    isEntryName name = true ∧ ¬ t.FileAt (front ++ [name])

/-- The chains above a chain and itself, up to the first name that is not permitted or is a
file's. -/
def wayTo (t : Tree) (names : List String) : Set (List String) :=
  {chain | chain <+: names ∧ t.Clear chain}

/-- The directories on the way are there, and everything else is as it was: no bytes are used for
them. -/
structure Made (t t' : Tree) (names : List String) : Prop where
  made : ∀ chain ∈ t.wayTo names, t'.standing? chain = some .directory
  others : AgreeOutside (t.wayTo names) t t'
  used : t'.used = t.used
  keeps : KeepsChildren t t'
  grown : t'.Grown

variable {a : Allocator} {t t' t'' : Tree} {d i : Inode} {n : Node} {name : String}
  {names chain : List String} {create : Bool} {kind : EntryKind}
  {children : List (String × Inode)}

/-! ### Clear chains -/

theorem clear_nil (t : Tree) : t.Clear [] := by
  intro front name h
  exact absurd (List.prefix_nil.1 h) (by simp)

theorem clear_concat_iff :
    t.Clear (names ++ [name]) ↔
      t.Clear names ∧ isEntryName name = true ∧ ¬ t.FileAt (names ++ [name]) := by
  constructor
  · intro h
    exact ⟨fun front last habove => h front last (habove.trans (List.prefix_append _ _)),
      h names name List.prefix_rfl⟩
  · rintro ⟨hfront, hlast⟩ front last habove
    rcases List.prefix_concat_iff.1 habove with heq | habove
    · obtain ⟨rfl, rfl⟩ := List.append_singleton_inj.1 heq
      exact hlast
    · exact hfront front last habove

theorem mem_wayTo_concat_iff :
    chain ∈ t.wayTo (names ++ [name]) ↔
      chain ∈ t.wayTo names ∨ (chain = names ++ [name] ∧ t.Clear (names ++ [name])) := by
  simp only [wayTo, Set.mem_ofPred_eq, List.prefix_concat_iff]
  constructor
  · rintro ⟨rfl | habove, hclear⟩
    · exact .inr ⟨rfl, hclear⟩
    · exact .inl ⟨habove, hclear⟩
  · rintro (⟨habove, hclear⟩ | ⟨rfl, hclear⟩)
    · exact ⟨.inr habove, hclear⟩
    · exact ⟨.inl rfl, hclear⟩

theorem concat_notMem_wayTo (t : Tree) (names : List String) (name : String) :
    names ++ [name] ∉ t.wayTo names := by
  rintro ⟨habove, -⟩
  have hle := habove.length_le
  rw [List.length_append, List.length_singleton] at hle
  exact absurd hle (Nat.not_succ_le_self _)

/-! ### One name -/

/-- A name without an entry is linked if it may be. -/
theorem lookupOrCreate_of_missing (hd : t.node? d = some (.directory children))
    (hc : t.child? d name = none) (create : Bool) (kind : EntryKind) :
    t.lookupOrCreate d name create kind =
      if create then .ok (t.nextInode, t.linked d children name (.ofKind kind))
      else .error .notFound := by
  rw [child?_of_directory hd] at hc
  simp only [lookupOrCreate, children_ok_iff.2 hd, bind, Except.bind, hc, link_eq hd]
  rfl

/-- A name with an entry is found if it is of the right kind. -/
theorem lookupOrCreate_of_child (hc : t.child? d name = some i) (hn : t.node? i = some n)
    (create : Bool) (kind : EntryKind) :
    t.lookupOrCreate d name create kind =
      if n.kind = kind then .ok (i, t) else .error .typeMismatch := by
  obtain ⟨children, hd, -⟩ := entry_of_child? hc
  rw [child?_of_directory hd] at hc
  simp only [lookupOrCreate, children_ok_iff.2 hd, bind, Except.bind, hc, hn]
  rfl

/-! ### The walk -/

namespace Made

theorem nil (ht : t.Grown) : Made t t [] where
  made := by
    rintro chain ⟨habove, -⟩
    rw [List.prefix_nil.1 habove]
    exact ht.standing?_root
  others := .refl _ t
  used := rfl
  keeps := fun _ _ _ h => h
  grown := ht

/-- What a walk along the first names leaves has under the next one what was there before. -/
theorem standing?_concat (h : Made t t' names) (name : String) :
    t'.standing? (names ++ [name]) = t.standing? (names ++ [name]) :=
  (h.others _ (concat_notMem_wayTo t names name)).2

/-- A name that cannot be passed ends the way. -/
theorem blocked (h : Made t t' names) (hname : ¬ t.Clear (names ++ [name])) :
    Made t t' (names ++ [name]) := by
  have hway : t.wayTo (names ++ [name]) = t.wayTo names := by
    ext chain
    rw [mem_wayTo_concat_iff]
    exact or_iff_left fun hlast => hname hlast.2
  exact ⟨hway ▸ h.made, hway ▸ h.others, h.used, h.keeps, h.grown⟩

/-- A directory that was there or was made goes on with the way. -/
theorem passed (h : Made t t' names) (hname : t.Clear (names ++ [name]))
    (hmade : t''.standing? (names ++ [name]) = some .directory)
    (hothers : AgreeOutside {names ++ [name]} t' t'') (hused : t''.used = t'.used)
    (hkeeps : KeepsChildren t' t'') (hgrown : t''.Grown) : Made t t'' (names ++ [name]) where
  made chain hchain := by
    rcases mem_wayTo_concat_iff.1 hchain with hold | ⟨rfl, -⟩
    · have hne : chain ≠ names ++ [name] := by
        rintro rfl
        exact concat_notMem_wayTo t names name hold
      rw [(hothers chain hne).2]
      exact h.made chain hold
    · exact hmade
  others := by
    refine (h.others.mono fun chain hold => mem_wayTo_concat_iff.2 (.inl hold)).trans
      (hothers.mono ?_)
    rintro chain rfl
    exact mem_wayTo_concat_iff.2 (.inr ⟨rfl, hname⟩)
  used := hused.trans h.used
  keeps e last j hj := hkeeps e last j (h.keeps e last j hj)
  grown := hgrown

end Made

/-- The next name of a walk that has come to a directory. -/
theorem Made.step (a : Allocator) (h : Made t t' names)
    (hd : t'.descend rootInode names = some d)
    (hclear : t.Clear names) (name : String) :
    ∃ t'', Made t t'' (names ++ [name]) ∧
      ((t.Clear (names ++ [name]) ∧ ∃ i, (memory a).directory d name true t' = .ok i t'' ∧
          t''.descend rootInode (names ++ [name]) = some i) ∨
        (¬ t.Clear (names ++ [name]) ∧
          ∃ e, (memory a).directory d name true t' = .error e t'')) := by
  have hdirectory := h.made names ⟨List.prefix_rfl, hclear⟩
  obtain ⟨d', children, hd', hdir⟩ := standing?_directory_iff.1 hdirectory
  obtain rfl : d = d' := Option.some.inj (hd.symm.trans hd')
  by_cases hname : isEntryName name = true
  · obtain ⟨hc, hnone⟩ | ⟨i, n, hc, hn, hi, hstanding⟩ := h.grown.last_cases hd name
    · -- the directory is made
      rw [h.standing?_concat] at hnone
      have hpass : t.Clear (names ++ [name]) := by
        refine clear_concat_iff.2 ⟨hclear, hname, ?_⟩
        rintro ⟨bytes, held, hfile⟩
        rw [hnone] at hfile
        cases hfile
      have hl : children.lookup name = none := by rwa [child?_of_directory hdir] at hc
      obtain ⟨hnew, hothers⟩ := h.grown.agreeOutside_linked hd hdir hl .directory
      have hmade := standing?_of_node hnew (by rw [node?_linked hdir, if_pos rfl])
      have hcall := lookupOrCreate_of_missing hdir hc true .directory
      exact ⟨_, h.passed hpass hmade hothers rfl (keepsChildren_linked hdir name _)
        (h.grown.link hdir hl hname .directory),
        .inl ⟨hpass, _, memory_directory_ok_iff.2 ⟨hname, hcall⟩, hnew⟩⟩
    · have hcall := lookupOrCreate_of_child hc hn true .directory
      cases n with
      | file data locked =>
        have hblock : ¬ t.Clear (names ++ [name]) := by
          intro hpass
          refine (clear_concat_iff.1 hpass).2.2 ⟨data.toList, locked, ?_⟩
          rw [← h.standing?_concat]
          exact hstanding
        exact ⟨t', h.blocked hblock,
          .inr ⟨hblock, _, memory_directory_error_iff.2 ⟨.inr ⟨hname, hcall⟩, rfl⟩⟩⟩
      | directory cs =>
        have hpass : t.Clear (names ++ [name]) := by
          refine clear_concat_iff.2 ⟨hclear, hname, ?_⟩
          rintro ⟨bytes, held, hfile⟩
          rw [← h.standing?_concat, hstanding] at hfile
          cases hfile
        exact ⟨t', h.passed hpass hstanding (.refl _ _) rfl (fun _ _ _ hj => hj) h.grown,
          .inl ⟨hpass, i, memory_directory_ok_iff.2 ⟨hname, hcall⟩, hi⟩⟩
  · have hblock : ¬ t.Clear (names ++ [name]) := fun hpass => hname (clear_concat_iff.1 hpass).2.1
    have hrefused : isEntryName name = false := by simpa using hname
    exact ⟨t', h.blocked hblock,
      .inr ⟨hblock, _, memory_directory_error_iff.2 ⟨.inl ⟨hrefused, rfl⟩, rfl⟩⟩⟩

/-- **A walk gets to the end of a clear chain and of no other.**  Either way it makes the
directories up to the first name that it cannot pass, and changes nothing else. -/
theorem Grown.walk_made (ht : t.Grown) (a : Allocator) (names : List String) :
    ∃ t', Made t t' names ∧
      ((t.Clear names ∧ ∃ d, (memory a).walk true rootInode names t = .ok d t' ∧
          t'.descend rootInode names = some d) ∨
        (¬ t.Clear names ∧ ∃ e, (memory a).walk true rootInode names t = .error e t')) := by
  induction names using List.reverseRecOn with
  | nil => exact ⟨t, .nil ht, .inl ⟨clear_nil t, rootInode, rfl, rfl⟩⟩
  | append_singleton names name ih =>
    obtain ⟨t', hmade, ⟨hclear, d, hwalk, hd⟩ | ⟨hblock, e, hwalk⟩⟩ := ih
    · obtain ⟨t'', hmade', hstep⟩ := hmade.step a hd hclear name
      refine ⟨t'', hmade', ?_⟩
      rw [walk_concat_of_ok hwalk]
      exact hstep
    · have hblock' : ¬ t.Clear (names ++ [name]) := fun hpass => hblock (clear_concat_iff.1 hpass).1
      exact ⟨t', hmade.blocked hblock', .inr ⟨hblock', e, walk_concat_of_error hwalk⟩⟩

/-- A walk that makes nothing gets to a chain that a directory stands under, and to no other; it
changes nothing. -/
theorem Grown.walk_looked (ht : t.Grown) (a : Allocator) (names : List String) :
    (∃ d children, (memory a).walk false rootInode names t = .ok d t ∧
      t.descend rootInode names = some d ∧ t.node? d = some (.directory children)) ∨
    (t.standing? names ≠ some .directory ∧
      ∃ e, (memory a).walk false rootInode names t = .error e t) := by
  induction names using List.reverseRecOn with
  | nil =>
    obtain ⟨children, hroot⟩ := ht.root
    exact .inl ⟨rootInode, children, rfl, rfl, hroot⟩
  | append_singleton names name ih =>
    obtain ⟨d, children, hwalk, hd, hdir⟩ | ⟨hno, e, hwalk⟩ := ih
    · rw [walk_concat_of_ok hwalk]
      by_cases hname : isEntryName name = true
      · obtain ⟨hc, hnone⟩ | ⟨i, n, hc, hn, hi, hstanding⟩ := ht.last_cases hd name
        · have hcall := lookupOrCreate_of_missing hdir hc false .directory
          exact .inr ⟨by simp [hnone],
            _, memory_directory_error_iff.2 ⟨.inr ⟨hname, hcall⟩, rfl⟩⟩
        · have hcall := lookupOrCreate_of_child hc hn false .directory
          cases n with
          | file data locked =>
            exact .inr ⟨by simp [hstanding, Node.standing],
              _, memory_directory_error_iff.2 ⟨.inr ⟨hname, hcall⟩, rfl⟩⟩
          | directory cs =>
            exact .inl ⟨i, cs, memory_directory_ok_iff.2 ⟨hname, hcall⟩, hi, hn⟩
      · have hrefused : isEntryName name = false := by simpa using hname
        exact .inr ⟨fun h => hname (ht.isEntryName_of_standing? h),
          _, memory_directory_error_iff.2 ⟨.inl ⟨hrefused, rfl⟩, rfl⟩⟩
    · -- where the walk did not come to, there is nothing below
      exact .inr ⟨fun h => hno (standing?_parent h), e, walk_concat_of_error hwalk⟩

end Tree

end EngineHost

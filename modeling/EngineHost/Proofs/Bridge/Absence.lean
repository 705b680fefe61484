import EngineHost.Proofs.Bridge.Entry

/-!
# Absence under failing calls

Asking for a path and deleting its entry answer `0` when the entry is absent.  When a call fails for
a reason of its own, it tells nothing about the entry, and then the call decides what is answered.

* `Storage.Struck` : a saboteur lets a call of a walk fail.  Otherwise the walk goes as it would
  without him (`Storage.walk_of_spared`).
* `Bridge.absence_told` : absence is never answered for a file that is there, unless the walk to its
  parent was struck, and a call on the last name that was struck is answered as a failure.  A walk
  that was struck is taken for a parent that is missing.
-/

namespace EngineHost

variable {σ τ : Type}

/-- The errors of a saboteur tell nothing about entries: none of them says that one is missing, nor
that it is of another kind. -/
def Saboteur.TellsNothing (w : Saboteur τ) : Prop :=
  ∀ {kind m e}, w.Strikes kind m e → e ≠ .notFound ∧ e ≠ .typeMismatch

/-! ### Walks -/

namespace Storage

/-- A saboteur lets a call of a walk fail. -/
inductive Struck (S : Storage σ) (w : Saboteur τ) (create : Bool) :
    S.Directory → List String → σ → τ → Prop
  /-- The first call of the walk fails. -/
  | here {d : S.Directory} {name : String} {rest : List String} {s : σ} {m : τ}
      {e : StorageError} : w.Strikes .directory m e → Struck S w create d (name :: rest) s m
  /-- A call further down fails. -/
  | later {d d' : S.Directory} {name : String} {rest : List String} {s s' : σ} {m : τ} :
      S.directory d name create s = .ok d' s' →
      Struck S w create d' rest s' (w.decide .directory m).2 →
      Struck S w create d (name :: rest) s m

variable {S : Storage σ} {w : Saboteur τ} {create : Bool} {d : S.Directory}
  {names : List String} {s : σ} {m : τ}

theorem walk_cons_of_ok {d' : S.Directory} {name : String} {rest : List String} {s' : σ}
    (h : S.directory d name create s = .ok d' s') :
    S.walk create d (name :: rest) s = S.walk create d' rest s' := by
  simp only [walk, bind, EStateM.bind, h]

theorem walk_cons_of_error {name : String} {rest : List String} {e : StorageError} {s' : σ}
    (h : S.directory d name create s = .error e s') :
    S.walk create d (name :: rest) s = .error e s' := by
  simp only [walk, bind, EStateM.bind, h]

/-- The next directory of a walk that is struck there. -/
theorem directory_of_strikes {e : StorageError} (h : w.Strikes .directory m e) (create : Bool)
    (d : S.Directory) (name : String) (s : σ) :
    (S.sabotaged w).directory d name create (s, m) = .error e (s, (w.decide .directory m).2) :=
  sabotage_of_strikes h (fun _ => none) (S.directory d name create) s

/-- The next directory of a walk that is not struck there. -/
theorem directory_of_spared (h : ∀ e, ¬ w.Strikes .directory m e) (create : Bool)
    (d : S.Directory) (name : String) (s : σ) :
    (S.sabotaged w).directory d name create (s, m) =
      beside (S.directory d name create s) (w.decide .directory m).2 :=
  sabotage_of_spared h (S.directory d name create) s

/-- A walk that is struck fails. -/
theorem walk_of_struck (h : S.Struck w create d names s m) :
    ∃ e p, (S.sabotaged w).walk create d names (s, m) = .error e p := by
  induction h with
  | @here d name rest s m e hstrike =>
    exact ⟨_, _, walk_cons_of_error (directory_of_strikes hstrike create d name s)⟩
  | @later d d' name rest s s' m hok hrest ih =>
    by_cases hstrike : ∃ e, w.Strikes .directory m e
    · obtain ⟨e, he⟩ := hstrike
      exact ⟨_, _, walk_cons_of_error (directory_of_strikes he create d name s)⟩
    · have hcall := directory_of_spared (not_exists.1 hstrike) create d name s
      rw [hok] at hcall
      obtain ⟨e, p, hlater⟩ := ih
      exact ⟨e, p, (walk_cons_of_ok hcall).trans hlater⟩

/-- A walk that is not struck goes as it would without a saboteur. -/
theorem walk_of_spared (h : ¬ S.Struck w create d names s m) :
    ∃ m', (S.sabotaged w).walk create d names (s, m) = beside (S.walk create d names s) m' := by
  induction names generalizing d s m with
  | nil => exact ⟨m, rfl⟩
  | cons name rest ih =>
    have hcall := directory_of_spared (fun e he => h (.here he)) create d name s
    cases hd : S.directory d name create s with
    | error e s' =>
      rw [hd] at hcall
      rw [walk_cons_of_error hd]
      exact ⟨_, walk_cons_of_error hcall⟩
    | ok d' s' =>
      rw [hd] at hcall
      rw [walk_cons_of_ok hd]
      obtain ⟨m', hrest⟩ := ih fun hrest => h (.later hd hrest)
      exact ⟨m', (walk_cons_of_ok hcall).trans hrest⟩

end Storage

/-! ### Asking and deleting -/

namespace Bridge

open EngineHost.Storage EngineHost.Tree

variable {a : Allocator} {w : Saboteur τ} {b : Bridge ((memory a).sabotaged w)} {t : Tree}
  {m : τ} {path : String} {p : StoragePath}

/-- A call of the walk to the parent of a path is made to fail. -/
def ParentStruck (a : Allocator) (w : Saboteur τ) (t : Tree) (m : τ) (path : String) : Prop :=
  ∃ p, StoragePath.parse path = some p ∧ (memory a).Struck w false rootInode p.parents t m

/-- Looking for a directory leaves the tree as it is, struck or not. -/
theorem directory_looks (a : Allocator) (w : Saboteur τ) (d : Inode) (name : String) :
    Moves (Unchanged Prod.fst) (((memory a).sabotaged w).directory d name false) :=
  fun q => sabotage_keeps (R := Unchanged id) w .directory (fun _ => none)
    ((memory a).directory d name false) (memory_directory_looks a d name) q

/-- Looking for a file leaves the tree as it is, struck or not. -/
theorem file_looks (a : Allocator) (w : Saboteur τ) (d : Inode) (name : String) :
    Moves (Unchanged Prod.fst) (((memory a).sabotaged w).file d name false) :=
  fun q => sabotage_keeps (R := Unchanged id) w .file (fun _ => none)
    ((memory a).file d name false) (memory_file_looks a d name) q

/-- Asking for a path leaves the tree as it is, whatever fails. -/
theorem access_looks (b : Bridge ((memory a).sabotaged w)) (t : Tree) (m : τ) (path : String) :
    (access path (b, t, m)).2.2.1 = t := by
  rw [access, answer_snd]
  exact (tryAccess_moves (directory_looks a w) (file_looks a w) path (b, t, m)).2

/-- A walk to a parent leaves the tree as it is, struck or not. -/
theorem walk_looks {r : EStateM.Result StorageError (Tree × τ) Inode} {names : List String}
    (h : ((memory a).sabotaged w).walk false rootInode names (t, m) = r) :
    (stateAfter r).1 = t := by
  have hmoves := walk_moves (S := (memory a).sabotaged w) (directory_looks a w) rootInode names
    (t, m)
  rw [h] at hmoves
  exact hmoves

/-- Where there is a file, a walk that is not struck leads to its parent. -/
theorem walk_of_hasFile (ht : t.WellFormed) (hp : StoragePath.parse path = some p)
    (hs : ¬ ParentStruck a w t m path) (hfile : t.HasFile path) :
    ∃ d i m₁, ((memory a).sabotaged w).walk false rootInode p.parents (t, m) = .ok d (t, m₁) ∧
      t.child? d p.fileName = some i ∧ (memory a).file d p.fileName false t = .ok i t := by
  obtain ⟨i, data, locked, ⟨q, hq, hd⟩, hi⟩ := hfile
  obtain rfl : p = q := Option.some.inj (hp.symm.trans hq)
  obtain ⟨d, hc, -, hwalk, hleaf⟩ := ht.reach_file a hd hi
  obtain ⟨m₁, hspared⟩ := walk_of_spared fun h => hs ⟨p, hp, h⟩
  rw [hwalk] at hspared
  exact ⟨d, i, m₁, hspared, hc, hleaf false⟩

/-- A walk that is not struck ends where the names of the parents lead. -/
theorem descend_of_spared (hp : StoragePath.parse path = some p)
    (hs : ¬ ParentStruck a w t m path) {d : Inode} {q : Tree × τ}
    (hwalk : ((memory a).sabotaged w).walk false rootInode p.parents (t, m) = .ok d q) :
    q.1.descend rootInode p.parents = some d := by
  obtain ⟨m₁, hspared⟩ := walk_of_spared fun h => hs ⟨p, hp, h⟩
  obtain ⟨t', ht', rfl⟩ := beside_ok_iff.1 (hspared.symm.trans hwalk)
  exact (walk_leads ht').2

/-- A walk that is struck is answered as if the parent were missing. -/
theorem access_of_struck (hb : b.root = some rootInode) (hs : ParentStruck a w t m path) :
    (access path (b, t, m)).1 = Status.absent := by
  obtain ⟨p, hp, hstruck⟩ := hs
  obtain ⟨e, q, hwalk⟩ := walk_of_struck hstruck
  simp only [access_of_parse hb hp, hwalk]

/-- A walk that is struck is answered as if the parent were missing, and nothing is deleted. -/
theorem delete_of_struck (hb : b.root = some rootInode) (hs : ParentStruck a w t m path) :
    (delete path (b, t, m)).1 = Status.ok ∧ (delete path (b, t, m)).2.2.1 = t := by
  obtain ⟨p, hp, hstruck⟩ := hs
  obtain ⟨e, q, hwalk⟩ := walk_of_struck hstruck
  simp only [delete_of_parse hb hp, hwalk]
  exact ⟨trivial, walk_looks hwalk⟩

/-- A call on the last name that is struck is answered as a failure. -/
theorem access_of_leaf_struck (hw : w.TellsNothing) (hb : b.root = some rootInode)
    (hp : StoragePath.parse path = some p) {d : Inode} {q : Tree × τ}
    (hwalk : ((memory a).sabotaged w).walk false rootInode p.parents (t, m) = .ok d q)
    {e : StorageError} (he : w.Strikes .file q.2 e) :
    (access path (b, t, m)).1 = Status.error := by
  have hcall : ((memory a).sabotaged w).file d p.fileName false q = .error e _ :=
    sabotage_of_strikes he (fun _ => none) ((memory a).file d p.fileName false) q.1
  simp only [access_of_parse hb hp, hwalk, hcall, if_neg (hw he).1]

/-- A call on the last name that is struck is answered as a failure, and nothing is deleted. -/
theorem delete_of_leaf_struck (hw : w.TellsNothing) (hb : b.root = some rootInode)
    (hp : StoragePath.parse path = some p) {d : Inode} {q : Tree × τ}
    (hwalk : ((memory a).sabotaged w).walk false rootInode p.parents (t, m) = .ok d q)
    {e : StorageError} (he : w.Strikes .remove q.2 e) :
    (delete path (b, t, m)).1 = Status.ioError := by
  have hcall : ((memory a).sabotaged w).remove d p.fileName q = .error e _ :=
    sabotage_of_strikes he (fun _ => none) ((memory a).remove d p.fileName) q.1
  simp only [delete_of_parse hb hp, hwalk, hcall, if_neg (hw he).1]

/-- A file that is there is not answered to be absent, unless the walk to its parent was struck. -/
theorem not_hasFile_of_access (hw : w.TellsNothing) (hb : b.root = some rootInode)
    (ht : t.WellFormed) (hs : ¬ ParentStruck a w t m path)
    (h : (access path (b, t, m)).1 = Status.absent) : ¬ t.HasFile path := by
  intro hfile
  obtain ⟨-, -, -, ⟨p, hp, -⟩, -⟩ := id hfile
  obtain ⟨d, i, m₁, hwalk, -, hleaf⟩ := walk_of_hasFile ht hp hs hfile
  by_cases hstrike : ∃ e, w.Strikes .file m₁ e
  · obtain ⟨e, he⟩ := hstrike
    rw [access_of_leaf_struck hw hb hp hwalk he] at h
    cases h
  · have hcall : ((memory a).sabotaged w).file d p.fileName false (t, m₁) = beside _ _ :=
      sabotage_of_spared (not_exists.1 hstrike) ((memory a).file d p.fileName false) t
    rw [hleaf] at hcall
    simp only [access_of_parse hb hp, hwalk, hcall, beside] at h
    cases h

/-- A removal that fails, struck or not, leaves the tree as it is. -/
theorem remove_failed {d : Inode} {name : String} {e : StorageError} {q q' : Tree × τ}
    (h : ((memory a).sabotaged w).remove d name q = .error e q') : q'.1 = q.1 := by
  change sabotage w .remove (fun _ => none) ((memory a).remove d name) (q.1, q.2) = _ at h
  by_cases hstrike : ∃ e, w.Strikes .remove q.2 e
  · obtain ⟨e', he⟩ := hstrike
    rw [sabotage_of_strikes he] at h
    cases h
    rfl
  · rw [sabotage_of_spared (not_exists.1 hstrike)] at h
    obtain ⟨t', hremove, rfl⟩ := beside_error_iff.1 h
    exact memory_failsClean a .remove hremove

/-- A path whose deletion fails leaves the tree as it is, whatever failed. -/
theorem delete_failed (hb : b.root = some rootInode) (h : (delete path (b, t, m)).1 < 0) :
    (delete path (b, t, m)).2.2.1 = t := by
  cases hp : StoragePath.parse path with
  | none => rw [delete_of_no_parse hb hp]
  | some p =>
    rw [delete_of_parse hb hp] at h ⊢
    cases hwalk : ((memory a).sabotaged w).walk false rootInode p.parents (t, m) with
    | error e q =>
      simp only [hwalk] at h
      exact absurd h (by decide)
    | ok d q =>
      have hq : q.1 = t := walk_looks hwalk
      cases hremove : ((memory a).sabotaged w).remove d p.fileName q with
      | ok u q' =>
        simp only [hwalk, hremove] at h
        exact absurd h (by decide)
      | error e q' =>
        simp only [hremove]
        exact (remove_failed hremove).trans hq

/-- After a deletion that was not answered as a failure there is no file, unless the walk to its
parent was struck. -/
theorem not_hasFile_of_delete (hw : w.TellsNothing) (hb : b.root = some rootInode)
    (ht : t.WellFormed) (hs : ¬ ParentStruck a w t m path)
    (h : (delete path (b, t, m)).1 = Status.ok) :
    ¬ (delete path (b, t, m)).2.2.1.HasFile path := by
  intro hfile
  obtain ⟨-, -, -, ⟨p, hp, -⟩, -⟩ := id hfile
  cases hwalk : ((memory a).sabotaged w).walk false rootInode p.parents (t, m) with
  | error e q =>
    -- nothing was deleted, so the file was there before and the walk would have found its parent
    rw [delete_of_parse hb hp] at hfile
    simp only [hwalk] at hfile
    obtain rfl : q.1 = t := walk_looks hwalk
    obtain ⟨d, i, m₁, hok, -⟩ := walk_of_hasFile ht hp hs hfile
    rw [hwalk] at hok
    cases hok
  | ok d q =>
    obtain ⟨t', m₁⟩ := q
    obtain rfl : t' = t := walk_looks hwalk
    by_cases hstrike : ∃ e, w.Strikes .remove m₁ e
    · obtain ⟨e, he⟩ := hstrike
      rw [delete_of_leaf_struck hw hb hp hwalk he] at h
      cases h
    · have hcall : ((memory a).sabotaged w).remove d p.fileName (t', m₁) = beside _ _ :=
        sabotage_of_spared (not_exists.1 hstrike) ((memory a).remove d p.fileName) t'
      rw [delete_of_parse hb hp] at h hfile
      cases hremove : (memory a).remove d p.fileName t' with
      | ok u t₂ =>
        rw [hremove] at hcall
        simp only [hwalk, hcall, beside] at hfile
        obtain ⟨i, -, -, hnames, -⟩ := hfile
        have hd := descend_of_spared hp hs hwalk
        exact not_names_of_unlink hp hd (memory_remove_ok_iff.1 hremove).2 hnames
      | error e t₂ =>
        obtain rfl := memory_failsClean a .remove hremove
        rw [hremove] at hcall
        simp only [hwalk, hcall, beside] at h hfile
        split_ifs at h with he
        · -- the name was not found, so there was no file under it
          obtain ⟨d', i, m', hwalk', hc, -⟩ := walk_of_hasFile ht hp hs hfile
          rw [hwalk] at hwalk'
          cases hwalk'
          obtain ⟨⟨-, hname⟩ | ⟨-, hunlink⟩, -⟩ := memory_remove_error_iff.1 hremove
          · rw [he] at hname
            cases hname
          · rw [he] at hunlink
            rw [child?_of_unlink_notFound hunlink] at hc
            cases hc
        · cases h

/-- **Absence and failing calls.**  Asking never changes the tree, and a deletion that fails leaves
it as it is.  As long as no call of the walk to the parent is struck, `0` is answered only where
there is no file, before asking and after deleting; and a call on the last name that is struck is
answered as a failure.  But an operation whose walk is struck answers `0` without having looked. -/
theorem absence_told (a : Allocator) (w : Saboteur τ) (hw : w.TellsNothing)
    (b : Bridge ((memory a).sabotaged w)) (hb : b.root = some rootInode) (t : Tree)
    (ht : t.WellFormed) (m : τ) (path : String) :
    let asked := access path (b, t, m)
    let deleted := delete path (b, t, m)
    asked.2.2.1 = t ∧ (deleted.1 < 0 → deleted.2.2.1 = t) ∧
    (¬ ParentStruck a w t m path →
      (asked.1 = 0 → ¬ t.HasFile path) ∧ (deleted.1 = 0 → ¬ deleted.2.2.1.HasFile path)) ∧
    (∀ p d q, StoragePath.parse path = some p →
      ((memory a).sabotaged w).walk false rootInode p.parents (t, m) = .ok d q →
      (∀ e, w.Strikes .file q.2 e → asked.1 = -1) ∧
      ∀ e, w.Strikes .remove q.2 e → deleted.1 = -10) ∧
    (ParentStruck a w t m path → asked.1 = 0 ∧ deleted.1 = 0 ∧ deleted.2.2.1 = t) := by
  intro asked deleted
  refine ⟨access_looks b t m path, delete_failed hb, fun hs => ⟨?_, ?_⟩,
    fun p d q hp hwalk => ⟨fun e he => ?_, fun e he => ?_⟩, fun hs => ⟨?_, ?_⟩⟩
  · exact not_hasFile_of_access hw hb ht hs
  · exact not_hasFile_of_delete hw hb ht hs
  · exact access_of_leaf_struck hw hb hp hwalk he
  · exact delete_of_leaf_struck hw hb hp hwalk he
  · exact access_of_struck hb hs
  · exact delete_of_struck hb hs

/-- A tree with one file in a directory. -/
def oneFile : Tree :=
  ⟨[some (.directory [("d", 1)]), some (.directory [("f", 2)]), some (.file .empty false)], 0, 0⟩

/-- The tree with one file is what opening its path leads to. -/
theorem wellFormed_oneFile : oneFile.WellFormed := by
  let f : Fleet (memory .addressSpace) := (Fleet.start (Tree.empty 0)).run
    [.create 0, .act 0 .probe, .act 0 (.openFile "d/f" 1), .act 0 (.closeFile 1)]
  have hstore : f.store = oneFile := by decide +kernel
  have hready : f.Ready := Fleet.ready_run _ _ _
  exact hstore ▸ hready.grown.wellFormed

/-- A saboteur that lets every removal fail. -/
def keeper : Saboteur Unit where
  decide kind m := (if kind = .remove then some (.error .lock) else none, m)

theorem keeper_tellsNothing : keeper.TellsNothing := by
  intro kind m e he
  have hlock : e = .lock := by
    simp only [Saboteur.Strikes, keeper] at he
    split_ifs at he
    exact (Mishap.error.inj (Option.some.inj he)).symm
  rw [hlock]
  decide

/-- Where removals fail, a deletion is answered as a failure and the file is still there. -/
theorem absence_told_keeper :
    let b : Bridge ((memory .addressSpace).sabotaged keeper) := ⟨some rootInode, true, [], 1⟩
    keeper.TellsNothing ∧ b.root = some rootInode ∧ oneFile.WellFormed ∧
      (delete "d/f" (b, oneFile, ())).1 = -10 ∧
      (delete "d/f" (b, oneFile, ())).2.2.1 = oneFile := by
  intro b
  have hw : keeper.TellsNothing := keeper_tellsNothing
  have ht := wellFormed_oneFile
  have htold := absence_told .addressSpace keeper hw b rfl oneFile ht () "d/f"
  have hp : StoragePath.parse "d/f" = some ⟨"d/f", ["d"], "f"⟩ := by decide +kernel
  have hwalk : ((memory .addressSpace).sabotaged keeper).walk false rootInode ["d"]
      (oneFile, ()) = .ok (1 : Inode) (oneFile, ()) := by rfl
  have hfail := (htold.2.2.2.1 _ _ _ hp hwalk).2 .lock rfl
  exact ⟨hw, rfl, ht, hfail, htold.2.1 (by rw [hfail]; decide)⟩

/-- A walk that is struck once makes a file that is there look absent, and deleting it is answered
with success although it stays. -/
theorem absence_misreported :
    let b : Bridge ((memory .addressSpace).sabotaged .armed) := ⟨some rootInode, true, [], 1⟩
    let arms : List (CallKind × Mishap) := [(.directory, .error (.io ⟨.other, "x"⟩))]
    oneFile.HasFile "d/f" ∧ (access "d/f" (b, oneFile, arms)).1 = 0 ∧
      (delete "d/f" (b, oneFile, arms)).1 = 0 ∧
      (delete "d/f" (b, oneFile, arms)).2.2.1.HasFile "d/f" := by
  intro b arms
  have hfile : oneFile.HasFile "d/f" :=
    ⟨2, .empty, false, ⟨⟨"d/f", ["d"], "f"⟩, by decide +kernel, by decide +kernel⟩, rfl⟩
  have hkept : (delete "d/f" (b, oneFile, arms)).2.2.1 = oneFile := by decide +kernel
  exact ⟨hfile, by decide +kernel, by decide +kernel, hkept ▸ hfile⟩

end Bridge

end EngineHost

import EngineHost.Proofs.Bridge.Naming
import EngineHost.Proofs.Bridge.Way
import EngineHost.Proofs.Text.Segments

/-!
# Asking for a file and deleting it

Asking for a path and deleting its entry walk to the parent in the same way and then each make one
call on the last name, with a table of errors of its own.

* `Tree.Absent` : a path under which there is nothing, and `Tree.Kept` : a path whose entry may not
  be deleted.
* `Bridge.access_ends`, `Bridge.delete_ends` : how the two end for one bridge over a tree, and what
  a deletion leaves of it.
* `Fleet.run_removal` : the same in every reachable state, and that the two agree.
-/

namespace EngineHost

open Bridge
open EngineHost.Storage EngineHost.Tree
open Storage (Holding)

variable {a : Allocator} {t t' : Tree} {d i : Inode} {n : Node} {names parents : List String}
  {leaf : String}

namespace Tree

/-- The parent of a path is no directory, or its last name is permitted and nothing stands under
it. -/
def Absent (t : Tree) (parents : List String) (leaf : String) : Prop :=
  t.standing? parents ≠ some .directory ∨
    (isEntryName leaf = true ∧ t.standing? (parents ++ [leaf]) = none)

/-- The parent of a path is a directory, and its last name is not permitted, a file's that somebody
holds, or the name of a directory that is not empty. -/
def Kept (t : Tree) (parents : List String) (leaf : String) : Prop :=
  t.standing? parents = some .directory ∧
    (isEntryName leaf = false ∨
      (∃ bytes, t.standing? (parents ++ [leaf]) = some (.file bytes true)) ∨
      (t.standing? (parents ++ [leaf]) = some .directory ∧
        ∃ name, t.standing? (parents ++ [leaf] ++ [name]) ≠ none))

theorem Absent.standing? (h : t.Absent parents leaf) : t.standing? (parents ++ [leaf]) = none := by
  rcases h with hparent | ⟨-, hnone⟩
  · rw [Option.eq_none_iff_forall_ne_some]
    exact fun x hx => hparent (standing?_parent hx)
  · exact hnone

theorem Absent.not_fileAt (h : t.Absent parents leaf) : ¬ t.FileAt (parents ++ [leaf]) := by
  rintro ⟨bytes, held, hfile⟩
  rw [h.standing?] at hfile
  cases hfile

theorem Absent.not_kept (h : t.Absent parents leaf) : ¬ t.Kept parents leaf := by
  rintro ⟨hdirectory, hrefused | ⟨bytes, hfile⟩ | ⟨hchild, -⟩⟩
  · obtain hparent | ⟨hname, -⟩ := h
    · exact hparent hdirectory
    · rw [hrefused] at hname
      cases hname
  · rw [h.standing?] at hfile
    cases hfile
  · rw [h.standing?] at hchild
    cases hchild

/-- A directory is empty just when nothing stands below it. -/
theorem Grown.exists_below_iff (ht : t.Grown) {children : List (String × Inode)}
    (hi : t.descend rootInode names = some i) (hdir : t.node? i = some (.directory children)) :
    (∃ name, t.standing? (names ++ [name]) ≠ none) ↔ children ≠ [] := by
  constructor
  · rintro ⟨name, hname⟩ rfl
    obtain ⟨x, hx⟩ := Option.ne_none_iff_exists'.1 hname
    obtain ⟨d, j, hd, children, hentries, hmem⟩ := entry_of_standing? hx
    obtain rfl : i = d := Option.some.inj (hi.symm.trans hd)
    obtain rfl : [] = children := by simpa [hdir] using hentries
    cases hmem
  · intro hne
    obtain ⟨⟨name, j⟩, hmem⟩ := List.exists_mem_of_ne_nil children hne
    have hentry : t.Entry i name j := ⟨children, hdir, hmem⟩
    obtain ⟨m, hm⟩ := ht.entry_present hentry
    have hj := (descend_concat hi name).trans (ht.child?_eq_some_iff.2 hentry)
    exact ⟨name, by simp [standing?_of_node hj hm]⟩

/-- A name without an entry is not found to be unlinked. -/
theorem unlink_of_missing {children : List (String × Inode)}
    (hd : t.node? d = some (.directory children)) (hc : t.child? d leaf = none) :
    t.unlink d leaf = .error .notFound := by
  rw [child?_of_directory hd] at hc
  simp only [unlink, children_ok_iff.2 hd, bind, Except.bind, hc]
  rfl

/-- An entry is kept just when its node may not be removed. -/
theorem Grown.kept_iff (ht : t.Grown) (hd : t.descend rootInode parents = some d)
    (hname : isEntryName leaf = true) (hc : t.child? d leaf = some i) :
    t.Kept parents leaf ↔ ¬ Removable (t.node? i) := by
  have hi := (descend_concat hd leaf).trans hc
  obtain ⟨n, hn⟩ := ht.present_of_descend hi
  have hstanding := standing?_of_node hi hn
  have hparent := standing?_parent hstanding
  rw [hn]
  cases n with
  | file data locked =>
    cases locked with
    | false =>
      refine iff_of_false ?_ (not_not_intro (.file data))
      simp [Kept, hname, hstanding, Node.standing]
    | true =>
      refine iff_of_true ⟨hparent, .inr (.inl ⟨_, hstanding⟩)⟩ ?_
      intro h
      cases h
  | directory children =>
    have hbelow := ht.exists_below_iff hi hn
    cases children with
    | nil =>
      refine iff_of_false ?_ (not_not_intro .directory)
      simpa [Kept, hname, hstanding, Node.standing] using fun _ => hbelow
    | cons c children =>
      refine iff_of_true
        ⟨hparent, .inr (.inr ⟨hstanding, hbelow.2 (List.cons_ne_nil c children)⟩)⟩ ?_
      intro h
      cases h

/-- A node that may not be removed is found, and it is not unlinked. -/
theorem Grown.unlink_of_not_removable (ht : t.Grown) (hc : t.child? d leaf = some i)
    (hr : ¬ Removable (t.node? i)) : ∃ e, e ≠ .notFound ∧ t.unlink d leaf = .error e := by
  obtain ⟨children, hd, -⟩ := entry_of_child? hc
  obtain ⟨n, hn⟩ := ht.entry_present (entry_of_child? hc)
  rw [hn] at hr
  rw [child?_of_directory hd] at hc
  cases n with
  | file data locked =>
    cases locked with
    | false => exact absurd (.file data) hr
    | true => exact ⟨.noModificationAllowed, nofun, unlink_of_locked hd hc hn⟩
  | directory cs =>
    cases cs with
    | nil => exact absurd .directory hr
    | cons c cs =>
      refine ⟨.invalidModification, nofun, ?_⟩
      simp only [Tree.unlink, children_ok_iff.2 hd, bind, Except.bind, hc, hn]
      rfl

/-- A node that may be removed is unlinked; its bytes are given back and nothing else changes. -/
theorem Grown.unlink_of_removable (ht : t.Grown) (hd : t.descend rootInode parents = some d)
    (hc : t.child? d leaf = some i) (hr : Removable (t.node? i)) :
    ∃ t', t.unlink d leaf = .ok t' ∧ t'.standing? (parents ++ [leaf]) = none ∧
      AgreeOutside {parents ++ [leaf]} t t' ∧
      t'.used = t.used - (t.contents (parents ++ [leaf])).length := by
  obtain ⟨children, hdir, -⟩ := entry_of_child? hc
  have hl : children.lookup leaf = some i := by rwa [child?_of_directory hdir] at hc
  obtain ⟨hnone, hothers⟩ := ht.agreeOutside_unlinked hd hdir hl hr
  refine ⟨_, unlink_ok_iff.2 ⟨children, hdir, i, hl, hr, rfl⟩, hnone, hothers, ?_⟩
  have hi := (descend_concat hd leaf).trans hc
  have hlength : t.lengthAt i = (t.contents (parents ++ [leaf])).length := by
    obtain ⟨n, hn⟩ := ht.present_of_descend hi
    rw [lengthAt_of_node? hn, contents, standing?_of_node hi hn]
    cases n with
    | file data locked => exact (Content.length_toList data).symm
    | directory cs => rfl
  rw [← hlength]
  rfl

/-- A file does not have more bytes than are used. -/
theorem Accounted.contents_le {quota : UInt64} (h : t.Accounted quota) (names : List String) :
    (t.contents names).length ≤ t.used := by
  unfold contents
  split
  · rename_i hfile
    obtain ⟨i, data, -, hi, rfl⟩ := standing?_file_iff.1 hfile
    have hle := h.lengthAt_le i
    rwa [lengthAt_of_node? hi, Node.length, ← Content.length_toList] at hle
  · exact Nat.zero_le _

end Tree

/-! ### One bridge -/

namespace Bridge

variable {b : Bridge (memory a)} {path : String} {p : StoragePath}

/-- How asking for a path ends. -/
inductive AccessEnd (t : Tree) (p : StoragePath) : Int → Prop
  /-- There is nothing. -/
  | absent : t.Absent p.parents p.fileName → AccessEnd t p 0
  /-- There is a file. -/
  | present : t.FileAt (p.parents ++ [p.fileName]) → AccessEnd t p 1
  /-- There is a directory, or the name is not permitted. -/
  | other : ¬ t.Absent p.parents p.fileName → ¬ t.FileAt (p.parents ++ [p.fileName]) →
      AccessEnd t p (-1)

/-- How deleting the entry of a path ends, and what is left of the tree. -/
inductive DeleteEnd (t : Tree) (p : StoragePath) : Int → Tree → Prop
  /-- There was nothing. -/
  | absent : t.Absent p.parents p.fileName → DeleteEnd t p 0 t
  /-- The entry may not be deleted. -/
  | kept : t.Kept p.parents p.fileName → DeleteEnd t p (-10) t
  /-- The entry is gone. -/
  | removed {t' : Tree} : ¬ t.Absent p.parents p.fileName → ¬ t.Kept p.parents p.fileName →
      t'.Absent p.parents p.fileName → AgreeOutside {p.parents ++ [p.fileName]} t t' →
      t'.used = t.used - (t.contents (p.parents ++ [p.fileName])).length → DeleteEnd t p 0 t'

/-- **How asking for a path ends.**  The tree is left as it is. -/
theorem access_ends (hroot : b.root = some rootInode) (ht : t.Grown)
    (hp : StoragePath.parse path = some p) :
    ∃ n, access path (b, t) = (n, b, t) ∧ AccessEnd t p n := by
  rw [access_of_parse hroot hp]
  obtain ⟨d, children, hwalk, hd, hdir⟩ | ⟨hno, e, hwalk⟩ := ht.walk_looked a p.parents
  · have hparent : t.standing? p.parents = some .directory :=
      standing?_directory_iff.2 ⟨d, children, hd, hdir⟩
    simp only [hwalk]
    by_cases hname : isEntryName p.fileName = true
    · obtain ⟨hc, hnone⟩ | ⟨i, n, hc, hn, hi, hstanding⟩ := ht.last_cases hd p.fileName
      · have hcall := lookupOrCreate_of_missing hdir hc false .file
        have hfile := memory_file_error_iff (a := a).2 ⟨.inr ⟨hname, hcall⟩, rfl⟩
        rw [hfile]
        exact ⟨_, rfl, .absent (.inr ⟨hname, hnone⟩)⟩
      · have hcall := lookupOrCreate_of_child hc hn false .file
        cases n with
        | file data locked =>
          have hfile := memory_file_ok_iff (a := a).2 ⟨hname, hcall⟩
          rw [hfile]
          exact ⟨_, rfl, .present ⟨_, _, hstanding⟩⟩
        | directory cs =>
          have hfile := memory_file_error_iff (a := a).2 ⟨.inr ⟨hname, hcall⟩, rfl⟩
          rw [hfile]
          refine ⟨_, rfl, .other (fun h => ?_) ?_⟩
          · rw [h.standing?] at hstanding
            cases hstanding
          · rintro ⟨bytes, held, h⟩
            rw [hstanding] at h
            cases h
    · have hrefused : isEntryName p.fileName = false := by simpa using hname
      have hfile : (memory a).file d p.fileName false t = .error (.invalidName p.fileName) t :=
        memory_file_error_iff.2 ⟨.inl ⟨hrefused, rfl⟩, rfl⟩
      rw [hfile]
      refine ⟨_, rfl, .other ?_ ?_⟩
      · rintro (hno | ⟨hyes, -⟩)
        · exact hno hparent
        · exact hname hyes
      · rintro ⟨bytes, held, h⟩
        exact hname (ht.isEntryName_of_standing? h)
  · simp only [hwalk]
    exact ⟨_, rfl, .absent (.inl hno)⟩

/-- An entry that may be removed is deleted. -/
theorem DeleteEnd.of_removable (ht : t.Grown) (hd : t.descend rootInode p.parents = some d)
    (hname : isEntryName p.fileName = true) (hc : t.child? d p.fileName = some i)
    (hr : Removable (t.node? i)) :
    ∃ t', (memory a).remove d p.fileName t = .ok () t' ∧ DeleteEnd t p 0 t' := by
  obtain ⟨t', hunlink, hnone, hothers, hused⟩ := ht.unlink_of_removable hd hc hr
  have hkept : ¬ t.Kept p.parents p.fileName := fun h => (ht.kept_iff hd hname hc).1 h hr
  have habsent : ¬ t.Absent p.parents p.fileName := by
    intro h
    have hi := ht.standing?_none_iff.1 h.standing?
    rw [descend_concat hd, hc] at hi
    cases hi
  exact ⟨t', memory_remove_ok_iff.2 ⟨hname, hunlink⟩,
    .removed habsent hkept (.inr ⟨hname, hnone⟩) hothers hused⟩

/-- **How deleting ends**, and what it leaves of the tree. -/
theorem delete_ends (hroot : b.root = some rootInode) (ht : t.Grown)
    (hp : StoragePath.parse path = some p) :
    ∃ n t', delete path (b, t) = (n, b, t') ∧ DeleteEnd t p n t' := by
  rw [delete_of_parse hroot hp]
  obtain ⟨d, children, hwalk, hd, hdir⟩ | ⟨hno, e, hwalk⟩ := ht.walk_looked a p.parents
  · have hparent : t.standing? p.parents = some .directory :=
      standing?_directory_iff.2 ⟨d, children, hd, hdir⟩
    simp only [hwalk]
    by_cases hname : isEntryName p.fileName = true
    · obtain ⟨hc, hnone⟩ | ⟨i, n, hc, -⟩ := ht.last_cases hd p.fileName
      · have hcall := memory_remove_error_iff (a := a).2
          ⟨.inr ⟨hname, unlink_of_missing hdir hc⟩, rfl⟩
        rw [hcall]
        exact ⟨_, _, rfl, .absent (.inr ⟨hname, hnone⟩)⟩
      · by_cases hr : Removable (t.node? i)
        · obtain ⟨t', hcall, hend⟩ := DeleteEnd.of_removable (a := a) ht hd hname hc hr
          rw [hcall]
          exact ⟨_, _, rfl, hend⟩
        · obtain ⟨e, he, hunlink⟩ := ht.unlink_of_not_removable hc hr
          have hcall := memory_remove_error_iff (a := a).2 ⟨.inr ⟨hname, hunlink⟩, rfl⟩
          rw [hcall]
          simp only [if_neg he]
          exact ⟨_, _, rfl, .kept ((ht.kept_iff hd hname hc).2 hr)⟩
    · have hrefused : isEntryName p.fileName = false := by simpa using hname
      have hcall : (memory a).remove d p.fileName t = .error (.invalidName p.fileName) t :=
        memory_remove_error_iff.2 ⟨.inl ⟨hrefused, rfl⟩, rfl⟩
      rw [hcall]
      exact ⟨_, _, rfl, .kept ⟨hparent, .inl hrefused⟩⟩
  · -- the walk did not come to the parent
    simp only [hwalk]
    exact ⟨_, _, rfl, .absent (.inl hno)⟩

/-- After a deletion that was answered with success there is nothing, all other entries are as they
were, and the bytes of the file are given back. -/
theorem DeleteEnd.of_zero (h : DeleteEnd t p 0 t') :
    t'.Absent p.parents p.fileName ∧ AgreeOutside {p.parents ++ [p.fileName]} t t' ∧
      t'.used = t.used - (t.contents (p.parents ++ [p.fileName])).length := by
  cases h with
  | absent habsent =>
    rw [contents_of_none habsent.standing?, List.length_nil, Nat.sub_zero]
    exact ⟨habsent, .refl _ t, rfl⟩
  | removed _ _ habsent hothers hused => exact ⟨habsent, hothers, hused⟩

end Bridge

/-! ### Fleets -/

namespace Fleet

variable {f : Fleet (memory a)} {k : Nat} {b : Bridge (memory a)} {path : String} {p : StoragePath}

/-- A path has one last name, behind one chain of parents. -/
theorem exists_last_iff {P : List String → String → Prop} :
    (∃ front last, parents ++ [leaf] = front ++ [last] ∧ P front last) ↔ P parents leaf := by
  constructor
  · rintro ⟨front, last, h, hP⟩
    obtain ⟨rfl, rfl⟩ := List.append_singleton_inj.1 h
    exact hP
  · exact fun h => ⟨_, _, rfl, h⟩

/-- A file is held just when it is behind a descriptor. -/
theorem Ready.standing?_held_iff (hf : f.Ready) (names : List String) :
    (∃ bytes, f.store.standing? names = some (.file bytes true)) ↔
      ∃ i j fd, f.store.descend rootInode names = some i ∧
        f.behind (Holding.memory a) (j, fd) = some i := by
  constructor
  · rintro ⟨bytes, hfile⟩
    obtain ⟨i, data, hi, hdata, -⟩ := standing?_file_iff.1 hfile
    obtain ⟨⟨j, fd⟩, hbehind⟩ := (hf.sound.exclusive.held_iff i).1 ⟨data, hdata⟩
    exact ⟨i, j, fd, hi, hbehind⟩
  · rintro ⟨i, j, fd, hi, hbehind⟩
    obtain ⟨data, hdata⟩ : i ∈ f.store.locked := (hf.sound.exclusive.held_iff i).2 ⟨_, hbehind⟩
    exact ⟨_, standing?_file_iff.2 ⟨i, data, hi, hdata, rfl⟩⟩

/-- Where there is nothing, asking and deleting both answer `0` and change nothing. -/
theorem Ready.absent (hf : f.Ready) (hb : f.bridges k = some b) (hroot : b.root = some rootInode)
    (hp : StoragePath.parse path = some p) (habsent : f.store.Absent p.parents p.fileName) :
    f.act k (Bridge.access path) = some (0, f) ∧ f.act k (Bridge.delete path) = some (0, f) := by
  obtain ⟨n, haccess, hasked⟩ := access_ends hroot hf.grown hp
  obtain ⟨m, t', hdelete, hend⟩ := delete_ends hroot hf.grown hp
  constructor
  · rw [act_of_bridge hb, haccess, put_self hb]
    cases hasked with
    | absent => rfl
    | present hfile => exact absurd hfile habsent.not_fileAt
    | other hno => exact absurd habsent hno
  · rw [act_of_bridge hb, hdelete]
    cases hend with
    | absent => rw [put_self hb]
    | kept hkept => exact absurd hkept habsent.not_kept
    | removed hno => exact absurd habsent hno

/-- What asking for a path answers. -/
theorem Ready.access (hf : f.Ready) (hb : f.bridges k = some b) (hroot : b.root = some rootInode)
    (path : String) :
    ∃ n, f.act k (Bridge.access path) = some (n, f) ∧
      (n = 1 ↔ f.store.FileAt (segments path.toList)) ∧
      (n = 0 ↔ segments path.toList = [] ∨ ∃ parents leaf,
        segments path.toList = parents ++ [leaf] ∧ f.store.Absent parents leaf) ∧
      (n ≠ 1 → n ≠ 0 → n = -1) := by
  cases hp : StoragePath.parse path with
  | none =>
    rw [StoragePath.parse_eq_none_iff.1 hp]
    refine ⟨0, ?_, iff_of_false (by decide) ?_, iff_of_true rfl (.inl rfl), fun _ h => absurd rfl h⟩
    · rw [act_of_bridge hb, access_of_no_parse hroot hp, put_self hb]
      rfl
    · rintro ⟨bytes, held, h⟩
      rw [hf.grown.standing?_root] at h
      cases h
  | some p =>
    rw [(StoragePath.parse_eq_some_iff.1 hp).1]
    obtain ⟨n, haccess, hend⟩ := access_ends hroot hf.grown hp
    refine ⟨n, by rw [act_of_bridge hb, haccess, put_self hb], ?_⟩
    rw [exists_last_iff, or_iff_right (List.append_ne_nil_of_right_ne_nil _ (List.cons_ne_nil _ _))]
    cases hend with
    | absent habsent =>
      exact ⟨iff_of_false (by decide) habsent.not_fileAt, iff_of_true rfl habsent,
        fun _ h => absurd rfl h⟩
    | present hfile =>
      exact ⟨iff_of_true rfl hfile, iff_of_false (by decide) fun habsent => habsent.not_fileAt hfile,
        fun h => absurd rfl h⟩
    | other hno hfile =>
      exact ⟨iff_of_false (by decide) hfile, iff_of_false (by decide) hno, fun _ _ => rfl⟩

/-- What deleting the entry of a path answers, and what it leaves. -/
theorem Ready.delete (hf : f.Ready) (hb : f.bridges k = some b) (hroot : b.root = some rootInode)
    (path : String) :
    ∃ n f', f.act k (Bridge.delete path) = some (n, f') ∧
      (segments path.toList = [] → n = -1) ∧ (segments path.toList ≠ [] → n = 0 ∨ n = -10) ∧
      (n = -10 ↔ ∃ parents leaf, segments path.toList = parents ++ [leaf] ∧
        f.store.Kept parents leaf) ∧
      (n < 0 → f' = f) ∧
      (n = 0 → f'.bridges = f.bridges ∧ ∃ parents leaf,
        segments path.toList = parents ++ [leaf] ∧ f'.store.Absent parents leaf ∧
        AgreeOutside {parents ++ [leaf]} f.store f'.store ∧
        f'.store.used = f.store.used - (f.store.contents (parents ++ [leaf])).length) := by
  cases hp : StoragePath.parse path with
  | none =>
    rw [StoragePath.parse_eq_none_iff.1 hp]
    refine ⟨-1, f, ?_, fun _ => rfl, fun h => absurd rfl h, iff_of_false (by decide) ?_,
      fun _ => rfl, fun h => by cases h⟩
    · rw [act_of_bridge hb, delete_of_no_parse hroot hp, put_self hb]
      rfl
    · rintro ⟨parents, leaf, h, -⟩
      simp at h
  | some p =>
    rw [(StoragePath.parse_eq_some_iff.1 hp).1]
    obtain ⟨n, t', hdelete, hend⟩ := delete_ends hroot hf.grown hp
    refine ⟨n, f.put k b t', by rw [act_of_bridge hb, hdelete], fun h => by simp at h, fun _ => ?_,
      ?_, fun hn => ?_, ?_⟩
    · cases hend with
      | absent | removed => exact .inl rfl
      | kept => exact .inr rfl
    · rw [exists_last_iff]
      cases hend with
      | absent habsent => exact iff_of_false (by decide) habsent.not_kept
      | kept hkept => exact iff_of_true rfl hkept
      | removed _ hno => exact iff_of_false (by decide) hno
    · cases hend with
      | kept => exact put_self hb
      | absent | removed => cases hn
    · rintro rfl
      exact ⟨bridges_put hb t', _, _, rfl, hend.of_zero⟩

/-- **Asking and deleting agree with the tree and with each other**, in every reachable state and
for every bridge that has asked for its root.  Asking changes nothing and answers `1` for a file, `0`
where there is nothing and `-1` otherwise, also for a last name that is not permitted.  Deleting
answers `-10` just when the entry may not be deleted, `-1` for a path without a segment and `0`
otherwise.  Unless it answers `0` it changes nothing; when it does, there is nothing under the path
any more, no other entry has changed, the bytes of the file are free again, and asking and deleting
under any spelling of the path answer `0` and change nothing. -/
theorem run_removal (a : Allocator) (quota : UInt64) (ops : List FleetOp) (k : Nat)
    (b : Bridge (memory a)) (hb : ((start (Tree.empty quota)).run ops).bridges k = some b)
    (hprobed : b.probed = true) (path : String) :
    let f : Fleet (memory a) := (start (Tree.empty quota)).run ops
    let names := segments path.toList
    (∃ n, f.act k (Bridge.access path) = some (n, f) ∧
      (n = 1 ↔ f.store.FileAt names) ∧
      (n = 0 ↔ names = [] ∨
        ∃ parents leaf, names = parents ++ [leaf] ∧ f.store.Absent parents leaf) ∧
      (n ≠ 1 → n ≠ 0 → n = -1)) ∧
    ∃ n f', f.act k (Bridge.delete path) = some (n, f') ∧
      (names = [] → n = -1) ∧ (names ≠ [] → n = 0 ∨ n = -10) ∧
      (n = -10 ↔ ∃ parents leaf, names = parents ++ [leaf] ∧
        f.store.standing? parents = some .directory ∧
        (isEntryName leaf = false ∨
          (∃ i j fd, f.store.descend rootInode names = some i ∧
            f.behind (Holding.memory a) (j, fd) = some i) ∨
          (f.store.standing? names = some .directory ∧
            ∃ name, f.store.standing? (names ++ [name]) ≠ none))) ∧
      (n < 0 → f' = f) ∧
      (n = 0 → f'.bridges = f.bridges ∧ f'.store.standing? names = none ∧
        AgreeOutside {names} f.store f'.store ∧
        f'.store.used + (f.store.contents names).length = f.store.used ∧
        ∀ spelling, segments spelling.toList = names →
          f'.act k (Bridge.access spelling) = some (0, f') ∧
          f'.act k (Bridge.delete spelling) = some (0, f')) := by
  intro f names
  have hf : f.Ready := ready_run a quota ops
  have hroot : b.root = some rootInode := asked_run a quota ops hb hprobed
  refine ⟨hf.access hb hroot path, ?_⟩
  obtain ⟨n, f', hact, hempty, hsome, hkept, hfailed, hdone⟩ := hf.delete hb hroot path
  refine ⟨n, f', hact, hempty, hsome, hkept.trans ?_, hfailed, fun hn => ?_⟩
  · refine exists_congr fun parents => exists_congr fun leaf => and_congr_right fun h => ?_
    change names = parents ++ [leaf] at h
    rw [Kept, ← h, hf.standing?_held_iff]
  · obtain ⟨hbridges, parents, leaf, hnames, habsent, hothers, hused⟩ := hdone hn
    change names = parents ++ [leaf] at hnames
    rw [← hnames] at hothers hused
    have hle := (accounted_run a quota ops).contents_le names
    have hstep : f.step (.act k (.delete path)) = f' := by
      change ((f.act k (Bridge.delete path)).map Prod.snd).getD f = f'
      rw [hact]
      rfl
    have hf' : f'.Ready := hstep ▸ hf.step _
    refine ⟨hbridges, hnames ▸ habsent.standing?, hothers, ?_, fun spelling hspelling => ?_⟩
    · rw [hused]
      exact Nat.sub_add_cancel hle
    · cases hq : StoragePath.parse spelling with
      | none =>
        rw [hnames, StoragePath.parse_eq_none_iff.1 hq] at hspelling
        simp at hspelling
      | some q =>
        -- every spelling reads as the same parents and the same last name
        rw [hnames, (StoragePath.parse_eq_some_iff.1 hq).1] at hspelling
        obtain ⟨rfl, rfl⟩ := List.append_singleton_inj.1 hspelling
        exact hf'.absent (hbridges ▸ hb) hroot hq habsent

/-- A file is deleted while a file of another bridge stays, and then it is absent under another
spelling of its path too. -/
theorem run_removal_twice :
    let f : Fleet (memory .addressSpace) := (start (Tree.empty 100)).run
      [.create 0, .create 1, .act 0 .probe, .act 1 .probe, .act 0 (.openFile "d/f" 1),
        .act 1 (.openFile "d/g" 1), .act 0 (.write 1 [7] 0), .act 0 (.closeFile 1)]
    ∃ b, f.bridges 0 = some b ∧ b.probed = true ∧ f.store.standing? ["d", "f"] =
      some (.file [7] false) ∧ f.store.used = 1 ∧
      ∃ f', f.act 0 (Bridge.delete "d/f") = some (0, f') ∧
        f'.store.standing? ["d", "g"] = some (.file [] true) ∧ f'.store.used = 0 ∧
        f'.act 0 (Bridge.access "/d//f") = some (0, f') ∧
        f.act 0 (Bridge.delete "d/g") = some (-10, f) := by
  intro f
  have hbridge : (f.bridges 0).map (fun b => b.probed) = some true := by decide +kernel
  obtain ⟨b, hb, hprobed⟩ := Option.map_eq_some_iff.1 hbridge
  have hfile : f.store.standing? ["d", "f"] = some (.file [7] false) := by decide +kernel
  have hother : f.store.standing? ["d", "g"] = some (.file [] true) := by decide +kernel
  have hused : f.store.used = 1 := by decide +kernel
  have hsegments : segments "d/f".toList = ["d", "f"] := by decide +kernel
  have hzero : (f.act 0 (Bridge.delete "d/f")).map Prod.fst = some 0 := by decide +kernel
  have hten : (f.act 0 (Bridge.delete "d/g")).map Prod.fst = some (-10) := by decide +kernel
  obtain ⟨-, n, f', hact, -, -, -, -, hdone⟩ :=
    run_removal .addressSpace 100 _ 0 b hb hprobed "d/f"
  obtain ⟨-, m, g', hact', -, -, -, hfailed, -⟩ :=
    run_removal .addressSpace 100 _ 0 b hb hprobed "d/g"
  obtain rfl : n = 0 := by simpa [f, hact] using hzero
  obtain rfl : m = -10 := by simpa [f, hact'] using hten
  obtain ⟨-, -, hothers, hfree, hagain⟩ := hdone rfl
  rw [hsegments] at hothers hfree hagain
  have hkept : f'.store.standing? ["d", "g"] = some (.file [] true) :=
    (hothers ["d", "g"] (by decide)).2.trans hother
  have hempty : f'.store.used = 0 := by
    rw [contents_of_file hfile] at hfree
    exact Nat.succ.inj (hfree.trans hused)
  obtain rfl := hfailed (by decide)
  exact ⟨b, hb, hprobed, hfile, hused, f', hact, hkept, hempty,
    (hagain "/d//f" (by decide +kernel)).1, hact'⟩

end Fleet

end EngineHost

import EngineHost.Proofs.Tree.Bytes
import EngineHost.Proofs.Tree.Standing

/-!
# Files that keep their bytes

* `Tree.KeepsFiles` : every name leads where it led, and the files outside a set have the bytes they
  had.  So a file is found under the chain that it was under (`Tree.KeepsFiles.standing?`).
* `Storage.memory_keepsFiles` : the calls that keep all files.

This is more than `Tree.KeepsBytes`, which leaves open that a file goes.
-/

namespace EngineHost

open EngineHost.Storage

namespace Tree

variable {a : Allocator} {t t' : Tree} {d i : Inode} {name : String} {names : List String}
  {bytes : List UInt8} {held : Bool} {s s' : Set Inode}

/-- Every name leads where it led, and every file outside a set has the bytes it had. -/
structure KeepsFiles (s : Set Inode) (t t' : Tree) : Prop where
  names : KeepsChildren t t'
  files : ∀ i l, i ∉ s → t.bytes? i = some l → t'.bytes? i = some l

instance : Std.Refl (KeepsFiles s) := ⟨fun _ => ⟨fun _ _ _ => id, fun _ _ _ => id⟩⟩

instance : IsTrans Tree (KeepsFiles s) where
  trans _ _ _ h h' :=
    ⟨fun d name j hj => h'.names d name j (h.names d name j hj),
      fun i l hi hl => h'.files i l hi (h.files i l hi hl)⟩

theorem KeepsFiles.mono (h : KeepsFiles s t t') (hs : s ⊆ s') : KeepsFiles s' t t' :=
  ⟨h.names, fun i l hi => h.files i l fun hmem => hi (hs hmem)⟩

/-- A file that is kept stands where it stood. -/
theorem KeepsFiles.standing? (h : KeepsFiles s t t')
    (hd : t.descend rootInode names = some i) (hi : i ∉ s)
    (hfile : t.standing? names = some (.file bytes held)) :
    ∃ held', t'.standing? names = some (.file bytes held') := by
  obtain ⟨j, data, hj, hnode, rfl⟩ := standing?_file_iff.1 hfile
  obtain rfl : i = j := Option.some.inj (hd.symm.trans hj)
  obtain ⟨data', held', hnode', hdata⟩ :=
    bytes?_eq_some_iff.1 (h.files i _ hi (bytes?_of_file hnode))
  exact ⟨held', standing?_file_iff.2 ⟨i, data', h.names.descend hd, hnode', hdata⟩⟩

/-- Putting a file in the place of a file keeps all other files, and this one if it has the same
bytes. -/
theorem keepsFiles_replaced {data data' : Content} {locked locked' : Bool}
    (hi : t.node? i = some (.file data locked))
    (hnode : ∀ j, t'.node? j = if j = i then some (.file data' locked') else t.node? j)
    (hs : i ∈ s ∨ data'.toList = data.toList) : KeepsFiles s t t' := by
  refine ⟨keepsChildren_replaced hi hnode, fun j l hj hl => ?_⟩
  have hj' := hnode j
  split_ifs at hj' with heq
  · subst heq
    rw [bytes?_of_file hj', hs.resolve_left hj, ← hl, bytes?_of_file hi]
  · rw [bytes?_congr hj', hl]

/-- A name that is looked up, or made, keeps all files. -/
theorem keepsFiles_lookupOrCreate {create : Bool} {kind : EntryKind}
    (h : t.lookupOrCreate d name create kind = .ok (i, t')) : KeepsFiles s t t' := by
  refine ⟨keepsChildren_lookupOrCreate h, fun j l _ hl => ?_⟩
  obtain ⟨children, hd, ⟨-, -, rfl⟩ | ⟨-, -, -, rfl⟩⟩ := lookupOrCreate_ok_iff.1 h
  · exact hl
  · obtain ⟨data, locked, hj, rfl⟩ := bytes?_eq_some_iff.1 hl
    have hnew : j ≠ t.nextInode := Nat.ne_of_lt (lt_nextInode hj)
    have hdir : j ≠ d := by
      rintro rfl
      rw [hd] at hj
      cases hj
    exact bytes?_of_file (by rw [node?_linked hd, if_neg hnew, if_neg hdir, hj])

theorem keepsFiles_lock (h : t.lock i = .ok t') : KeepsFiles s t t' := by
  obtain ⟨data, hi, rfl⟩ := lock_ok_iff.1 h
  exact keepsFiles_replaced hi (node?_setNode hi _) (.inr rfl)

theorem keepsFiles_unlock (t : Tree) (i : Inode) : KeepsFiles s t (t.unlock i) := by
  obtain ⟨data, locked, hi, h⟩ | ⟨-, h⟩ := unlock_cases t i
  · exact keepsFiles_replaced hi (h ▸ node?_setNode hi _) (.inr rfl)
  · rw [h]
    exact Std.Refl.refl t

/-- A file that is unlocked stands where it stood, and nobody holds it. -/
theorem standing?_unlock (hd : t.descend rootInode names = some i)
    (hfile : t.standing? names = some (.file bytes held)) :
    (t.unlock i).standing? names = some (.file bytes false) := by
  obtain ⟨j, data, hj, hnode, rfl⟩ := standing?_file_iff.1 hfile
  obtain rfl : i = j := Option.some.inj (hd.symm.trans hj)
  have hunlock : t.unlock i = t.setNode i (.file data false) := by rw [unlock, hnode]
  have hdescend := (keepsFiles_unlock (s := ∅) t i).names.descend hd
  refine standing?_file_iff.2 ⟨i, data, hdescend, ?_, rfl⟩
  rw [hunlock, node?_setNode hnode, if_pos rfl]

end Tree

open EngineHost.Tree

/-- **No call but writing, truncating and removing takes bytes from a file.** -/
theorem Storage.memory_keepsFiles (a : Allocator) (s : Set Inode) (kind : CallKind)
    (hwrite : kind ≠ .write) (htruncate : kind ≠ .truncate) (hremove : kind ≠ .remove) :
    (memory a).Keeps (KeepsFiles s) kind := by
  refine memory_keeps_of ?_
  cases kind with
  | directory | file => exact fun _ h => keepsFiles_lookupOrCreate h
  | remove => exact absurd rfl hremove
  | acquire => exact keepsFiles_lock
  | write => exact absurd rfl hwrite
  | truncate => exact absurd rfl htruncate
  | close => exact keepsFiles_unlock
  | root | read | flush | size => trivial

end EngineHost

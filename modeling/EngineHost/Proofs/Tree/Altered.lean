import EngineHost.Proofs.Tree.Quota
import Mathlib.Algebra.Order.BigOperators.Group.Finset

/-!
# Changes of one file

Writing to a file, bringing it to a length and unlocking it all come to the same change: the file
has other bytes or another lock, and the count of used bytes follows its length.  Such changes of
two files commute (`Tree.altered_comm`), though both write to the one count.

* `Tree.resized_eq_altered`, `Tree.written_eq_altered`, `Tree.unlock_eq_altered` : the functions of
  the tree as changes of one file.
* `Tree.resize_error`, `Tree.write_error` : a file that is there is refused only for the quota, and
  so it is through an open handle (`Storage.memory_truncate_error`, `Storage.memory_write_error`).
-/

namespace EngineHost

namespace Tree

open Finset

variable {t : Tree} {quota : UInt64} {i j : Inode} {n m : Node} {data data' : Content}
  {locked locked' : Bool} {a : Allocator} {e : StorageError}

/-- The tree with other bytes and another lock of a file. -/
def altered (t : Tree) (i : Inode) (data : Content) (locked : Bool) : Tree :=
  (t.setNode i (.file data locked)).charge (t.used - t.lengthAt i + data.length)

theorem node?_altered (hi : t.node? i = some n) (data : Content) (locked : Bool) (j : Inode) :
    (t.altered i data locked).node? j = if j = i then some (.file data locked) else t.node? j := by
  rw [altered, node?_charge, node?_setNode hi]

theorem setNode_self (hi : t.node? i = some n) : t.setNode i n = t := by
  obtain ⟨hlt, hget⟩ := List.getElem?_eq_some_iff.1 (Option.join_eq_some_iff.1 hi)
  rw [setNode, ← hget, List.set_getElem_self]

theorem setNode_charge (t : Tree) (i : Inode) (n : Node) (used : Nat) :
    (t.charge used).setNode i n = (t.setNode i n).charge used :=
  rfl

theorem setNode_setNode (t : Tree) (i : Inode) (n m : Node) :
    (t.setNode i n).setNode i m = t.setNode i m := by
  simp [setNode]

namespace Accounted

/-- The lengths of two files are both in the count. -/
theorem lengthAt_add_le (ht : t.Accounted quota) (hne : i ≠ j) :
    t.lengthAt i + t.lengthAt j ≤ t.used := by
  rw [ht.used_eq, total_eq t i]
  refine Nat.add_le_add_left ?_ _
  by_cases hj : j < t.nextInode
  · exact single_le_sum (fun _ _ => Nat.zero_le _) (mem_erase.2 ⟨Ne.symm hne, mem_range.2 hj⟩)
  · rw [lengthAt_of_le (Nat.not_lt.1 hj)]
    exact Nat.zero_le _

/-- A change that keeps the length of a file. -/
theorem altered_of_length (ht : t.Accounted quota) (hi : t.node? i = some (.file data locked))
    (hlen : data'.length = data.length) :
    t.altered i data' locked' = t.setNode i (.file data' locked') := by
  have hused : t.used - t.lengthAt i + data'.length = t.used := by
    have hle := ht.lengthAt_le i
    rw [lengthAt_of_node? hi, Node.length] at hle ⊢
    omega
  rw [altered, hused]
  rfl

/-- A file that stays as it is. -/
theorem altered_self (ht : t.Accounted quota) (hi : t.node? i = some (.file data locked)) :
    t.altered i data locked = t := by
  rw [ht.altered_of_length hi rfl, setNode_self hi]

/-- **Changes of two files commute.** -/
theorem altered_comm (ht : t.Accounted quota) (hne : i ≠ j) (hi : t.node? i = some n)
    (hj : t.node? j = some m) :
    (t.altered i data locked).altered j data' locked' =
      (t.altered j data' locked').altered i data locked := by
  have hlengthj : (t.altered i data locked).lengthAt j = t.lengthAt j :=
    lengthAt_congr (by rw [node?_altered hi, if_neg (Ne.symm hne)])
  have hlengthi : (t.altered j data' locked').lengthAt i = t.lengthAt i :=
    lengthAt_congr (by rw [node?_altered hj, if_neg hne])
  have hnodes : ((t.nodes.set i (some (.file data locked))).set j (some (.file data' locked'))) =
      (t.nodes.set j (some (.file data' locked'))).set i (some (.file data locked)) :=
    List.set_comm _ _ hne
  -- neither subtraction goes below zero, so that the order of the two does not count
  have hused : t.used - t.lengthAt i + data.length - t.lengthAt j + data'.length =
      t.used - t.lengthAt j + data'.length - t.lengthAt i + data.length := by
    have hle := ht.lengthAt_add_le hne
    omega
  calc (t.altered i data locked).altered j data' locked'
      = ⟨(t.nodes.set i (some (.file data locked))).set j (some (.file data' locked')), t.quota,
          t.used - t.lengthAt i + data.length - t.lengthAt j + data'.length⟩ := by
        rw [altered, hlengthj]
        rfl
    _ = ⟨(t.nodes.set j (some (.file data' locked'))).set i (some (.file data locked)), t.quota,
          t.used - t.lengthAt j + data'.length - t.lengthAt i + data.length⟩ := by
        rw [hnodes, hused]
    _ = (t.altered j data' locked').altered i data locked := by
        rw [altered, hlengthi]
        rfl

end Accounted

/-! ### The functions of the tree -/

theorem resized_eq_altered (hi : t.node? i = some (.file data locked)) (length : Nat) :
    t.resized i data locked length = t.altered i (data.resize length) locked := by
  rw [resized, altered, lengthAt_of_node? hi, Node.length, Content.length_resize]

/-- A file ends where it did or where the bytes written end. -/
theorem length_overwritten (data : Content) (bytes : List UInt8) (offset : Nat) :
    (overwritten data bytes offset).length = max data.length (offset + bytes.length) := by
  rw [overwritten]
  split_ifs with hgrow
  · rw [Content.length_overlay (by rw [Content.length_resize]), Content.length_resize]
    omega
  · rw [Content.length_overlay (Nat.not_lt.1 hgrow)]
    omega

theorem written_eq_altered (ht : t.Accounted quota) (hi : t.node? i = some (.file data locked))
    (bytes : List UInt8) (offset : Nat) :
    t.written i data locked bytes offset = t.altered i (overwritten data bytes offset) locked := by
  have hlength := length_overwritten data bytes offset
  rw [written, reached]
  split_ifs with hgrow
  · -- the node is put twice, and the count is taken when the file is made longer
    rw [Nat.max_eq_right (Nat.le_of_lt hgrow)] at hlength
    rw [altered, lengthAt_of_node? hi, Node.length, hlength, resized, setNode_charge,
      setNode_setNode]
  · rw [Nat.max_eq_left (Nat.not_lt.1 hgrow)] at hlength
    exact (ht.altered_of_length hi hlength).symm

theorem unlock_eq_altered (ht : t.Accounted quota) (hi : t.node? i = some (.file data locked)) :
    t.unlock i = t.altered i data false := by
  rw [ht.altered_of_length hi rfl, unlock, hi]

/-- A file is brought to any length, but for the quota and the memory there is. -/
theorem resize_error {length : Nat} (hi : t.node? i = some (.file data locked))
    (h : t.resize a i length = .error e) : e = .quotaExceeded := by
  simp only [resize, data_ok_iff.2 ⟨locked, hi⟩, hi, bind, Except.bind] at h
  by_cases hgrow : data.length < length
  · rw [if_pos hgrow] at h
    -- both checks refuse with the same error
    by_cases hquota : t.quota.toNat < min (t.used - data.length + length) wordLimit
    · rw [if_pos hquota] at h
      cases h
      rfl
    · rw [if_neg hquota] at h
      split_ifs at h
      · cases h
        rfl
      · cases h
  · rw [if_neg hgrow] at h
    cases h

/-- A file does not grow to a length that is not admitted. -/
theorem resize_of_refused {length : Nat} (hi : t.node? i = some (.file data locked))
    (hrefused : ¬ (data.length < length → t.Admits a (t.used - data.length) length)) :
    t.resize a i length = .error .quotaExceeded := by
  cases h : t.resize a i length with
  | error e => rw [resize_error hi h]
  | ok t' =>
    obtain ⟨data', locked', hi', hadmits, -⟩ := resize_ok_iff.1 h
    obtain ⟨rfl, rfl⟩ := file_unique hi hi'
    exact absurd hadmits hrefused

/-- Bytes are written anywhere, but for the quota, the memory there is and the greatest offset. -/
theorem write_error {bytes : List UInt8} {offset : Nat} (hi : t.node? i = some (.file data locked))
    (h : t.write a i bytes offset = .error e) : e = .quotaExceeded := by
  by_cases hstop : wordLimit < offset + bytes.length
  · rw [write, if_pos hstop] at h
    cases h
    rfl
  · simp only [write, if_neg hstop, data_ok_iff.2 ⟨locked, hi⟩, bind, Except.bind] at h
    split_ifs at h with hgrow
    · cases hr : t.resize a i (offset + bytes.length) with
      | error e' =>
        rw [hr] at h
        cases h
        exact resize_error hi hr
      | ok t' =>
        -- the file that was made longer is still there
        obtain ⟨data', locked', hi', -, rfl⟩ := resize_ok_iff.1 hr
        simp only [hr, node?_resized hi', if_true] at h
        cases h
    · simp only [pure, Except.pure, hi] at h
      cases h

end Tree

/-! ### Open handles -/

namespace Storage

open EngineHost.Tree

variable {a : Allocator} {t t' : Tree} {h : MemoryAccess} {data : Content} {locked : Bool}
  {e : StorageError}

theorem memory_truncate_error {size : UInt64} (hopen : h.closed = false)
    (hi : t.node? h.inode = some (.file data locked))
    (herr : (memory a).truncate h size t = .error e t') : e = .quotaExceeded := by
  have hcheck := MemoryAccess.checkOpen_ok_iff (u := ()).2 hopen
  simp only [memory, change_error_iff, hcheck] at herr
  exact resize_error hi herr.1

theorem memory_write_error {bytes : List UInt8} {offset : UInt64} (hopen : h.closed = false)
    (hi : t.node? h.inode = some (.file data locked))
    (herr : (memory a).write h bytes offset t = .error e t') : e = .quotaExceeded := by
  have hcheck := MemoryAccess.checkOpen_ok_iff (u := ()).2 hopen
  simp only [memory, changeWith_error_iff, hcheck] at herr
  have hwrite : (t.write a h.inode bytes offset.toNat >>= fun t' => pure (bytes.length, t')) =
      .error e := herr.1
  rcases except_bind_error_iff.1 hwrite with herr | ⟨_, -, herr⟩
  · exact write_error hi herr
  · cases herr

end Storage

end EngineHost

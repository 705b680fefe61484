import EngineHost.Proofs.Tree.Session
import Mathlib.Algebra.BigOperators.Group.Finset.Basic

/-!
# The quota of a tree

The count of used bytes is a sum that is kept up to date and never taken anew.  `Tree.total` is the
sum itself, and `Tree.Accounted` says that the count is this sum and within the quota.

* `Tree.Step.accounted` : every change of a tree keeps this.
* `Tree.Accounted.truncate_ok_iff`, `Tree.Accounted.write_ok_iff` : whether a file may grow is
  decided in exact integers, though the checks are made in 64-bit words that saturate; a file that
  does not grow is never refused.
* `Tree.Session.run_accounting` : all of it for every tree that calls lead to.
-/

namespace EngineHost

namespace Tree

open Finset

/-- The bytes of all files together. -/
def total (t : Tree) : Nat := ∑ i ∈ range t.nextInode, t.lengthAt i

/-- The bytes of all files but one. -/
def totalBut (t : Tree) (i : Inode) : Nat := ∑ j ∈ (range t.nextInode).erase i, t.lengthAt j

/-- The count of used bytes is the sum of the lengths of the files, and within the quota. -/
structure Accounted (quota : UInt64) (t : Tree) : Prop where
  quota_eq : t.quota = quota
  used_eq : t.used = t.total
  used_le : t.used ≤ quota.toNat

variable {t t' : Tree} {quota : UInt64} {d i j : Inode} {n : Node} {name : String}
  {children : List (String × Inode)} {data data' : Content} {locked locked' : Bool}
  {a : Allocator}

/-! ### Sums of lengths -/

theorem lengthAt_of_node? (h : t.node? i = some n) : t.lengthAt i = n.length := by
  simp [lengthAt, h]

theorem lengthAt_of_le (h : t.nextInode ≤ i) : t.lengthAt i = 0 := by
  cases hi : t.node? i with
  | none => simp [lengthAt, hi]
  | some n => exact absurd (lt_nextInode hi) (Nat.not_lt.2 h)

theorem lengthAt_congr (h : t'.node? i = t.node? i) : t'.lengthAt i = t.lengthAt i := by
  rw [lengthAt, lengthAt, h]

/-- A file and the others. -/
theorem total_eq (t : Tree) (i : Inode) : t.total = t.lengthAt i + t.totalBut i := by
  -- a number that was not given out is no file and counts nothing
  by_cases hi : i < t.nextInode
  · exact (add_sum_erase _ _ (mem_range.2 hi)).symm
  · rw [lengthAt_of_le (Nat.not_lt.1 hi), totalBut, erase_eq_of_notMem (by simpa using hi),
      Nat.zero_add, total]

/-- The others count the same after a change to one node. -/
theorem totalBut_congr (hnext : t'.nextInode = t.nextInode)
    (h : ∀ j, j ≠ i → t'.node? j = t.node? j) : t'.totalBut i = t.totalBut i := by
  rw [totalBut, totalBut, hnext]
  exact sum_congr rfl fun j hj => lengthAt_congr (h j (ne_of_mem_erase hj))

/-- What a node that is put in the place of another one adds to the sum. -/
theorem total_setNode (h : t.node? i = some n) (m : Node) :
    (t.setNode i m).total = m.length + t.totalBut i := by
  rw [total_eq _ i, lengthAt_of_node? (n := m) (by rw [node?_setNode h, if_pos rfl]),
    totalBut_congr (nextInode_setNode t i m) fun j hj => by rw [node?_setNode h, if_neg hj]]

theorem total_addNode (t : Tree) (n : Node) : (t.addNode n).total = t.total + n.length := by
  have hold : ∀ j ∈ range t.nextInode, (t.addNode n).lengthAt j = t.lengthAt j := by
    intro j hj
    exact lengthAt_congr (by rw [node?_addNode, if_neg (Nat.ne_of_lt (mem_range.1 hj))])
  rw [total, nextInode_addNode, sum_range_succ, sum_congr rfl hold,
    lengthAt_of_node? (n := n) (by rw [node?_addNode, if_pos rfl]), total]

theorem total_dropNode (t : Tree) (i : Inode) : (t.dropNode i).total = t.totalBut i := by
  have hgone : (t.dropNode i).lengthAt i = 0 := by
    rw [lengthAt, node?_dropNode, if_pos rfl]; rfl
  rw [total_eq _ i, hgone, Nat.zero_add]
  exact totalBut_congr (nextInode_dropNode t i) fun j hj => by rw [node?_dropNode, if_neg hj]

/-- Directories count nothing, whatever their children. -/
theorem total_setNode_directory (h : t.node? d = some (.directory children))
    (children' : List (String × Inode)) :
    (t.setNode d (.directory children')).total = t.total := by
  rw [total_setNode h, total_eq t d, lengthAt_of_node? h]
  rfl

theorem length_ofKind (kind : EntryKind) : (Node.ofKind kind).length = 0 := by
  cases kind <;> rfl

/-! ### Changes -/

theorem accounted_empty (quota : UInt64) : (empty quota).Accounted quota := by
  refine ⟨rfl, ?_, Nat.zero_le _⟩
  rw [total_eq _ rootInode]
  rfl

namespace Accounted

/-- The subtraction of the length of a file does not go below zero. -/
theorem lengthAt_le (h : t.Accounted quota) (i : Inode) : t.lengthAt i ≤ t.used := by
  rw [h.used_eq, total_eq t i]
  exact Nat.le_add_right _ _

theorem used_sub (h : t.Accounted quota) (i : Inode) : t.used - t.lengthAt i = t.totalBut i := by
  rw [h.used_eq, total_eq t i, Nat.add_sub_cancel_left]

/-- The count of used bytes fits a word. -/
theorem used_le_wordLimit (h : t.Accounted quota) : t.used ≤ wordLimit := by
  have := quota.toNat_lt
  have := h.used_le
  rw [wordLimit]
  omega

theorem lengthAt_le_wordLimit (h : t.Accounted quota) (i : Inode) :
    t.lengthAt i ≤ wordLimit :=
  (h.lengthAt_le i).trans h.used_le_wordLimit

theorem link (h : t.Accounted quota) (hd : t.node? d = some (.directory children))
    (name : String) (kind : EntryKind) :
    (t.linked d children name (.ofKind kind)).Accounted quota where
  quota_eq := h.quota_eq
  used_eq := by
    rw [linked, total_addNode, total_setNode_directory hd, length_ofKind]
    exact h.used_eq
  used_le := h.used_le

theorem unlink (h : t.Accounted quota) (hd : t.node? d = some (.directory children))
    (hne : i ≠ d) (name : String) : (t.unlinked d children name i).Accounted quota where
  quota_eq := h.quota_eq
  used_eq := by
    set t₁ := t.setNode d (.directory (children.filter fun c => c.1 ≠ name)) with ht₁
    have htotal : t₁.total = t.total := total_setNode_directory hd _
    have hlength : t₁.lengthAt i = t.lengthAt i :=
      lengthAt_congr (by rw [ht₁, node?_setNode hd, if_neg hne])
    have hsum := total_eq t₁ i
    calc t.used - t.lengthAt i = t₁.totalBut i := by rw [h.used_eq]; omega
      _ = (t₁.dropNode i).total := (total_dropNode t₁ i).symm
  used_le := (Nat.sub_le _ _).trans h.used_le

/-- What the checks on a growing file compare is the sum with the new length in it. -/
theorem admits_iff (h : t.Accounted quota) (a : Allocator) (i : Inode) (length : Nat) :
    t.Admits a (t.used - t.lengthAt i) length ↔
      t.totalBut i + length ≤ quota.toNat ∧ a.reserves (t.totalBut i) length = true := by
  rw [Tree.admits_iff, h.used_sub, h.quota_eq]

theorem resize (h : t.Accounted quota) (hi : t.node? i = some (.file data locked)) {length : Nat}
    (hadmits : data.length < length → t.Admits a (t.used - data.length) length) :
    (t.resized i data locked length).Accounted quota := by
  have hlength : t.lengthAt i = data.length := lengthAt_of_node? hi
  have hused : t.used - data.length + length = length + t.totalBut i := by
    rw [← hlength, h.used_sub, Nat.add_comm]
  refine ⟨h.quota_eq, ?_, ?_⟩
  · change t.used - data.length + length = (t.setNode i (.file (data.resize length) locked)).total
    rw [total_setNode hi, Node.length, Content.length_resize, hused]
  · change t.used - data.length + length ≤ quota.toNat
    -- growth is admitted within the quota, and a file that does not grow only takes less
    by_cases hgrow : data.length < length
    · have := ((h.admits_iff a i length).1 (hlength ▸ hadmits hgrow)).1
      omega
    · have hle := h.used_le
      have hfile := h.lengthAt_le i
      omega

theorem replace (h : t.Accounted quota) (hi : t.node? i = some (.file data locked))
    (hlen : data'.length = data.length) (locked' : Bool) :
    (t.setNode i (.file data' locked')).Accounted quota where
  quota_eq := h.quota_eq
  used_eq := by
    rw [total_setNode hi, Node.length, hlen, used_setNode, h.used_eq, total_eq t i,
      lengthAt_of_node? hi]
    rfl
  used_le := h.used_le

end Accounted

/-- **Every change keeps the count exact and within the quota.** -/
theorem Step.accounted (h : Step t t') (ht : t.Accounted quota) : t'.Accounted quota := by
  cases h with
  | link kind hd _ _ => exact ht.link hd _ kind
  | unlink hd hl hr =>
    refine ht.unlink hd ?_ _
    -- a directory that is its own child has a child, and so may not be removed
    rintro rfl
    exact hr.no_entry ⟨_, hd, mem_of_lookup hl⟩
  | resize a hi hadmits => exact ht.resize hi hadmits
  | replace hi hlen => exact ht.replace hi hlen _

/-! ### The longest file -/

/-- No file is longer than one stretch of memory can be. -/
def Short (t : Tree) : Prop := ∀ {i n}, t.node? i = some n → n.length ≤ Allocator.longest

theorem short_empty (quota : UInt64) : (empty quota).Short := by
  intro i n hn
  cases i <;> cases hn
  exact Nat.zero_le _

theorem Step.short (h : Step t t') (ht : t.Short) : t'.Short := by
  intro j n hn
  cases h with
  | link kind hd _ _ =>
    rw [node?_linked hd] at hn
    split_ifs at hn with hnew hparent
    · cases hn
      rw [length_ofKind]
      exact Nat.zero_le _
    · cases hn
      exact Nat.zero_le _
    · exact ht hn
  | unlink hd _ _ =>
    rw [node?_unlinked hd] at hn
    split_ifs at hn with hgone hparent
    · cases hn
      exact Nat.zero_le _
    · exact ht hn
  | @resize i data _ a length hi hadmits =>
    rw [node?_resized hi] at hn
    split_ifs at hn with hj
    · cases hn
      rw [Node.length, Content.length_resize]
      by_cases hgrow : data.length < length
      · have hreserves := (hadmits hgrow).2
        rw [Allocator.reserves, Bool.and_eq_true, decide_eq_true_eq] at hreserves
        exact hreserves.1
      · exact Nat.le_trans (Nat.not_lt.1 hgrow) (ht hi)
    · exact ht hn
  | replace hi hlen =>
    rw [node?_setNode hi] at hn
    split_ifs at hn with hj
    · cases hn
      rw [Node.length, hlen]
      exact ht hi
    · exact ht hn

/-! ### Growing files -/

namespace Accounted

open EngineHost.Storage

/-- A length that a file is brought to fits a 64-bit word, together with those of the others. -/
theorem resize_le_wordLimit (h : t.Accounted quota) {length : Nat}
    (hok : t.resize a i length = .ok t') : t.used - t.lengthAt i + length ≤ wordLimit := by
  obtain ⟨data, locked, hi, hadmits, rfl⟩ := resize_ok_iff.1 hok
  rw [lengthAt_of_node? hi]
  exact (h.resize hi hadmits).used_le_wordLimit

/-- When a file is brought to a length through an open handle. -/
theorem truncate_ok_iff (h : t.Accounted quota) (a : Allocator) {x : MemoryAccess}
    (hopen : x.closed = false) (hi : t.node? x.inode = some (.file data locked)) (size : UInt64) :
    (∃ u t', (memory a).truncate x size t = .ok u t') ↔
      (t.lengthAt x.inode < size.toNat → t.totalBut x.inode + size.toNat ≤ quota.toNat ∧
        a.reserves (t.totalBut x.inode) size.toNat = true) := by
  have hlength : t.lengthAt x.inode = data.length := lengthAt_of_node? hi
  simp only [memory_truncate_ok_iff, resize_ok_iff, ← h.admits_iff, hlength]
  constructor
  · rintro ⟨_, _, -, data', locked', hi', hadmits, -⟩
    obtain ⟨rfl, rfl⟩ := file_unique hi hi'
    exact hadmits
  · exact fun hadmits => ⟨(), _, hopen, data, locked, hi, hadmits, rfl⟩

/-- When bytes are written through an open handle. -/
theorem write_ok_iff (h : t.Accounted quota) (a : Allocator) {x : MemoryAccess}
    (hopen : x.closed = false) (hi : t.node? x.inode = some (.file data locked))
    (bytes : List UInt8) (offset : UInt64) :
    (∃ n t', (memory a).write x bytes offset t = .ok n t') ↔
      (t.lengthAt x.inode < offset.toNat + bytes.length →
        t.totalBut x.inode + (offset.toNat + bytes.length) ≤ quota.toNat ∧
        offset.toNat + bytes.length ≤ wordLimit ∧
        a.reserves (t.totalBut x.inode) (offset.toNat + bytes.length) = true) := by
  have hlength : t.lengthAt x.inode = data.length := lengthAt_of_node? hi
  have hadmits := h.admits_iff a x.inode (offset.toNat + bytes.length)
  simp only [memory_write_ok_iff, Tree.write_ok_iff]
  rw [hlength] at hadmits ⊢
  constructor
  · rintro ⟨_, _, -, ⟨hstop, data', locked', hi', hadmits', -⟩, -⟩ hgrow
    obtain ⟨rfl, rfl⟩ := file_unique hi hi'
    obtain ⟨hquota, hreserves⟩ := hadmits.1 (hadmits' hgrow)
    exact ⟨hquota, hstop, hreserves⟩
  · intro hgrown
    -- the end of bytes that lie within the file is no greater than its length, which fits
    have hstop : offset.toNat + bytes.length ≤ wordLimit := by
      by_cases hgrow : data.length < offset.toNat + bytes.length
      · exact (hgrown hgrow).2.1
      · exact (Nat.not_lt.1 hgrow).trans (hlength ▸ h.lengthAt_le_wordLimit x.inode)
    exact ⟨_, _, hopen, ⟨hstop, data, locked, hi,
      fun hgrow => hadmits.2 ⟨(hgrown hgrow).1, (hgrown hgrow).2.2⟩, rfl⟩, rfl⟩

end Accounted

namespace Session

open EngineHost.Storage

theorem accounted_run (quota : UInt64) (calls : List (Allocator × Call)) :
    ((start quota).run calls).tree.Accounted quota :=
  Steps.keeps Step.accounted (steps_run (start quota) calls) (accounted_empty quota)

/-- The file of an open access handle is there: it is locked, and a locked file is not removed. -/
theorem Sound.node?_of_open {s : Session} (hs : s.Sound) {k : Nat} {x : MemoryAccess}
    (hk : s.access? k = some x) (hopen : x.closed = false) :
    ∃ data, s.tree.node? x.inode = some (.file data true) := by
  obtain ⟨i, closed⟩ := x
  cases hopen
  exact (hs.held_iff i).2 ⟨k, holder_eq_some_iff.2 hk⟩

/-- **Quota accounting is exact**: after any calls, the used bytes are the sum of the lengths of the
files and within the quota, no file is longer than what is used, and no sum that a file is brought
to exceeds a word.  Through an open handle, a file can be brought to a greater length just when the
sum of the others and this length is within the quota, the end of what is written fits a word and
the memory is granted; nothing else is refused. -/
theorem run_accounting (quota : UInt64) (calls : List (Allocator × Call)) :
    let s := (start quota).run calls
    let t := s.tree
    (t.used = t.total ∧ t.used ≤ quota.toNat) ∧
    (∀ i, t.lengthAt i ≤ t.used) ∧
    (∀ a i length t', t.resize a i length = .ok t' →
      t.used - t.lengthAt i + length ≤ wordLimit) ∧
    ∀ k x, s.access? k = some x → x.closed = false → ∀ a : Allocator,
      (∀ size : UInt64, t.lengthAt x.inode < size.toNat →
        ((∃ u t', (memory a).truncate x size t = .ok u t') ↔
          t.totalBut x.inode + size.toNat ≤ quota.toNat ∧
          a.reserves (t.totalBut x.inode) size.toNat = true)) ∧
      (∀ size : UInt64, size.toNat ≤ t.lengthAt x.inode →
        ∃ u t', (memory a).truncate x size t = .ok u t') ∧
      (∀ (bytes : List UInt8) (offset : UInt64),
        t.lengthAt x.inode < offset.toNat + bytes.length →
        ((∃ n t', (memory a).write x bytes offset t = .ok n t') ↔
          t.totalBut x.inode + (offset.toNat + bytes.length) ≤ quota.toNat ∧
          offset.toNat + bytes.length ≤ wordLimit ∧
          a.reserves (t.totalBut x.inode) (offset.toNat + bytes.length) = true)) ∧
      (∀ (bytes : List UInt8) (offset : UInt64),
        offset.toNat + bytes.length ≤ t.lengthAt x.inode →
        ∃ n t', (memory a).write x bytes offset t = .ok n t') := by
  intro s t
  have ht : t.Accounted quota := accounted_run quota calls
  refine ⟨⟨ht.used_eq, ht.used_le⟩, ht.lengthAt_le,
    fun a i length t' hok => ht.resize_le_wordLimit hok, fun k x hk hopen a => ?_⟩
  obtain ⟨data, hi⟩ := (sound_run quota calls).node?_of_open hk hopen
  have htruncate := ht.truncate_ok_iff a hopen hi
  have hwrite := ht.write_ok_iff a hopen hi
  refine ⟨fun size hgrow => ?_, fun size hle => ?_, fun bytes offset hgrow => ?_,
    fun bytes offset hle => ?_⟩
  · rw [htruncate]
    exact ⟨fun h => h hgrow, fun h _ => h⟩
  · exact (htruncate size).2 fun hgrow => absurd hgrow (Nat.not_lt.2 hle)
  · rw [hwrite]
    exact ⟨fun h => h hgrow, fun h _ => h⟩
  · exact (hwrite bytes offset).2 fun hgrow => absurd hgrow (Nat.not_lt.2 hle)

end Session

end Tree

end EngineHost

import EngineHost.Proofs.Storage.Holding
import EngineHost.Proofs.Storage.Memory

/-!
# Locks of the tree

`Tree.locked` is the set of files whose lock is taken.  Of all that happens to a tree only taking
and giving up a lock touches it: a new node is not locked, a locked one cannot be removed, and the
bytes of a file change beside its lock.

* `Storage.Holding.memory` : the access handles of the storage in memory hold their files.
-/

namespace EngineHost

namespace Tree

/-- The files whose lock is taken. -/
def locked (t : Tree) : Set Inode := {i | ∃ data, t.node? i = some (.file data true)}

variable {t t' : Tree} {d i j : Inode} {name : String} {children : List (String × Inode)}
  {data data' : Content} {b b' : Bool} {a : Allocator}

theorem mem_locked : i ∈ t.locked ↔ ∃ data, t.node? i = some (.file data true) := Iff.rfl

theorem locked_empty (quota : UInt64) : (empty quota).locked = ∅ := by
  ext i
  refine ⟨?_, fun h => absurd h (Set.notMem_empty i)⟩
  rintro ⟨data, hi⟩
  cases i <;> cases hi

@[simp] theorem locked_charge (t : Tree) (used : Nat) : (t.charge used).locked = t.locked := rfl

/-- Other bytes beside the same lock. -/
theorem locked_setNode_same (hi : t.node? i = some (.file data b)) (data' : Content) :
    (t.setNode i (.file data' b)).locked = t.locked := by
  ext j
  simp only [mem_locked, node?_setNode hi]
  split_ifs with hj
  · subst hj; simp [hi]
  · rfl

theorem locked_linked (hd : t.node? d = some (.directory children)) (kind : EntryKind) :
    (t.linked d children name (.ofKind kind)).locked = t.locked := by
  ext j
  simp only [mem_locked, node?_linked hd]
  split_ifs with hnew hparent
  · subst hnew
    cases kind <;> simp [node?_nextInode, Node.ofKind, Node.emptyFile, Node.emptyDirectory]
  · subst hparent; simp [hd]
  · rfl

theorem locked_unlinked (hd : t.node? d = some (.directory children))
    (hr : Removable (t.node? i)) : (t.unlinked d children name i).locked = t.locked := by
  ext j
  simp only [mem_locked, node?_unlinked hd]
  split_ifs with hgone hparent
  · subst hgone
    generalize t.node? j = n at hr
    cases hr <;> simp
  · subst hparent; simp [hd]
  · rfl

theorem locked_resized (hi : t.node? i = some (.file data b)) (length : Nat) :
    (t.resized i data b length).locked = t.locked := by
  rw [resized, locked_charge, locked_setNode_same hi]

theorem locked_lookupOrCreate {create : Bool} {kind : EntryKind}
    (h : t.lookupOrCreate d name create kind = .ok (i, t')) : t'.locked = t.locked := by
  obtain ⟨children, hd, ⟨-, -, rfl⟩ | ⟨-, -, -, rfl⟩⟩ := lookupOrCreate_ok_iff.1 h
  · rfl
  · exact locked_linked hd kind

theorem locked_unlink (h : t.unlink d name = .ok t') : t'.locked = t.locked := by
  obtain ⟨children, hd, i, -, hr, rfl⟩ := unlink_ok_iff.1 h
  exact locked_unlinked hd hr

theorem locked_resize {length : Nat} (h : t.resize a i length = .ok t') :
    t'.locked = t.locked := by
  obtain ⟨data, b, hi, -, rfl⟩ := resize_ok_iff.1 h
  exact locked_resized hi length

theorem locked_write {bytes : List UInt8} {offset : Nat} (h : t.write a i bytes offset = .ok t') :
    t'.locked = t.locked := by
  obtain ⟨-, data, b, hi, -, rfl⟩ := write_ok_iff.1 h
  rw [written, locked_setNode_same (node?_reached hi _), reached]
  split_ifs
  · exact locked_resized hi _
  · rfl

/-- Locking takes a lock that was free. -/
theorem locked_lock (h : t.lock i = .ok t') : i ∉ t.locked ∧ t'.locked = insert i t.locked := by
  obtain ⟨data, hi, rfl⟩ := lock_ok_iff.1 h
  refine ⟨by simp [mem_locked, hi], ?_⟩
  ext j
  rw [Set.mem_insert_iff, mem_locked, mem_locked, node?_setNode hi]
  split_ifs with hj
  · simp [hj]
  · simp [hj]

/-- Unlocking gives the lock up. -/
theorem locked_unlock (t : Tree) (i : Inode) : (t.unlock i).locked = t.locked \ {i} := by
  ext j
  rw [Set.mem_sdiff, Set.mem_singleton_iff]
  obtain ⟨data, b, hi, h⟩ | ⟨hno, h⟩ := unlock_cases t i
  · rw [h, mem_locked, mem_locked, node?_setNode hi]
    split_ifs with hj
    · simp [hj]
    · simp [hj]
  · rw [h]
    refine ⟨fun hj => ⟨hj, ?_⟩, fun hj => hj.1⟩
    rintro rfl
    obtain ⟨data, hi⟩ := hj
    exact hno data true hi

end Tree

open EngineHost.Tree

/-- **The access handles of the storage in memory hold their files.** -/
def Storage.Holding.memory (a : Allocator) : (Storage.memory a).Holding Inode where
  target h := MemoryAccess.inode h
  isOpen h := !MemoryAccess.closed h
  held t := t.locked
  quiet kind hacquire hclose := by
    refine memory_keeps_of ?_
    cases kind with
    | directory | file => exact fun _ h => locked_lookupOrCreate h
    | remove => exact locked_unlink
    | acquire => exact absurd rfl hacquire
    | write => exact locked_write
    | truncate => exact locked_resize
    | close => exact absurd rfl hclose
    | root | read | flush | size => trivial
  acquire_ok {f t h t'} hok := by
    obtain ⟨hlock, rfl⟩ := memory_acquire_ok_iff.1 hok
    exact ⟨rfl, locked_lock hlock⟩
  acquire_error {f t e t'} herr := by
    obtain rfl := memory_failsClean a .acquire herr
    rfl
  giveUp {h} t hopen := by
    obtain ⟨i, closed⟩ : MemoryAccess := h
    cases closed
    · exact locked_unlock t i
    · cases hopen
  release {h} t hopen := by
    obtain ⟨i, closed⟩ : MemoryAccess := h
    cases closed
    · exact locked_unlock t i
    · cases hopen

end EngineHost

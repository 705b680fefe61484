import EngineHost.Proofs.Storage.Keeps
import EngineHost.Proofs.Tree.Node
import EngineHost.Storage.Memory

/-!
# The calls of the storage in memory

One statement for each call of `Storage.memory`: when it succeeds, with what answer, and the tree
it then leaves, all told by the functions of the tree.

* `Storage.memory_failsClean` : a call that fails leaves the tree as it was, whatever the call.
* `Storage.memory_keeps_of` : what the functions of the tree keep, the calls keep.
-/

namespace EngineHost

namespace Tree

variable {α : Type} {t t' : Tree} {e : StorageError} {x : α} {u : Unit}

theorem change_ok_iff {step : Tree → Except StorageError Tree} :
    change step t = .ok u t' ↔ step t = .ok t' := by
  rw [change]
  cases step t <;> simp

theorem change_error_iff {step : Tree → Except StorageError Tree} :
    change step t = .error e t' ↔ step t = .error e ∧ t' = t := by
  rw [change]
  cases step t <;> simp [eq_comm]

theorem changeWith_ok_iff {step : Tree → Except StorageError (α × Tree)} :
    changeWith step t = .ok x t' ↔ step t = .ok (x, t') := by
  rw [changeWith]
  cases step t <;> simp [Prod.ext_iff]

theorem changeWith_error_iff {step : Tree → Except StorageError (α × Tree)} :
    changeWith step t = .error e t' ↔ step t = .error e ∧ t' = t := by
  rw [changeWith]
  cases step t <;> simp [eq_comm]

theorem look_ok_iff {step : Tree → Except StorageError α} :
    look step t = .ok x t' ↔ step t = .ok x ∧ t' = t := by
  rw [look]
  cases step t <;> simp [eq_comm]

theorem look_error_iff {step : Tree → Except StorageError α} :
    look step t = .error e t' ↔ step t = .error e ∧ t' = t := by
  rw [look]
  cases step t <;> simp [eq_comm]

end Tree

theorem checkName_ok_iff {name : String} {u : Unit} :
    checkName name = .ok u ↔ isEntryName name = true := by
  rw [checkName]
  split <;> simp_all

theorem checkName_error_iff {name : String} {e : StorageError} :
    checkName name = .error e ↔ isEntryName name = false ∧ e = .invalidName name := by
  rw [checkName]
  split
  · rename_i hname
    simp [hname]
  · rename_i hname
    simp [hname, eq_comm (a := e)]

theorem MemoryAccess.checkOpen_ok_iff {h : MemoryAccess} {u : Unit} :
    h.checkOpen = .ok u ↔ h.closed = false := by
  rw [checkOpen]
  split <;> simp_all

namespace Storage

open EngineHost.Tree

variable {a : Allocator} {t t' : Tree} {d i f : Inode} {name : String} {create : Bool}
  {h h' : MemoryAccess} {e : StorageError} {u : Unit}

theorem memory_directory_ok_iff :
    (memory a).directory d name create t = .ok i t' ↔
      isEntryName name = true ∧ t.lookupOrCreate d name create .directory = .ok (i, t') := by
  simp only [memory, changeWith_ok_iff, except_bind_ok_iff, checkName_ok_iff, exists_const]

theorem memory_file_ok_iff :
    (memory a).file d name create t = .ok i t' ↔
      isEntryName name = true ∧ t.lookupOrCreate d name create .file = .ok (i, t') := by
  simp only [memory, changeWith_ok_iff, except_bind_ok_iff, checkName_ok_iff, exists_const]

theorem memory_directory_error_iff :
    (memory a).directory d name create t = .error e t' ↔
      ((isEntryName name = false ∧ e = .invalidName name) ∨
        (isEntryName name = true ∧ t.lookupOrCreate d name create .directory = .error e)) ∧
      t' = t := by
  simp only [memory, changeWith_error_iff, except_bind_error_iff, checkName_error_iff,
    checkName_ok_iff, exists_const]

theorem memory_file_error_iff :
    (memory a).file d name create t = .error e t' ↔
      ((isEntryName name = false ∧ e = .invalidName name) ∨
        (isEntryName name = true ∧ t.lookupOrCreate d name create .file = .error e)) ∧
      t' = t := by
  simp only [memory, changeWith_error_iff, except_bind_error_iff, checkName_error_iff,
    checkName_ok_iff, exists_const]

theorem memory_remove_ok_iff :
    (memory a).remove d name t = .ok u t' ↔
      isEntryName name = true ∧ t.unlink d name = .ok t' := by
  simp only [memory, change_ok_iff, except_bind_ok_iff, checkName_ok_iff, exists_const]

theorem memory_remove_error_iff :
    (memory a).remove d name t = .error e t' ↔
      ((isEntryName name = false ∧ e = .invalidName name) ∨
        (isEntryName name = true ∧ t.unlink d name = .error e)) ∧ t' = t := by
  simp only [memory, change_error_iff, except_bind_error_iff, checkName_error_iff,
    checkName_ok_iff, exists_const]

theorem memory_acquire_error_iff :
    (memory a).acquire f t = .error e t' ↔ t.lock f = .error e ∧ t' = t := by
  simp only [memory, changeWith_error_iff, except_bind_error_iff]
  simp [pure, Except.pure]

theorem memory_acquire_ok_iff :
    (memory a).acquire f t = .ok h t' ↔ t.lock f = .ok t' ∧ h = ⟨f, false⟩ := by
  simp only [memory, changeWith_ok_iff, except_bind_ok_iff, except_pure_ok_iff, Prod.mk.injEq]
  grind

theorem memory_read_ok_iff {count : Nat} {offset : UInt64} {chunk : Chunk} :
    (memory a).read h count offset t = .ok chunk t' ↔
      h.closed = false ∧ (∃ data, t.data h.inode = .ok data ∧
        chunk = .ofBytes (data.slice offset.toNat count)) ∧ t' = t := by
  simp only [memory, look_ok_iff, except_bind_ok_iff, except_pure_ok_iff,
    MemoryAccess.checkOpen_ok_iff, exists_const, and_assoc, eq_comm (a := chunk)]

theorem memory_write_ok_iff {bytes : List UInt8} {offset : UInt64} {n : Nat} :
    (memory a).write h bytes offset t = .ok n t' ↔
      h.closed = false ∧ t.write a h.inode bytes offset.toNat = .ok t' ∧ n = bytes.length := by
  simp only [memory, changeWith_ok_iff, except_bind_ok_iff, except_pure_ok_iff, Prod.mk.injEq,
    MemoryAccess.checkOpen_ok_iff, exists_const]
  grind

theorem memory_truncate_ok_iff {size : UInt64} :
    (memory a).truncate h size t = .ok u t' ↔
      h.closed = false ∧ t.resize a h.inode size.toNat = .ok t' := by
  simp only [memory, change_ok_iff, except_bind_ok_iff, MemoryAccess.checkOpen_ok_iff,
    exists_const]

theorem memory_flush_ok_iff :
    (memory a).flush h t = .ok u t' ↔ h.closed = false ∧ t' = t := by
  simp only [memory, look_ok_iff, MemoryAccess.checkOpen_ok_iff]

/-- Making bytes durable through an open handle never fails. -/
theorem memory_flush_of_open (hopen : h.closed = false) (t : Tree) :
    (memory a).flush h t = .ok () t :=
  memory_flush_ok_iff.2 ⟨hopen, rfl⟩

theorem memory_size_ok_iff {n : Nat} :
    (memory a).size h t = .ok n t' ↔
      h.closed = false ∧ (∃ data, t.data h.inode = .ok data ∧ n = data.length) ∧ t' = t := by
  simp only [memory, look_ok_iff, except_bind_ok_iff, except_pure_ok_iff,
    MemoryAccess.checkOpen_ok_iff, exists_const, and_assoc, eq_comm (a := n)]

/-- Closing an open handle unlocks its file; closing a closed one does nothing. -/
theorem memory_close (h : MemoryAccess) (t : Tree) :
    (memory a).close h t =
      (.ok (), { h with closed := true }, if h.closed then t else t.unlock h.inode) := by
  obtain ⟨i, closed⟩ := h
  cases closed <;> rfl

theorem memory_release (h : MemoryAccess) (t : Tree) :
    (memory a).release h t = if h.closed then t else t.unlock h.inode := by
  obtain ⟨i, closed⟩ := h
  cases closed <;> rfl

/-- **A call that fails leaves the tree as it was**, whatever the call and its handle. -/
theorem memory_failsClean (a : Allocator) (kind : CallKind) : (memory a).FailsClean kind := by
  cases kind with
  | root => exact fun h => by cases h
  | directory | file | acquire | write =>
    simp only [FailsClean, memory, changeWith_error_iff]
    exact fun h => h.2
  | remove | truncate =>
    simp only [FailsClean, memory, change_error_iff]
    exact fun h => h.2
  | read | flush | size =>
    simp only [FailsClean, memory, look_error_iff]
    exact fun h => h.2
  | close =>
    intro h t e herr
    obtain ⟨i, closed⟩ : MemoryAccess := h
    cases closed <;> cases herr

/-- What the functions of the tree that a kind of call uses do to the tree. -/
def FunctionsKeep (a : Allocator) (R : Tree → Tree → Prop) : CallKind → Prop
  | .directory | .file => ∀ {t d name create kind i t'}, isEntryName name = true →
    t.lookupOrCreate d name create kind = .ok (i, t') → R t t'
  | .remove => ∀ {t d name t'}, t.unlink d name = .ok t' → R t t'
  | .acquire => ∀ {t i t'}, t.lock i = .ok t' → R t t'
  | .write => ∀ {t i bytes offset t'}, t.write a i bytes offset = .ok t' → R t t'
  | .truncate => ∀ {t i length t'}, t.resize a i length = .ok t' → R t t'
  | .close => ∀ t i, R t (t.unlock i)
  | .root | .read | .flush | .size => True

/-- **A call does to the tree what the function behind it does**, or nothing. -/
theorem memory_keeps_of {R : Tree → Tree → Prop} [Std.Refl R] {kind : CallKind}
    (hR : FunctionsKeep a R kind) : (memory a).Keeps R kind := by
  have hclean := memory_failsClean a kind
  -- a call that only looks leaves the tree as it was
  have hlook : ∀ {t t' : Tree}, t' = t → R t t' := by
    rintro t _ rfl
    exact Std.Refl.refl _
  cases kind with
  | root => exact fun t => Std.Refl.refl t
  | directory =>
    refine fun d name create t => stateAfter_of_ok hclean fun i t' h => ?_
    obtain ⟨hname, h⟩ := memory_directory_ok_iff.1 h
    exact hR hname h
  | file =>
    refine fun d name create t => stateAfter_of_ok hclean fun i t' h => ?_
    obtain ⟨hname, h⟩ := memory_file_ok_iff.1 h
    exact hR hname h
  | remove =>
    exact fun d name t => stateAfter_of_ok hclean fun _ t' h => hR (memory_remove_ok_iff.1 h).2
  | acquire =>
    exact fun f t => stateAfter_of_ok hclean fun _ t' h => hR (memory_acquire_ok_iff.1 h).1
  | read =>
    exact fun h count offset t => stateAfter_of_ok hclean fun _ t' hok =>
      hlook (memory_read_ok_iff.1 hok).2.2
  | write =>
    exact fun h bytes offset t => stateAfter_of_ok hclean fun _ t' hok =>
      hR (memory_write_ok_iff.1 hok).2.1
  | truncate =>
    exact fun h size t => stateAfter_of_ok hclean fun _ t' hok =>
      hR (memory_truncate_ok_iff.1 hok).2
  | flush =>
    exact fun h t => stateAfter_of_ok hclean fun _ t' hok => hlook (memory_flush_ok_iff.1 hok).2
  | size =>
    exact fun h t => stateAfter_of_ok hclean fun _ t' hok => hlook (memory_size_ok_iff.1 hok).2.2
  | close =>
    refine ⟨fun h t => ?_, fun h t => ?_⟩
    all_goals
      obtain ⟨i, closed⟩ : MemoryAccess := h
      cases closed
      · exact hR t i
      · exact Std.Refl.refl t

end Storage

end EngineHost

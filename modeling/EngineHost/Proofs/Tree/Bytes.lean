import EngineHost.Proofs.Storage.Memory
import Mathlib.Tactic.SplitIfs

/-!
# The bytes of the files of a tree

A file keeps its bytes as runs; here they are plain lists, and what a write or a change of length
does to a list is said without runs: `Bytes.patch` and `Bytes.fit`.

* `Tree.setsBytes_write`, `Tree.setsBytes_resize` : these two give one file the bytes they say and
  leave all others.
* `Storage.memory_keepsBytes` : no other call changes the bytes of a file; the files it makes are
  empty.
-/

namespace EngineHost

namespace Bytes

/-- Bytes cut to a length, or filled up to it with zeros. -/
def fit (l : List UInt8) (n : Nat) : List UInt8 := l.take n ++ List.replicate (n - l.length) 0

/-- Bytes with others laid over them from an offset on, and with zeros in a gap before it. -/
def patch (l : List UInt8) (offset : Nat) (data : List UInt8) : List UInt8 :=
  l.take offset ++ List.replicate (offset - l.length) 0 ++ data ++ l.drop (offset + data.length)

@[simp] theorem fit_zero (l : List UInt8) : fit l 0 = [] := by simp [fit]

/-- Laying bytes over a file that was first filled up to a point within them is patching it. -/
theorem patch_fit {l data : List UInt8} {offset n : Nat} (hl : l.length ≤ n) (hstart : offset ≤ n)
    (hstop : n ≤ offset + data.length) :
    (fit l n).take offset ++ data ++ (fit l n).drop (offset + data.length) =
      patch l offset data := by
  have htake : l.take n = l := List.take_of_length_le hl
  have hgap : min (offset - l.length) (n - l.length) = offset - l.length := by omega
  have hlen : (fit l n).length ≤ offset + data.length := by
    rw [fit, htake, List.length_append, List.length_replicate]
    omega
  rw [List.drop_eq_nil_of_le hlen, patch, List.drop_eq_nil_of_le (Nat.le_trans hl hstop), fit,
    htake, List.take_append, List.take_replicate, hgap]

/-- Laying bytes over a file that reaches up to them is patching it. -/
theorem patch_of_le {l : List UInt8} {offset : Nat} (h : offset ≤ l.length) (data : List UInt8) :
    l.take offset ++ data ++ l.drop (offset + data.length) = patch l offset data := by
  rw [patch, Nat.sub_eq_zero_of_le h, List.replicate_zero, List.append_nil]

/-- Laying nothing over a file leaves it, unless there is a gap before it. -/
theorem patch_nil {l : List UInt8} {offset : Nat} (h : offset ≤ l.length) :
    patch l offset [] = l := by
  rw [← patch_of_le h, List.append_nil]
  exact List.take_append_drop offset l

example : patch [1, 2] 3 [9] = [1, 2, 0, 9] := by decide

end Bytes

open Bytes

theorem Content.toList_resize_eq_fit (c : Content) (n : Nat) :
    (c.resize n).toList = fit c.toList n := by
  rw [toList_resize, fit, length_toList]

namespace Tree

/-- The bytes of a file. -/
def bytes? (t : Tree) (i : Inode) : Option (List UInt8) :=
  match t.node? i with
  | some (.file data _) => some data.toList
  | _ => none

/-- No file gets other bytes, and a new one is empty. -/
def KeepsBytes (t t' : Tree) : Prop :=
  t.nextInode ≤ t'.nextInode ∧
    ∀ i l, t'.bytes? i = some l → t.bytes? i = some l ∨ (t.nextInode ≤ i ∧ l = [])

/-- One file gets the given bytes, and no other file changes. -/
def SetsBytes (i : Inode) (l : List UInt8) (t t' : Tree) : Prop :=
  t'.nextInode = t.nextInode ∧ ∀ j, t'.bytes? j = if j = i then some l else t.bytes? j

instance : Std.Refl KeepsBytes := ⟨fun _ => ⟨Nat.le_refl _, fun _ _ h => .inl h⟩⟩

instance : IsTrans Tree KeepsBytes where
  trans t t' t'' h h' := by
    refine ⟨Nat.le_trans h.1 h'.1, fun i l hl => ?_⟩
    rcases h'.2 i l hl with hl | ⟨hi, rfl⟩
    · exact h.2 i l hl
    · exact .inr ⟨Nat.le_trans h.1 hi, rfl⟩

variable {t t' : Tree} {d i j : Inode} {n : Node} {name : String} {l : List UInt8}
  {children : List (String × Inode)} {data data' : Content} {b b' : Bool} {a : Allocator}

theorem bytes?_eq_some_iff :
    t.bytes? i = some l ↔ ∃ data b, t.node? i = some (.file data b) ∧ data.toList = l := by
  unfold bytes?
  split <;> simp_all

theorem bytes?_of_file (h : t.node? i = some (.file data b)) : t.bytes? i = some data.toList :=
  bytes?_eq_some_iff.2 ⟨data, b, h, rfl⟩

theorem bytes?_congr (h : t'.node? i = t.node? i) : t'.bytes? i = t.bytes? i := by
  rw [bytes?, bytes?, h]

/-! ### The functions of the tree -/

theorem setsBytes_setNode (hi : t.node? i = some n) (data : Content) (b : Bool) :
    SetsBytes i data.toList t (t.setNode i (.file data b)) := by
  refine ⟨nextInode_setNode .., fun j => ?_⟩
  split_ifs with hj
  · exact bytes?_of_file (b := b) (by rw [node?_setNode hi, if_pos hj])
  · exact bytes?_congr (by rw [node?_setNode hi, if_neg hj])

theorem SetsBytes.keeps (h : SetsBytes i l t t') (hl : t.bytes? i = some l) :
    KeepsBytes t t' := by
  refine ⟨Nat.le_of_eq h.1.symm, fun j m hm => .inl ?_⟩
  rw [h.2] at hm
  split_ifs at hm with hj
  · rw [hj, hl, hm]
  · exact hm

/-- One file gets bytes, and then others. -/
theorem SetsBytes.trans {t'' : Tree} {m : List UInt8} (h : SetsBytes i l t t')
    (h' : SetsBytes i m t' t'') : SetsBytes i m t t'' := by
  refine ⟨h'.1.trans h.1, fun j => ?_⟩
  rw [h'.2, h.2]
  split_ifs <;> rfl

theorem keepsBytes_lookupOrCreate {create : Bool} {kind : EntryKind}
    (h : t.lookupOrCreate d name create kind = .ok (i, t')) : KeepsBytes t t' := by
  obtain ⟨children, hd, ⟨-, -, rfl⟩ | ⟨-, -, -, rfl⟩⟩ := lookupOrCreate_ok_iff.1 h
  · exact Std.Refl.refl _
  · refine ⟨by simp [linked], fun j l hl => ?_⟩
    rw [bytes?_eq_some_iff] at hl
    obtain ⟨data, b, hj, rfl⟩ := hl
    rw [node?_linked hd] at hj
    split_ifs at hj with hnew hparent
    · right
      cases kind <;> cases hj
      exact ⟨Nat.le_of_eq hnew.symm, Content.toList_empty⟩
    · cases hj
    · exact .inl (bytes?_of_file hj)

theorem keepsBytes_unlink (h : t.unlink d name = .ok t') : KeepsBytes t t' := by
  obtain ⟨children, hd, i, -, -, rfl⟩ := unlink_ok_iff.1 h
  refine ⟨by simp [unlinked], fun j l hl => .inl ?_⟩
  rw [bytes?_eq_some_iff] at hl
  obtain ⟨data, b, hj, rfl⟩ := hl
  rw [node?_unlinked hd] at hj
  split_ifs at hj
  · cases hj
  · exact bytes?_of_file hj

theorem keepsBytes_lock (h : t.lock i = .ok t') : KeepsBytes t t' := by
  obtain ⟨data, hi, rfl⟩ := lock_ok_iff.1 h
  exact (setsBytes_setNode hi data true).keeps (bytes?_of_file hi)

theorem keepsBytes_unlock (t : Tree) (i : Inode) : KeepsBytes t (t.unlock i) := by
  obtain ⟨data, b, hi, h⟩ | ⟨-, h⟩ := unlock_cases t i
  · rw [h]
    exact (setsBytes_setNode hi data false).keeps (bytes?_of_file hi)
  · rw [h]
    exact Std.Refl.refl t

theorem setsBytes_resized (hi : t.node? i = some (.file data b)) (length : Nat) :
    SetsBytes i (fit data.toList length) t (t.resized i data b length) := by
  rw [← Content.toList_resize_eq_fit]
  exact setsBytes_setNode hi _ b

theorem setsBytes_resize {length : Nat} (h : t.resize a i length = .ok t') :
    ∃ l, t.bytes? i = some l ∧ SetsBytes i (fit l length) t t' := by
  obtain ⟨data, b, hi, -, rfl⟩ := resize_ok_iff.1 h
  exact ⟨data.toList, bytes?_of_file hi, setsBytes_resized hi length⟩

/-- What a write lays over a file, made long enough first, patches it. -/
theorem toList_overwritten (data : Content) (bytes : List UInt8) (offset : Nat) :
    (overwritten data bytes offset).toList = patch data.toList offset bytes := by
  unfold overwritten
  split_ifs with hlen
  · rw [Content.toList_overlay, Content.toList_resize_eq_fit]
    refine patch_fit ?_ (Nat.le_add_right _ _) (Nat.le_refl _)
    rw [Content.length_toList]
    exact Nat.le_of_lt hlen
  · rw [Content.toList_overlay]
    exact patch_of_le (by rw [Content.length_toList]; omega) bytes

theorem setsBytes_write {bytes : List UInt8} {offset : Nat}
    (h : t.write a i bytes offset = .ok t') :
    ∃ l, t.bytes? i = some l ∧ SetsBytes i (patch l offset bytes) t t' := by
  obtain ⟨-, data, b, hi, -, rfl⟩ := write_ok_iff.1 h
  refine ⟨data.toList, bytes?_of_file hi, ?_⟩
  rw [← toList_overwritten]
  have hlast := setsBytes_setNode (node?_reached hi (offset + bytes.length))
    (overwritten data bytes offset) b
  unfold written
  unfold reached at hlast ⊢
  split_ifs at hlast ⊢ with hlen
  · exact (setsBytes_resized hi _).trans hlast
  · exact hlast

end Tree

open EngineHost.Tree

/-- **No call but writing and truncating changes the bytes of a file.** -/
theorem Storage.memory_keepsBytes (a : Allocator) (kind : CallKind) (hwrite : kind ≠ .write)
    (htruncate : kind ≠ .truncate) : (memory a).Keeps KeepsBytes kind := by
  refine memory_keeps_of ?_
  cases kind with
  | directory | file => exact fun _ h => keepsBytes_lookupOrCreate h
  | remove => exact keepsBytes_unlink
  | acquire => exact keepsBytes_lock
  | write => exact absurd rfl hwrite
  | truncate => exact absurd rfl htruncate
  | close => exact keepsBytes_unlock
  | root | read | flush | size => trivial

end EngineHost

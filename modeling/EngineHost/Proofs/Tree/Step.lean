import EngineHost.Proofs.Storage.Memory
import EngineHost.Storage.InPlace
import Mathlib.Logic.Relation

/-!
# The changes a tree undergoes

`Tree.Step` lists the ways in which a call of the storage in memory changes its tree: it links a
new node, unlinks a removable one, brings a file to a length, or puts other bytes of the same length
or another lock in the place of those of a file.  A property that every such change keeps holds of
every tree that calls lead to.

* `Storage.memory_keeps` : every call takes the tree along such changes, whatever handle it is made
  through and whether it succeeds or fails.
-/

namespace EngineHost

namespace Tree

/-- One change of a tree. -/
inductive Step : Tree → Tree → Prop where
  /-- A directory gets a new child under a name it does not hold. -/
  | link {t : Tree} {d : Inode} {children : List (String × Inode)} {name : String}
      (kind : EntryKind) : t.node? d = some (.directory children) →
      children.lookup name = none → isEntryName name = true →
      Step t (t.linked d children name (.ofKind kind))
  /-- A directory loses a child that may be removed. -/
  | unlink {t : Tree} {d i : Inode} {children : List (String × Inode)} {name : String} :
      t.node? d = some (.directory children) → children.lookup name = some i →
      Removable (t.node? i) → Step t (t.unlinked d children name i)
  /-- A file is brought to a length, a greater one only if it is admitted. -/
  | resize {t : Tree} {i : Inode} {data : Content} {locked : Bool} (a : Allocator)
      {length : Nat} : t.node? i = some (.file data locked) →
      (data.length < length → t.Admits a (t.used - data.length) length) →
      Step t (t.resized i data locked length)
  /-- A file gets other bytes of the same length, or another lock. -/
  | replace {t : Tree} {i : Inode} {data data' : Content} {locked locked' : Bool} :
      t.node? i = some (.file data locked) → data'.length = data.length →
      Step t (t.setNode i (.file data' locked'))

/-- Changes one after another. -/
abbrev Steps : Tree → Tree → Prop := Relation.ReflTransGen Step

/-- What every single change keeps, changes one after another keep. -/
theorem Steps.keeps {P : Tree → Prop} (hP : ∀ {t t'}, Step t t' → P t → P t') {t t' : Tree}
    (h : Steps t t') (ht : P t) : P t' := by
  induction h with
  | refl => exact ht
  | tail _ hstep ih => exact hP hstep ih

variable {t t' : Tree} {d i : Inode} {name : String} {a : Allocator}

theorem steps_lookupOrCreate {create : Bool} {kind : EntryKind} (hname : isEntryName name = true)
    (h : t.lookupOrCreate d name create kind = .ok (i, t')) : Steps t t' := by
  obtain ⟨children, hd, ⟨-, -, rfl⟩ | ⟨hl, -, -, rfl⟩⟩ := lookupOrCreate_ok_iff.1 h
  · exact .refl
  · exact .single (.link kind hd hl hname)

theorem steps_unlink (h : t.unlink d name = .ok t') : Steps t t' := by
  obtain ⟨children, hd, i, hl, hr, rfl⟩ := unlink_ok_iff.1 h
  exact .single (.unlink hd hl hr)

theorem steps_resize {length : Nat} (h : t.resize a i length = .ok t') : Steps t t' := by
  obtain ⟨data, locked, hi, hadmits, rfl⟩ := resize_ok_iff.1 h
  exact .single (.resize a hi hadmits)

/-- A write brings the file to its new length first; the bytes laid over it then fit. -/
theorem steps_write {bytes : List UInt8} {offset : Nat} (h : t.write a i bytes offset = .ok t') :
    Steps t t' := by
  obtain ⟨-, data, locked, hi, hadmits, rfl⟩ := write_ok_iff.1 h
  have hover : (overwritten data bytes offset).length =
      (if data.length < offset + bytes.length then data.resize (offset + bytes.length)
        else data).length := by
    rw [overwritten, Content.length_overlay]
    split_ifs with hlen
    · simp
    · omega
  have hreach : Steps t (t.reached i data locked (offset + bytes.length)) := by
    rw [reached]
    split_ifs with hlen
    · exact .single (.resize a hi hadmits)
    · exact .refl
  exact hreach.tail (.replace (node?_reached hi _) hover)

theorem steps_lock (h : t.lock i = .ok t') : Steps t t' := by
  obtain ⟨data, hi, rfl⟩ := lock_ok_iff.1 h
  exact .single (.replace hi rfl)

theorem steps_unlock (t : Tree) (i : Inode) : Steps t (t.unlock i) := by
  obtain ⟨data, locked, hi, h⟩ | ⟨-, h⟩ := unlock_cases t i
  · rw [h]; exact .single (.replace hi rfl)
  · rw [h]

end Tree

open EngineHost.Tree

/-- **Every call takes the tree along the changes of `Tree.Step`.** -/
theorem Storage.memory_keeps (a : Allocator) (kind : CallKind) :
    (Storage.memory a).Keeps Steps kind := by
  refine memory_keeps_of ?_
  cases kind with
  | directory | file => exact steps_lookupOrCreate
  | remove => exact steps_unlink
  | acquire => exact steps_lock
  | write => exact steps_write
  | truncate => exact steps_resize
  | close => exact steps_unlock
  | root | read | flush | size => trivial

open EngineHost.Storage in
/-- A call takes the tree along the changes of `Tree.Step`. -/
theorem TreeCall.steps_inMemory (a : Allocator) (c : TreeCall) (t : Tree) :
    Steps t (stateAfter (c.inMemory a t)) := by
  cases c with
  | directory d name create => exact memory_keeps a .directory d name create t
  | file d name create => exact memory_keeps a .file d name create t
  | remove d name => exact memory_keeps a .remove d name t
  | acquire f => exact memory_keeps a .acquire f t
  | read h count offset => exact memory_keeps a .read h count offset t
  | write h bytes offset => exact memory_keeps a .write h bytes offset t
  | truncate h length => exact memory_keeps a .truncate h length t
  | flush h => exact memory_keeps a .flush h t
  | size h => exact memory_keeps a .size h t
  | close h =>
    have hclose : stateAfter ((TreeCall.close h).inMemory a t) = ((memory a).close h t).2.2 := by
      obtain ⟨i, closed⟩ := h
      cases closed <;> rfl
    rw [hclose]
    exact (memory_keeps a .close).1 h t

end EngineHost

import EngineHost.Proofs.Tree.Naming
import EngineHost.Proofs.Tree.Session

/-!
# Handles on what was removed

A handle is the number of a node, and it may be kept after the node was removed.  Since numbers are
given out once, such a handle finds nothing from then on, whatever is made under the old name.

* `Tree.Gone.of_steps` : what was removed stays away.
* `Tree.Session.Sound.closed_of_gone` : an access handle that is open holds its file, so on a file
  that was removed there is none.
* `Tree.Session.run_removed` : after a removal, every call through a handle on the removed entry
  finds nothing and changes nothing.
-/

namespace EngineHost

namespace Tree

open EngineHost.Storage

/-- A node that was there was removed. -/
def Gone (t : Tree) (i : Inode) : Prop := i < t.nextInode ∧ t.node? i = none

variable {t t' : Tree} {d i : Inode} {name : String}

/-- **What was removed stays away.** -/
theorem Gone.of_steps (h : t.Gone i) (hs : Steps t t') : t'.Gone i := by
  obtain ⟨hnext, hkeeps⟩ := hs.keepsNames
  refine ⟨Nat.lt_of_lt_of_le h.1 hnext, ?_⟩
  cases hi : t'.node? i with
  | none => rfl
  | some n =>
    -- a node with an old number was there before
    obtain ⟨⟨m, hm⟩, -⟩ := hkeeps i h.1 ⟨n, hi⟩
    rw [h.2] at hm
    cases hm

/-- A child that is unlinked is gone. -/
theorem Grown.gone_of_unlink (ht : t.Grown) (hi : t.child? d name = some i)
    (h : t.unlink d name = .ok t') : t'.Gone i := by
  obtain ⟨children, hd, j, hl, -, rfl⟩ := unlink_ok_iff.1 h
  rw [child?_of_directory hd, hl] at hi
  obtain rfl := Option.some.inj hi
  have hlt : j < t.nextInode := (ht.entry_present ⟨children, hd, mem_of_lookup hl⟩).lt_nextInode
  exact ⟨by simpa [unlinked] using hlt, by rw [node?_unlinked hd, if_pos rfl]⟩

namespace Gone

theorem children (h : t.Gone i) : t.children i = .error .notFound := by
  rw [Tree.children, h.2]

theorem lookupOrCreate (h : t.Gone i) (name : String) (create : Bool) (kind : EntryKind) :
    t.lookupOrCreate i name create kind = .error .notFound := by
  rw [Tree.lookupOrCreate, h.children]
  rfl

theorem unlink (h : t.Gone i) (name : String) : t.unlink i name = .error .notFound := by
  rw [Tree.unlink, h.children]
  rfl

theorem lock (h : t.Gone i) : t.lock i = .error .notFound := by
  rw [Tree.lock, h.2]

end Gone

/-- A closed access handle answers nothing but that it is closed. -/
theorem memory_of_closed {h : MemoryAccess} (hclosed : h.closed = true) (a : Allocator)
    (t : Tree) :
    (∀ count offset, (memory a).read h count offset t = .error .invalidState t) ∧
    (∀ bytes offset, (memory a).write h bytes offset t = .error .invalidState t) ∧
    (∀ size, (memory a).truncate h size t = .error .invalidState t) ∧
    (memory a).flush h t = .error .invalidState t ∧
    (memory a).size h t = .error .invalidState t := by
  obtain ⟨i, closed⟩ := h
  cases hclosed
  exact ⟨fun _ _ => rfl, fun _ _ => rfl, fun _ => rfl, rfl, rfl⟩

namespace Session

variable {s : Session}

/-- On a file that was removed there is no open access handle: while one is open the file is
locked. -/
theorem Sound.closed_of_gone (hs : s.Sound) (hi : s.tree.Gone i) {k : Nat} {h : MemoryAccess}
    (hk : s.access? k = some h) (hinode : h.inode = i) : h.closed = true := by
  obtain ⟨j, closed⟩ := h
  subst hinode
  cases closed with
  | true => rfl
  | false =>
    obtain ⟨data, hdata⟩ := (hs.held_iff j).2 ⟨k, holder_eq_some_iff.2 hk⟩
    rw [hi.2] at hdata
    cases hdata

/-- **A handle on a removed entry never reaches a newer one.**  After an entry was removed, and
whatever calls follow, its number stands for nothing: a call under a permitted name through a
directory handle on it finds nothing, and so does taking the access handle of a file; nothing is
changed.  An access handle on it that was not released is closed, and a closed one answers nothing
but that. -/
theorem run_removed (quota : UInt64) (before after : List (Allocator × Call)) (a : Allocator)
    (place : Nat) (d i : Inode) (name : String) (t : Tree)
    (hd : ((start quota).run before).directories[place]? = some d)
    (hi : ((start quota).run before).tree.child? d name = some i)
    (hremove : (memory a).remove d name ((start quota).run before).tree = .ok () t) :
    let s := (((start quota).run before).step a (.remove place name)).run after
    ¬ s.tree.Present i ∧
    (∀ (a : Allocator) (name : String), isEntryName name = true →
      (∀ create, (memory a).directory i name create s.tree = .error .notFound s.tree) ∧
      (∀ create, (memory a).file i name create s.tree = .error .notFound s.tree) ∧
      (memory a).remove i name s.tree = .error .notFound s.tree) ∧
    (∀ a : Allocator, (memory a).acquire i s.tree = .error .notFound s.tree) ∧
    ∀ k h, s.access? k = some h → (h.inode = i → h.closed = true) ∧
      (h.closed = true → ∀ a : Allocator,
        (∀ count offset, (memory a).read h count offset s.tree = .error .invalidState s.tree) ∧
        (∀ bytes offset, (memory a).write h bytes offset s.tree = .error .invalidState s.tree) ∧
        (∀ size, (memory a).truncate h size s.tree = .error .invalidState s.tree) ∧
        (memory a).flush h s.tree = .error .invalidState s.tree ∧
        (memory a).size h s.tree = .error .invalidState s.tree) := by
  intro s
  have hgrown : ((start quota).run before).tree.Grown :=
    (steps_run (start quota) before).keeps Step.grown (grown_empty quota)
  have hstep : (((start quota).run before).step a (.remove place name)).tree = t := by
    rw [step, hd, through]
    exact congrArg stateAfter hremove
  have hgone : s.tree.Gone i := by
    refine Gone.of_steps ?_ (steps_run _ after)
    rw [hstep]
    exact hgrown.gone_of_unlink hi (memory_remove_ok_iff.1 hremove).2
  have hsound : s.Sound :=
    run_keeps (P := Sound) (fun a c hs => hs.step a c) ((sound_run quota before).step a _) after
  refine ⟨?_, fun a name hname => ⟨fun create => ?_, fun create => ?_, ?_⟩,
    fun a => ?_, fun k h hk => ⟨hsound.closed_of_gone hgone hk, fun hclosed a => ?_⟩⟩
  · rintro ⟨n, hn⟩
    rw [hgone.2] at hn
    cases hn
  · exact memory_directory_error_iff.2 ⟨.inr ⟨hname, hgone.lookupOrCreate name create _⟩, rfl⟩
  · exact memory_file_error_iff.2 ⟨.inr ⟨hname, hgone.lookupOrCreate name create _⟩, rfl⟩
  · exact memory_remove_error_iff.2 ⟨.inr ⟨hname, hgone.unlink name⟩, rfl⟩
  · exact memory_acquire_error_iff.2 ⟨hgone.lock, rfl⟩
  · exact memory_of_closed hclosed a s.tree

/-- A file is removed after its access handle was closed, and another one of the same name is made
and held: the old handles do not reach it. -/
theorem run_removed_remade :
    let a : Allocator := .addressSpace
    let s₀ := (start 10).run
      [(a, .root), (a, .file 0 "x" true), (a, .acquire 0), (a, .close 0)]
    let s := (s₀.step a (.remove 0 "x")).run [(a, .file 0 "x" true), (a, .acquire 1)]
    s₀.directories[0]? = some 0 ∧ s₀.tree.child? 0 "x" = some 1 ∧
      (∃ t, (memory a).remove (0 : Inode) "x" s₀.tree = .ok () t) ∧
      s.tree.child? 0 "x" = some 2 ∧ s.access? 1 = some ⟨2, false⟩ ∧
      (memory a).acquire (1 : Inode) s.tree = .error .notFound s.tree ∧
      s.access? 0 = some ⟨1, true⟩ ∧
      (memory a).size (⟨1, true⟩ : MemoryAccess) s.tree = .error .invalidState s.tree := by
  intro a s₀ s
  have hd : s₀.directories[0]? = some 0 := by decide +kernel
  have hi : s₀.tree.child? 0 "x" = some 1 := by decide +kernel
  obtain ⟨t, ht⟩ : ∃ t, (memory a).remove (0 : Inode) "x" s₀.tree = .ok () t := ⟨_, rfl⟩
  have hold : s.access? 0 = some ⟨1, true⟩ := by decide +kernel
  obtain ⟨-, -, hacquire, haccess⟩ := run_removed 10
    [(a, .root), (a, .file 0 "x" true), (a, .acquire 0), (a, .close 0)]
    [(a, .file 0 "x" true), (a, .acquire 1)] a 0 0 1 "x" t hd hi ht
  have hsize := ((haccess 0 ⟨1, true⟩ hold).2 rfl a).2.2.2.2
  exact ⟨hd, hi, ⟨t, ht⟩, by decide +kernel, by decide +kernel, hacquire a, hold, hsize⟩

end Session

end Tree

end EngineHost

import EngineHost.Proofs.Tree.Lock
import EngineHost.Proofs.Tree.Shape

/-!
# Sessions with a tree

A `Tree.Session` is a tree in use: the tree and every handle that was obtained on it.  A call is
made through one of these handles, told by its place, so also through a handle whose node was
removed meanwhile.  Every call comes with an allocator of its own, so that a call may be refused
the memory that an earlier one was granted.

* `Tree.Session.run_wellFormed` : the tree stays a tree, whatever calls are made.
* `Tree.Session.sound_run` : a file is locked when one access handle on it is open, and never are
  two open at once.
-/

namespace EngineHost

namespace Tree

/-- A tree and the handles obtained on it. -/
structure Session where
  tree : Tree
  directories : List Inode
  files : List Inode
  /-- The access handles; one that was released is gone. -/
  accesses : List (Option MemoryAccess)

/-- A storage call, with the place of the handle it is made through. -/
inductive Call where
  | root
  | directory (d : Nat) (name : String) (create : Bool)
  | file (d : Nat) (name : String) (create : Bool)
  | remove (d : Nat) (name : String)
  | acquire (f : Nat)
  | read (h : Nat) (count : Nat) (offset : UInt64)
  | write (h : Nat) (bytes : List UInt8) (offset : UInt64)
  | truncate (h : Nat) (size : UInt64)
  | flush (h : Nat)
  | size (h : Nat)
  | close (h : Nat)
  | release (h : Nat)

namespace Session

open EngineHost.Storage

/-- A tree that nobody has used yet. -/
def start (quota : UInt64) : Session := ⟨.empty quota, [], [], []⟩

/-- The access handle at a place that was not released. -/
def access? (s : Session) (k : Nat) : Option MemoryAccess := s.accesses[k]?.join

/-- What a call on a handle leaves of the tree; a call without a handle is not made. -/
def through {α β : Type} (s : Session) (handle : Option α) (x : α → StorageM Tree β) : Session :=
  match handle with
  | some h => { s with tree := stateAfter (x h s.tree) }
  | none => s

/-- A call that obtains a handle, and what is done with the handle. -/
def obtaining {α β : Type} (s : Session) (handle : Option α) (x : α → StorageM Tree β)
    (enter : β → Session → Session) : Session :=
  match handle with
  | some h =>
    match x h s.tree with
    | .ok b t => enter b { s with tree := t }
    | .error _ t => { s with tree := t }
  | none => s

def enterDirectory (d : Inode) (s : Session) : Session :=
  { s with directories := s.directories ++ [d] }

def enterFile (f : Inode) (s : Session) : Session := { s with files := s.files ++ [f] }

def enterAccess (h : MemoryAccess) (s : Session) : Session :=
  { s with accesses := s.accesses ++ [some h] }

/-- One call. -/
def step (s : Session) (a : Allocator) : Call → Session
  | .root => s.obtaining (some ()) (fun _ => (memory a).root) enterDirectory
  | .directory d name create =>
    s.obtaining s.directories[d]? (fun d => (memory a).directory d name create) enterDirectory
  | .file d name create =>
    s.obtaining s.directories[d]? (fun d => (memory a).file d name create) enterFile
  | .remove d name => s.through s.directories[d]? fun d => (memory a).remove d name
  | .acquire f => s.obtaining s.files[f]? (memory a).acquire enterAccess
  | .read h count offset => s.through (s.access? h) fun h => (memory a).read h count offset
  | .write h bytes offset => s.through (s.access? h) fun h => (memory a).write h bytes offset
  | .truncate h size => s.through (s.access? h) fun h => (memory a).truncate h size
  | .flush h => s.through (s.access? h) (memory a).flush
  | .size h => s.through (s.access? h) (memory a).size
  | .close k =>
    match s.access? k with
    | some h =>
      let (_, h, t) := (memory a).close h s.tree
      { s with tree := t, accesses := s.accesses.set k (some h) }
    | none => s
  | .release k =>
    match s.access? k with
    | some h =>
      { s with tree := (memory a).release h s.tree, accesses := s.accesses.set k none }
    | none => s

/-- Calls one after another. -/
def run (s : Session) (calls : List (Allocator × Call)) : Session :=
  calls.foldl (fun s c => s.step c.1 c.2) s

theorem run_concat (s : Session) (calls : List (Allocator × Call)) (a : Allocator) (c : Call) :
    s.run (calls ++ [(a, c)]) = (s.run calls).step a c := by
  rw [run, run, List.foldl_append]
  rfl

/-- What every call keeps, calls one after another keep. -/
theorem run_keeps {P : Session → Prop} (hP : ∀ {s} a c, P s → P (s.step a c)) {s : Session}
    (hs : P s) (calls : List (Allocator × Call)) : P (s.run calls) := by
  induction calls generalizing s with
  | nil => exact hs
  | cons c calls ih => exact ih (hP c.1 c.2 hs)

/-! ### The tree of a session -/

variable {s : Session} {a : Allocator} {α β : Type}

theorem tree_through (s : Session) (handle : Option α) (x : α → StorageM Tree β) :
    (s.through handle x).tree = s.tree ∨
      ∃ h, (s.through handle x).tree = stateAfter (x h s.tree) := by
  cases handle with
  | none => exact .inl rfl
  | some h => exact .inr ⟨h, rfl⟩

theorem tree_obtaining (s : Session) (handle : Option α) (x : α → StorageM Tree β)
    (enter : β → Session → Session) (henter : ∀ b s, (enter b s).tree = s.tree) :
    (s.obtaining handle x enter).tree = s.tree ∨
      ∃ h, (s.obtaining handle x enter).tree = stateAfter (x h s.tree) := by
  cases handle with
  | none => exact .inl rfl
  | some h =>
    refine .inr ⟨h, ?_⟩
    rw [obtaining]
    cases x h s.tree with
    | ok b t => exact henter b _
    | error e t => rfl

/-- What a call of a session makes of the tree, a call on the tree makes of it, or nothing does. -/
theorem tree_step (s : Session) (a : Allocator) (c : Call) :
    (s.step a c).tree = s.tree ∨
      ∃ c' : TreeCall, (s.step a c).tree = stateAfter (c'.inMemory a s.tree) := by
  cases c with
  | root => exact .inl rfl
  | directory d name create =>
    exact (s.tree_obtaining _ _ enterDirectory fun _ _ => rfl).imp_right fun ⟨i, h⟩ =>
      ⟨.directory i name create, h⟩
  | file d name create =>
    exact (s.tree_obtaining _ _ enterFile fun _ _ => rfl).imp_right fun ⟨i, h⟩ =>
      ⟨.file i name create, h⟩
  | remove d name =>
    exact (s.tree_through _ _).imp_right fun ⟨i, h⟩ => ⟨.remove i name, h⟩
  | acquire f =>
    exact (s.tree_obtaining _ _ enterAccess fun _ _ => rfl).imp_right fun ⟨i, h⟩ => ⟨.acquire i, h⟩
  | read k count offset =>
    exact (s.tree_through _ _).imp_right fun ⟨x, h⟩ => ⟨.read x count offset, h⟩
  | write k bytes offset =>
    exact (s.tree_through _ _).imp_right fun ⟨x, h⟩ => ⟨.write x bytes offset, h⟩
  | truncate k length =>
    exact (s.tree_through _ _).imp_right fun ⟨x, h⟩ => ⟨.truncate x length, h⟩
  | flush k => exact (s.tree_through _ _).imp_right fun ⟨x, h⟩ => ⟨.flush x, h⟩
  | size k => exact (s.tree_through _ _).imp_right fun ⟨x, h⟩ => ⟨.size x, h⟩
  | close k | release k =>
    rw [step]
    cases s.access? k with
    | none => exact .inl rfl
    | some x =>
      obtain ⟨i, closed⟩ := x
      exact .inr ⟨.close ⟨i, closed⟩, by cases closed <;> rfl⟩

theorem steps_step (s : Session) (a : Allocator) (c : Call) : Steps s.tree (s.step a c).tree := by
  obtain h | ⟨c', h⟩ := s.tree_step a c
  · rw [h]
  · rw [h]
    exact c'.steps_inMemory a s.tree

theorem steps_run (s : Session) (calls : List (Allocator × Call)) :
    Steps s.tree (s.run calls).tree :=
  run_keeps (P := fun s' => Steps s.tree s'.tree) (fun a c h => h.trans (steps_step _ a c)) .refl
    calls

/-- **The tree stays a tree**: after any calls, through handles of any age, the root is a directory,
every entry has a permitted name and leads to a node, and every node has a number that was given
out, one entry (but for the root, which needs none) and one path from the root. -/
theorem run_wellFormed (quota : UInt64) (calls : List (Allocator × Call)) :
    ((start quota).run calls).tree.WellFormed :=
  (Steps.keeps Step.grown (steps_run (start quota) calls) (grown_empty quota)).wellFormed

/-! ### Access handles -/

/-- The file that an access handle holds: the one it is on, until it is closed or released. -/
def holder (s : Session) (k : Nat) : Option Inode :=
  match s.access? k with
  | some ⟨i, false⟩ => some i
  | _ => none

theorem access?_enterAccess (s : Session) (h : MemoryAccess) (k : Nat) :
    (s.enterAccess h).access? k = if k = s.accesses.length then some h else s.access? k := by
  simp only [access?, enterAccess, List.getElem?_append, List.getElem?_singleton]
  split_ifs
  all_goals grind

theorem access?_length (s : Session) : s.access? s.accesses.length = none := by simp [access?]

/-- Putting what became of a handle in its place. -/
theorem access?_set {k : Nat} {h : MemoryAccess} (hk : s.access? k = some h) (t : Tree)
    (h' : Option MemoryAccess) (j : Nat) :
    ({ s with tree := t, accesses := s.accesses.set k h' } : Session).access? j =
      if j = k then h' else s.access? j := by
  have hlen : k < s.accesses.length := by
    by_contra hlen
    simp [access?, List.getElem?_eq_none (Nat.not_lt.1 hlen)] at hk
  by_cases hj : j = k
  · subst hj
    simp [access?, hlen]
  · simp [access?, hj, List.getElem?_set_ne (Ne.symm hj)]

theorem holder_eq_some_iff {k : Nat} {i : Inode} :
    s.holder k = some i ↔ s.access? k = some ⟨i, false⟩ := by
  rw [holder]
  split <;> simp_all

theorem holder_eq_of_access? {s' : Session} {k : Nat} (h : s'.access? k = s.access? k) :
    s'.holder k = s.holder k := by
  rw [holder, holder, h]

/-- The locks of the tree are those of the open access handles. -/
def Sound (s : Session) : Prop := Exclusive s.tree.locked s.holder

theorem Sound.through (hs : s.Sound) (handle : Option α) {x : α → StorageM Tree β}
    (hx : ∀ h t, (stateAfter (x h t)).locked = t.locked) : (s.through handle x).Sound := by
  cases handle with
  | none => exact hs
  | some h =>
    change Exclusive (stateAfter (x h s.tree)).locked s.holder
    rw [hx]
    exact hs

/-- Obtaining a handle on a directory or a file takes no lock. -/
theorem Sound.obtaining (hs : s.Sound) (handle : Option α) {x : α → StorageM Tree β}
    {enter : β → Session → Session} (hx : ∀ h t, (stateAfter (x h t)).locked = t.locked)
    (htree : ∀ b s, (enter b s).tree = s.tree)
    (haccesses : ∀ b s, (enter b s).accesses = s.accesses) :
    (s.obtaining handle x enter).Sound := by
  cases handle with
  | none => exact hs
  | some h =>
    have hlocked := hx h s.tree
    rw [Session.obtaining]
    cases hr : x h s.tree with
    | ok b t =>
      rw [hr, stateAfter_ok] at hlocked
      have hholder : (enter b { s with tree := t }).holder = s.holder := by
        funext k
        exact holder_eq_of_access? (by rw [access?, haccesses, access?])
      rw [Sound, htree, hholder, hlocked]
      exact hs
    | error e t =>
      rw [hr, stateAfter_error] at hlocked
      change Exclusive t.locked s.holder
      rw [hlocked]
      exact hs

theorem Sound.acquire (hs : s.Sound) (a : Allocator) (file : Option Inode) :
    (s.obtaining file (memory a).acquire enterAccess).Sound := by
  cases file with
  | none => exact hs
  | some f =>
    simp only [Session.obtaining]
    cases hr : (memory a).acquire f s.tree with
    | error e t =>
      obtain rfl := memory_failsClean a .acquire hr
      exact hs
    | ok h t =>
      obtain ⟨hlock, rfl⟩ := memory_acquire_ok_iff.1 hr
      obtain ⟨hfree, hlocked⟩ := locked_lock hlock
      change Exclusive t.locked _
      rw [hlocked]
      have hnew := access?_enterAccess { s with tree := t } ⟨f, false⟩
      -- the new handle stands behind the others, where there was none
      refine Exclusive.take (k := s.accesses.length) hs hfree ?_ (fun k hk => ?_) ?_
      · exact holder_eq_some_iff.2 (by rw [hnew, if_pos rfl])
      · exact holder_eq_of_access? (by rw [hnew, if_neg hk]; rfl)
      · rw [holder, access?_length]

/-- Ending the hold of a handle unlocks its file, if the handle was open. -/
theorem Sound.giveUp (hs : s.Sound) {k : Nat} {h : MemoryAccess} (hk : s.access? k = some h)
    {h' : Option MemoryAccess} (hclosed : ∀ i, h' ≠ some ⟨i, false⟩) {t : Tree}
    (ht : t = if h.closed then s.tree else s.tree.unlock h.inode) :
    ({ s with tree := t, accesses := s.accesses.set k h' } : Session).Sound := by
  subst ht
  have hset := access?_set hk (if h.closed then s.tree else s.tree.unlock h.inode) h'
  have hgone : ({ s with
      tree := if h.closed then s.tree else s.tree.unlock h.inode
      accesses := s.accesses.set k h' } : Session).holder k = none := by
    rw [Option.eq_none_iff_forall_ne_some]
    intro i hi
    rw [holder_eq_some_iff, hset, if_pos rfl] at hi
    exact hclosed i hi
  obtain ⟨i, closed⟩ := h
  cases closed with
  | false =>
    -- the handle held its file until now
    rw [Sound]
    simp only [Bool.false_eq_true, if_false, locked_unlock] at hgone hset ⊢
    exact Exclusive.giveUp hs (holder_eq_some_iff.2 hk) hgone fun j hj =>
      holder_eq_of_access? (by rw [hset, if_neg hj])
  | true =>
    -- a closed handle held nothing, so nothing changes
    have hheld : s.holder k = none := by rw [holder, hk]
    have hsame : ({ s with
        tree := s.tree
        accesses := s.accesses.set k h' } : Session).holder = s.holder := by
      funext j
      by_cases hj : j = k
      · subst hj; rw [hheld]; exact hgone
      · exact holder_eq_of_access? (by rw [access?_set hk, if_neg hj])
    change Exclusive s.tree.locked _
    exact hsame ▸ hs

theorem Sound.step (hs : s.Sound) (a : Allocator) (c : Call) : (s.step a c).Sound := by
  have hquiet := (Storage.Holding.memory a).quiet
  cases c with
  | root =>
    exact hs.obtaining _ (fun _ => hquiet .root nofun nofun) (fun _ _ => rfl) fun _ _ => rfl
  | directory d name create =>
    exact hs.obtaining _ (fun d => hquiet .directory nofun nofun d name create) (fun _ _ => rfl)
      fun _ _ => rfl
  | file d name create =>
    exact hs.obtaining _ (fun d => hquiet .file nofun nofun d name create) (fun _ _ => rfl)
      fun _ _ => rfl
  | remove d name => exact hs.through _ fun d => hquiet .remove nofun nofun d name
  | acquire f => exact hs.acquire a _
  | read h count offset => exact hs.through _ fun h => hquiet .read nofun nofun h count offset
  | write h bytes offset => exact hs.through _ fun h => hquiet .write nofun nofun h bytes offset
  | truncate h size => exact hs.through _ fun h => hquiet .truncate nofun nofun h size
  | flush h => exact hs.through _ (hquiet .flush nofun nofun)
  | size h => exact hs.through _ (hquiet .size nofun nofun)
  | close k =>
    rw [Session.step]
    split
    · rename_i h hk
      simp only [memory_close]
      exact hs.giveUp hk (fun i => by simp) rfl
    · exact hs
  | release k =>
    rw [Session.step]
    split
    · rename_i h hk
      exact hs.giveUp hk (fun i => by simp) (memory_release h s.tree)
    · exact hs

theorem sound_start (quota : UInt64) : (start quota).Sound where
  held_iff i := by
    show i ∈ (empty quota).locked ↔ _
    rw [locked_empty]
    refine ⟨fun h => absurd h (Set.notMem_empty i), ?_⟩
    rintro ⟨k, hk⟩
    rw [holder_eq_some_iff] at hk
    cases hk
  unique {k k' i} hk _ := by
    rw [holder_eq_some_iff] at hk
    cases hk

/-- **Access handles are exclusive**: after any calls a file is locked when one handle on it is
open, and never are two. -/
theorem sound_run (quota : UInt64) (calls : List (Allocator × Call)) :
    ((start quota).run calls).Sound :=
  run_keeps (P := Sound) (fun a c hs => hs.step a c) (sound_start quota) calls

end Session

end Tree

end EngineHost

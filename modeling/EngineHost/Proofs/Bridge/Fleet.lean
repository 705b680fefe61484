import EngineHost.Proofs.Bridge.Operation
import EngineHost.Proofs.Lookup
import Mathlib.Logic.Function.Basic

/-!
# Fleets of bridges

A `Fleet S` is any number of bridges that share the storage `S`.  Bridges come and go, and each
operation is made on one of them.

* `Fleet.run_keeps` : what every single step keeps, a run keeps.
* `Bridge.Numbered` : the descriptors of a bridge are different numbers, all of them below the one
  that comes next, and every operation keeps them so (`Bridge.Numbered.perform`).
-/

namespace EngineHost

variable {σ α : Type} {S : Storage σ}

/-! ### Descriptors -/

namespace Bridge

/-- The descriptors of a bridge count up from 1. -/
structure Numbered (b : Bridge S) : Prop where
  distinct : (b.files.map Prod.fst).Nodup
  pos : ∀ {fd}, fd ∈ b.files.map Prod.fst → 0 < fd
  lt_next : ∀ {fd}, fd ∈ b.files.map Prod.fst → fd < b.nextFd
  next_pos : 0 < b.nextFd
  next_le : b.nextFd ≤ lastFd

variable {b b' : Bridge S} {fd : Int} {file : OpenFile S}

theorem numbered_new : (new : Bridge S).Numbered where
  distinct := List.nodup_nil
  pos h := by cases h
  lt_next h := by cases h
  next_pos := Int.one_pos
  next_le := by
    show (1 : Int) ≤ 0x7fffffff
    decide

/-- The next descriptor is not in use. -/
theorem Numbered.file?_nextFd (h : b.Numbered) : b.file? b.nextFd = none := by
  cases hl : b.file? b.nextFd with
  | none => rfl
  | some file =>
    have hmem : b.nextFd ∈ b.files.map Prod.fst := List.mem_map.2 ⟨_, mem_of_lookup hl, rfl⟩
    exact absurd (h.lt_next hmem) (Int.lt_irrefl _)

theorem file?_entered (b : Bridge S) (file : OpenFile S) (fd : Int) :
    (b.entered file).file? fd = if fd = b.nextFd then some file else b.file? fd := by
  unfold file? entered
  split_ifs with h
  · subst h; exact List.lookup_cons_self
  · exact lookup_cons_of_ne h

theorem file?_left (b : Bridge S) (fd fd' : Int) :
    (b.left fd).file? fd' = if fd' = fd then none else b.file? fd' :=
  lookup_leaveOut b.files fd fd'

theorem Numbered.of_same (h : b.Numbered) (hf : b'.files = b.files)
    (hn : b'.nextFd = b.nextFd) : b'.Numbered := by
  refine ⟨?_, ?_, ?_, ?_, ?_⟩
  · rw [hf]; exact h.distinct
  · rw [hf]; exact h.pos
  · rw [hf, hn]; exact h.lt_next
  · rw [hn]; exact h.next_pos
  · rw [hn]; exact h.next_le

theorem Numbered.entered (h : b.Numbered) (hfd : b.nextFd < lastFd) (file : OpenFile S) :
    (b.entered file).Numbered where
  distinct := by
    refine List.nodup_cons.2 ⟨fun hmem => ?_, h.distinct⟩
    exact absurd (h.lt_next hmem) (Int.lt_irrefl _)
  pos hmem := by
    rcases List.mem_cons.1 hmem with rfl | hmem
    · exact h.next_pos
    · exact h.pos hmem
  lt_next hmem := by
    change _ < b.nextFd + 1
    rcases List.mem_cons.1 hmem with rfl | hmem
    · exact Int.lt_succ _
    · exact Int.lt_trans (h.lt_next hmem) (Int.lt_succ _)
  next_pos := Int.lt_trans h.next_pos (Int.lt_succ _)
  next_le := hfd

theorem Numbered.left (h : b.Numbered) (fd : Int) : (b.left fd).Numbered := by
  have hsub : ∀ {fd'}, fd' ∈ (b.left fd).files.map Prod.fst → fd' ∈ b.files.map Prod.fst := by
    intro fd' hmem
    exact (List.filter_sublist.map Prod.fst).subset hmem
  exact ⟨nodup_keys_leaveOut h.distinct fd, fun hmem => h.pos (hsub hmem),
    fun hmem => h.lt_next (hsub hmem), h.next_pos, h.next_le⟩

end Bridge

/-! ### Fleets -/

/-- Bridges over one storage. -/
structure Fleet (S : Storage σ) where
  bridges : Nat → Option (Bridge S)
  store : σ

/-- What happens to a fleet. -/
inductive FleetOp where
  /-- A new bridge takes a place; the one that had it goes. -/
  | create (k : Nat)
  /-- A bridge goes. -/
  | drop (k : Nat)
  /-- An operation of a bridge. -/
  | act (k : Nat) (op : BridgeOp)

/-- Whether a step leaves a descriptor of a bridge alone: it neither closes the descriptor nor takes
the place of the bridge. -/
def FleetOp.Spares (k : Nat) (fd : Int) : FleetOp → Prop
  | .create j => j ≠ k
  | .drop j => j ≠ k
  | .act j (.closeFile fd') => ¬ (j = k ∧ fd' = fd)
  | .act _ _ => True

open Bridge

namespace Fleet

/-- A storage without bridges. -/
def start (s : σ) : Fleet S := ⟨fun _ => none, s⟩

/-- The open file of a descriptor of a bridge. -/
def file? (f : Fleet S) (k : Nat) (fd : Int) : Option (OpenFile S) :=
  (f.bridges k).bind fun b => b.file? fd

/-- The fleet with a bridge in a place, over a storage as it is then. -/
def put (f : Fleet S) (k : Nat) (b : Bridge S) (s : σ) : Fleet S :=
  ⟨Function.update f.bridges k (some b), s⟩

/-- A step of a bridge, if there is one in the place. -/
def act (f : Fleet S) (k : Nat) (x : BridgeM S α) : Option (α × Fleet S) :=
  (f.bridges k).map fun b =>
    let r := x (b, f.store)
    (r.1, f.put k r.2.1 r.2.2)

/-- The bridge in a place goes, and gives its files up. -/
def drop (f : Fleet S) (k : Nat) : Fleet S :=
  match f.bridges k with
  | some b => ⟨Function.update f.bridges k none, b.dispose f.store⟩
  | none => f

/-- A new bridge takes a place. -/
def create (f : Fleet S) (k : Nat) : Fleet S := (f.drop k).put k .new (f.drop k).store

/-- One step. -/
def step (f : Fleet S) : FleetOp → Fleet S
  | .create k => f.create k
  | .drop k => f.drop k
  | .act k op => ((f.act k op.perform).map Prod.snd).getD f

/-- Steps one after another. -/
def run (f : Fleet S) (ops : List FleetOp) : Fleet S := ops.foldl step f

/-- What every step keeps, a run keeps. -/
theorem run_keeps {P : Fleet S → Prop} (hP : ∀ {f} op, P f → P (f.step op)) {f : Fleet S}
    (hf : P f) (ops : List FleetOp) : P (f.run ops) := by
  induction ops generalizing f with
  | nil => exact hf
  | cons op ops ih => exact ih (hP op hf)

variable {f : Fleet S} {k j : Nat} {b b' : Bridge S} {s : σ} {fd : Int}

theorem file?_of_bridge (hb : f.bridges k = some b) (fd : Int) :
    f.file? k fd = b.file? fd := by
  rw [file?, hb]
  rfl

theorem file?_put (f : Fleet S) (k : Nat) (b : Bridge S) (s : σ) (j : Nat) (fd : Int) :
    (f.put k b s).file? j fd = if j = k then b.file? fd else f.file? j fd := by
  unfold file? put
  split_ifs with h
  · subst h; simp
  · simp [Function.update_of_ne h]

theorem file?_eq_some_iff {file : OpenFile S} :
    f.file? k fd = some file ↔ ∃ b, f.bridges k = some b ∧ b.file? fd = some file :=
  Option.bind_eq_some_iff

/-- A step in a place without a bridge is not made. -/
theorem act_eq_some_iff {x : BridgeM S α} {a : α} {f' : Fleet S} :
    f.act k x = some (a, f') ↔
      ∃ b, f.bridges k = some b ∧ a = (x (b, f.store)).1 ∧
        f' = f.put k (x (b, f.store)).2.1 (x (b, f.store)).2.2 := by
  unfold act
  cases f.bridges k with
  | none => simp
  | some b => simp [eq_comm]

theorem step_act (hb : f.bridges k = some b) (op : BridgeOp) :
    f.step (.act k op) =
      f.put k (op.perform (b, f.store)).2.1 (op.perform (b, f.store)).2.2 := by
  unfold step act
  simp [hb]

theorem step_act_none (hb : f.bridges k = none) (op : BridgeOp) : f.step (.act k op) = f := by
  unfold step act
  simp [hb]

/-- A step in a place with a bridge is made. -/
theorem act_of_bridge (hb : f.bridges k = some b) (x : BridgeM S α) :
    f.act k x = some ((x (b, f.store)).1, f.put k (x (b, f.store)).2.1 (x (b, f.store)).2.2) :=
  act_eq_some_iff.2 ⟨b, hb, rfl, rfl⟩

/-- A step that leaves its bridge leaves all bridges. -/
theorem bridges_put (hb : f.bridges k = some b) (s : σ) : (f.put k b s).bridges = f.bridges := by
  rw [put, ← hb, Function.update_eq_self]

/-- A step that leaves its bridge and the storage leaves the fleet. -/
theorem put_self (hb : f.bridges k = some b) : f.put k b f.store = f :=
  congrArg (Fleet.mk · f.store) (bridges_put hb f.store)

/-- The bridges that are left after one went. -/
theorem bridges_drop (h : (f.drop k).bridges j = some b) : f.bridges j = some b := by
  unfold drop at h
  cases hb : f.bridges k with
  | none => rwa [hb] at h
  | some c =>
    simp only [hb, Function.update_apply] at h
    split_ifs at h
    exact h

/-- The open files that are left after a bridge went. -/
theorem file?_drop (f : Fleet S) (k j : Nat) (fd : Int) :
    (f.drop k).file? j fd = if j = k then none else f.file? j fd := by
  unfold file? drop
  cases hb : f.bridges k with
  | none =>
    split_ifs with hj
    · rw [hj, hb]; rfl
    · rfl
  | some b =>
    split_ifs with hj
    · simp [hj]
    · simp [Function.update_of_ne hj]

/-- What new bridges have and every operation keeps, all bridges have after a step. -/
theorem bridges_step {P : Bridge S → Prop} (hnew : P .new)
    (hop : ∀ (op : BridgeOp) {w : Bridge S × σ}, P w.1 → P (op.perform w).2.1)
    (hf : ∀ {k b}, f.bridges k = some b → P b) (op : FleetOp)
    (hb : (f.step op).bridges j = some b) : P b := by
  cases op with
  | create k =>
    simp only [step, create, put, Function.update_apply] at hb
    split_ifs at hb
    · exact Option.some.inj hb ▸ hnew
    · exact hf (bridges_drop hb)
  | drop k => exact hf (bridges_drop hb)
  | act k op =>
    cases hk : f.bridges k with
    | none =>
      rw [step_act_none hk] at hb
      exact hf hb
    | some c =>
      rw [step_act hk] at hb
      simp only [put, Function.update_apply] at hb
      split_ifs at hb
      · exact Option.some.inj hb ▸ hop op (hf hk)
      · exact hf hb

/-- A file that is open after a step was open before, or the step has opened it. -/
theorem file?_step {file : OpenFile S} {op : FleetOp} (h : (f.step op).file? k fd = some file) :
    f.file? k fd = some file ∨ ∃ b path flags x s₁ s₂, f.bridges k = some b ∧
      op = .act k (.openFile path flags) ∧
      locate path (.ofWord flags) (b, f.store) = .ok x (b, s₁) ∧
      S.acquire x.1 s₁ = .ok file.handle s₂ ∧
      prepare file.handle (.ofWord flags) (b, s₂) = .ok () (b, (f.step op).store) ∧
      file.path = x.2 := by
  cases op with
  | create j =>
    simp only [step, create, file?_put, file?_drop] at h
    split_ifs at h
    · cases h
    · exact .inl h
  | drop j =>
    simp only [step, file?_drop] at h
    split_ifs at h
    exact .inl h
  | act j op =>
    cases hb : f.bridges j with
    | none =>
      rw [step_act_none hb] at h
      exact .inl h
    | some b =>
      rw [step_act hb] at h ⊢
      rw [file?_put] at h
      split_ifs at h with hk
      · subst hk
        rw [file?_of_bridge hb]
        have hleaves := op.perform_leaves b f.store
        generalize (op.perform (b, f.store)).2 = w at h hleaves ⊢
        cases hleaves with
        | same hfiles =>
          rw [Bridge.file?, hfiles] at h
          exact .inl h
        | entered hl ha hp =>
          rw [file?_entered] at h
          split_ifs at h
          · cases h
            exact .inr ⟨b, _, _, _, _, _, hb, rfl, hl, ha, hp, rfl⟩
          · exact .inl h
        | left =>
          rw [file?_left] at h
          split_ifs at h
          exact .inl h
      · exact .inl h

/-- A file stays open until its descriptor is closed or its bridge goes. -/
theorem file?_step_of_spares {file : OpenFile S} {op : FleetOp} (hop : op.Spares k fd)
    (hnum : ∀ {b}, f.bridges k = some b → b.Numbered) (h : f.file? k fd = some file) :
    (f.step op).file? k fd = some file := by
  cases op with
  | create j =>
    have hne : k ≠ j := Ne.symm hop
    rw [step, create, file?_put, if_neg hne, file?_drop, if_neg hne, h]
  | drop j => rw [step, file?_drop, if_neg (Ne.symm hop), h]
  | act j op =>
    cases hb : f.bridges j with
    | none => rwa [step_act_none hb]
    | some b =>
      rw [step_act hb, file?_put]
      split_ifs with hk
      · subst hk
        rw [file?_of_bridge hb] at h
        have hleaves := op.perform_leaves b f.store
        generalize (op.perform (b, f.store)).2 = w at hleaves ⊢
        cases hleaves with
        | same hfiles => rwa [Bridge.file?, hfiles]
        | entered =>
          -- the number of a new file is not in use
          have hne : fd ≠ b.nextFd := by
            rintro rfl
            rw [(hnum hb).file?_nextFd] at h
            cases h
          rw [file?_entered, if_neg hne, h]
        | left =>
          rw [file?_left, if_neg fun hfd => hop ⟨rfl, hfd.symm⟩, h]
      · exact h

/-- A step does to the storage what the calls do to it. -/
theorem step_keeps {R : σ → σ → Prop} [Std.Refl R] [IsTrans σ R] (hk : ∀ kind, S.Keeps R kind)
    (f : Fleet S) (op : FleetOp) : R f.store (f.step op).store := by
  have hdrop : ∀ k, R f.store (f.drop k).store := by
    intro k
    unfold drop
    cases f.bridges k with
    | none => exact Std.Refl.refl f.store
    | some b => exact dispose_moves (hk .close) b f.store
  cases op with
  | create k => exact hdrop k
  | drop k => exact hdrop k
  | act k op =>
    cases hb : f.bridges k with
    | none => rw [step_act_none hb]; exact Std.Refl.refl f.store
    | some b => rw [step_act hb]; exact op.perform_keeps (fun kind _ => hk kind) (b, f.store)

end Fleet

end EngineHost

import EngineHost.Proofs.Tree.Altered
import EngineHost.Proofs.Tree.Session

/-!
# Access handles and the files they hold

An access handle and its file know each other by the number of the node and by one lock only.  Which
handles there are is told here by the calls that were made: `Tree.Session.Unended` says that a
handle was created and neither closed nor released since.

* `Tree.Session.holder_step_iff` : what one call makes of who holds what.
* `Tree.Session.holder_run_iff` : hence after any calls the holders are the handles that did not
  end.
* `Tree.Session.run_handles` : they are one to one with the locked files, what they are on is there,
  and a handle that ended takes nothing from another one.

Removing an entry and making another of its name never bring a handle to a wrong file: a locked file
cannot be removed, and numbers are not used again.
-/

namespace EngineHost

namespace Tree

namespace Session

open EngineHost.Storage

variable {α β : Type}

/-! ### One call -/

/-- A call creates an access handle on a file, in a place. -/
def Creates (s : Session) (a : Allocator) (c : Call) (k : Nat) (i : Inode) : Prop :=
  ∃ f t, c = .acquire f ∧ k = s.accesses.length ∧ s.files[f]? = some i ∧
    (memory a).acquire i s.tree = .ok ⟨i, false⟩ t

/-- A call ends the hold of the access handle in a place. -/
def Ends (c : Call) (k : Nat) : Prop := c = .close k ∨ c = .release k

theorem accesses_through (s : Session) (handle : Option α) (x : α → StorageM Tree β) :
    (s.through handle x).accesses = s.accesses := by
  cases handle <;> rfl

theorem accesses_obtaining (s : Session) (handle : Option α) (x : α → StorageM Tree β)
    {enter : β → Session → Session} (henter : ∀ b s, (enter b s).accesses = s.accesses) :
    (s.obtaining handle x enter).accesses = s.accesses := by
  cases handle with
  | none => rfl
  | some h =>
    rw [obtaining]
    cases x h s.tree with
    | ok b t => exact henter b _
    | error e t => rfl

/-- What a call makes of the access handles. -/
inductive Turn (s : Session) (a : Allocator) : Call → List (Option MemoryAccess) → Prop
  /-- One is created, behind the others. -/
  | created {f : Nat} {i : Inode} {t : Tree} : s.files[f]? = some i →
      (memory a).acquire i s.tree = .ok ⟨i, false⟩ t →
      Turn s a (.acquire f) (s.accesses ++ [some ⟨i, false⟩])
  /-- One ends: it is closed, or it is gone. -/
  | ended {c : Call} {k : Nat} {h : MemoryAccess} {h' : Option MemoryAccess} :
      (∀ j, Ends c j ↔ j = k) → s.access? k = some h → (∀ i, h' ≠ some ⟨i, false⟩) →
      Turn s a c (s.accesses.set k h')
  /-- They stay as they are. -/
  | same {c : Call} : (∀ k i, ¬ s.Creates a c k i) → (∀ k, Ends c k → s.access? k = none) →
      Turn s a c s.accesses

theorem not_creates {s : Session} {a : Allocator} {c : Call} (hc : ∀ f, c ≠ .acquire f) (k : Nat)
    (i : Inode) : ¬ s.Creates a c k i := by
  rintro ⟨f, _, rfl, -⟩
  exact hc f rfl

theorem turn_step (s : Session) (a : Allocator) (c : Call) : s.Turn a c (s.step a c).accesses := by
  have hother {c : Call} {s' : Session} (hs : s'.accesses = s.accesses)
      (hcreate : ∀ f, c ≠ .acquire f) (hend : ∀ k, ¬ Ends c k) : s.Turn a c s'.accesses := by
    rw [hs]
    exact .same (not_creates hcreate) fun k hk => absurd hk (hend k)
  cases c with
  | root | directory | file =>
    exact hother (s.accesses_obtaining _ _ fun _ _ => rfl) (by simp) fun k => by simp [Ends]
  | remove | read | write | truncate | flush | size =>
    exact hother (s.accesses_through _ _) (by simp) fun k => by simp [Ends]
  | acquire f =>
    rw [step]
    cases hf : s.files[f]? with
    | none =>
      refine .same ?_ fun k hk => absurd hk (by simp [Ends])
      rintro k i ⟨_, _, ⟨⟩, -, hi, -⟩
      rw [hf] at hi
      cases hi
    | some i =>
      simp only [obtaining]
      cases hr : (memory a).acquire i s.tree with
      | ok h t =>
        obtain ⟨-, rfl⟩ := memory_acquire_ok_iff.1 hr
        exact .created hf hr
      | error e t =>
        refine .same ?_ fun k hk => absurd hk (by simp [Ends])
        rintro k j ⟨_, _, ⟨⟩, -, hi, hok⟩
        obtain rfl := Option.some.inj (hf.symm.trans hi)
        rw [hr] at hok
        cases hok
  | close k =>
    have hend : ∀ j, Ends (.close k) j ↔ j = k := fun j => by simp [Ends, eq_comm]
    rw [step]
    cases hk : s.access? k with
    | none => exact .same (not_creates (by simp)) fun j hj => (hend j).1 hj ▸ hk
    | some h => exact .ended hend hk fun i => by simp [memory_close]
  | release k =>
    have hend : ∀ j, Ends (.release k) j ↔ j = k := fun j => by simp [Ends, eq_comm]
    rw [step]
    cases hk : s.access? k with
    | none => exact .same (not_creates (by simp)) fun j hj => (hend j).1 hj ▸ hk
    | some h => exact .ended hend hk (by simp)

/-- **A file is held after a call** by the handle that the call creates, and by the one that held it
before if it does not end with the call. -/
theorem holder_step_iff (s : Session) (a : Allocator) (c : Call) {k : Nat} {i : Inode} :
    (s.step a c).holder k = some i ↔ s.Creates a c k i ∨ s.holder k = some i ∧ ¬ Ends c k := by
  have hturn := s.turn_step a c
  rw [holder_eq_some_iff, holder_eq_some_iff, access?]
  generalize (s.step a c).accesses = accesses at hturn ⊢
  cases hturn with
  | @created f j t hf hr =>
    have hnew : (s.accesses ++ [some ⟨j, false⟩])[k]?.join = _ := s.access?_enterAccess ⟨j, false⟩ k
    rw [hnew]
    split_ifs with hk
    · constructor
      · rintro ⟨⟩
        exact .inl ⟨f, t, rfl, hk, hf, hr⟩
      · rintro (⟨_, _, hcall, -, hi, -⟩ | ⟨hi, -⟩)
        · cases hcall
          rw [Option.some.inj (hf.symm.trans hi)]
        · rw [hk, access?_length] at hi
          cases hi
    · refine ⟨fun hi => .inr ⟨hi, by simp [Ends]⟩, ?_⟩
      rintro (⟨_, _, -, hlast, -⟩ | ⟨hi, -⟩)
      · exact absurd hlast hk
      · exact hi
  | @ended _ j h h' hend hj hclosed =>
    have hset : (s.accesses.set j h')[k]?.join = _ := access?_set hj s.tree h' k
    have hcreate (k : Nat) : ¬ s.Creates a c k i := by
      rintro ⟨f, _, rfl, -⟩
      exact absurd ((hend j).2 rfl) (by simp [Ends])
    rw [hset, hend]
    split_ifs with hk <;> simp [hk, hcreate, hclosed]
  | same hcreate hend =>
    refine ⟨fun hi => .inr ⟨hi, fun hk => ?_⟩, ?_⟩
    · have hnone := hend k hk
      rw [access?] at hnone
      rw [hnone] at hi
      cases hi
    · rintro (hcreates | ⟨hi, -⟩)
      · exact absurd hcreates (hcreate k i)
      · exact hi

/-! ### Calls one after another -/

/-- Of some calls, one created an access handle on a file, in a place, and none after it ended its
hold. -/
def Unended (quota : UInt64) (calls : List (Allocator × Call)) (k : Nat) (i : Inode) : Prop :=
  ∃ before a c after, calls = before ++ (a, c) :: after ∧
    ((start quota).run before).Creates a c k i ∧ ∀ x ∈ after, ¬ Ends x.2 k

variable {quota : UInt64} {calls : List (Allocator × Call)} {a : Allocator} {c : Call} {k : Nat}
  {i : Inode}

/-- One more call. -/
theorem unended_concat_iff :
    Unended quota (calls ++ [(a, c)]) k i ↔
      ((start quota).run calls).Creates a c k i ∨ Unended quota calls k i ∧ ¬ Ends c k := by
  constructor
  · rintro ⟨before, a', c', after, heq, hcreates, hafter⟩
    rcases List.eq_nil_or_concat' after with rfl | ⟨rest, last, rfl⟩
    · obtain ⟨rfl, hlast⟩ := List.append_inj' heq rfl
      cases hlast
      exact .inl hcreates
    · rw [← List.cons_append, ← List.append_assoc] at heq
      obtain ⟨hcalls, hlast⟩ := List.append_inj' heq rfl
      cases hlast
      exact .inr ⟨⟨before, a', c', rest, hcalls, hcreates,
        fun x hx => hafter x (List.mem_append_left _ hx)⟩, hafter (a, c) (by simp)⟩
  · rintro (hcreates | ⟨⟨before, a', c', after, rfl, hcreates, hafter⟩, hend⟩)
    · exact ⟨calls, a, c, [], rfl, hcreates, nofun⟩
    · refine ⟨before, a', c', after ++ [(a, c)], by simp, hcreates, fun x hx => ?_⟩
      rcases List.mem_append.1 hx with hx | hx
      · exact hafter x hx
      · rw [List.mem_singleton.1 hx]
        exact hend

/-- **A file is held by the access handles on it that did not end.** -/
theorem holder_run_iff (quota : UInt64) (calls : List (Allocator × Call)) {k : Nat} {i : Inode} :
    ((start quota).run calls).holder k = some i ↔ Unended quota calls k i := by
  induction calls using List.reverseRecOn with
  | nil =>
    refine iff_of_false (fun h => ?_) ?_
    · rw [holder_eq_some_iff] at h
      cases h
    · rintro ⟨before, _, _, _, hnil, -⟩
      cases before <;> cases hnil
  | append_singleton calls x ih =>
    obtain ⟨a, c⟩ := x
    rw [run_concat, holder_step_iff, unended_concat_iff, ih]

/-- An access handle that holds no file is closed, or it is gone. -/
theorem tree_of_ended {s : Session} (hk : ∀ i, s.holder k ≠ some i) (a : Allocator) :
    (s.step a (.close k)).tree = s.tree ∧ (s.step a (.release k)).tree = s.tree := by
  rw [step, step]
  cases hh : s.access? k with
  | none => exact ⟨rfl, rfl⟩
  | some h =>
    obtain ⟨i, closed⟩ := h
    cases closed with
    | false => exact absurd (holder_eq_some_iff.2 hh) (hk i)
    | true => exact ⟨rfl, rfl⟩

/-- Through an access handle that holds its file, calls succeed but for want of room. -/
theorem memory_of_held {t : Tree} {data : Content} (hi : t.node? i = some (.file data true))
    (a : Allocator) :
    let h : MemoryAccess := ⟨i, false⟩
    (∀ count offset, (memory a).read h count offset t =
      .ok (.ofBytes (data.slice offset.toNat count)) t) ∧
    (memory a).flush h t = .ok () t ∧ (memory a).size h t = .ok data.length t ∧
    (∀ bytes offset e t', (memory a).write h bytes offset t = .error e t' → e = .quotaExceeded) ∧
    ∀ size e t', (memory a).truncate h size t = .error e t' → e = .quotaExceeded := by
  intro h
  have hdata : t.data h.inode = .ok data := data_ok_iff.2 ⟨true, hi⟩
  exact ⟨fun count offset => memory_read_ok_iff.2 ⟨rfl, ⟨data, hdata, rfl⟩, rfl⟩,
    memory_flush_of_open rfl t, memory_size_ok_iff.2 ⟨rfl, ⟨data, hdata, rfl⟩, rfl⟩,
    fun _ _ _ _ herr => memory_write_error rfl hi herr,
    fun _ _ _ herr => memory_truncate_error rfl hi herr⟩

/-- **Access handles are exclusive.**  After any calls, through handles of any age:

* a file is locked just when one access handle on it was created that neither was closed nor
  released since, and there are never two such handles;
* the file of such a handle is there, so reading, asking for the length and making bytes durable
  through it succeed, and writing and truncating fail for want of room only;
* closing or releasing a handle that was closed or released before does nothing to the tree;
* closing or releasing a handle leaves every other one, and the lock of its file, as they are.
-/
theorem run_handles (quota : UInt64) (calls : List (Allocator × Call)) :
    let s := (start quota).run calls
    (∀ i, (∃ data, s.tree.node? i = some (.file data true)) ↔ ∃! k, Unended quota calls k i) ∧
    (∀ k k' i, Unended quota calls k i → Unended quota calls k' i → k = k') ∧
    (∀ k i, Unended quota calls k i → s.access? k = some ⟨i, false⟩ ∧
      ∃ data, s.tree.node? i = some (.file data true) ∧ ∀ a : Allocator,
        let h : MemoryAccess := ⟨i, false⟩
        (∀ count offset, (memory a).read h count offset s.tree =
          .ok (.ofBytes (data.slice offset.toNat count)) s.tree) ∧
        (memory a).flush h s.tree = .ok () s.tree ∧
        (memory a).size h s.tree = .ok data.length s.tree ∧
        (∀ bytes offset e t, (memory a).write h bytes offset s.tree = .error e t →
          e = .quotaExceeded) ∧
        ∀ size e t, (memory a).truncate h size s.tree = .error e t → e = .quotaExceeded) ∧
    (∀ k, (∀ i, ¬ Unended quota calls k i) → ∀ a,
      (s.step a (.close k)).tree = s.tree ∧ (s.step a (.release k)).tree = s.tree) ∧
    ∀ k a c, Ends c k → ∀ j i, j ≠ k → Unended quota calls j i →
      (s.step a c).access? j = some ⟨i, false⟩ ∧
        ∃ data, (s.step a c).tree.node? i = some (.file data true) := by
  intro s
  have hs : s.Sound := sound_run quota calls
  have hholder {k : Nat} {i : Inode} : s.holder k = some i ↔ Unended quota calls k i :=
    holder_run_iff quota calls
  simp only [← hholder]
  refine ⟨fun i => hs.mem_iff_existsUnique, fun k k' i => hs.unique, fun k i hk => ?_,
    fun k hk a => tree_of_ended hk a, fun k a c hend j i hne hj => ?_⟩
  · obtain ⟨data, hi⟩ := (hs.held_iff i).2 ⟨k, hk⟩
    exact ⟨holder_eq_some_iff.1 hk, data, hi, memory_of_held hi⟩
  · have hstill : (s.step a c).holder j = some i := by
      refine (s.holder_step_iff a c).2 (.inr ⟨hj, ?_⟩)
      rintro (rfl | rfl) <;> rcases hend with hend | hend <;> cases hend <;> exact hne rfl
    exact ⟨holder_eq_some_iff.1 hstill, ((hs.step a c).held_iff i).2 ⟨j, hstill⟩⟩

end Session

end Tree

end EngineHost

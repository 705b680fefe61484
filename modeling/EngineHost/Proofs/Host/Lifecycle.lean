import EngineHost.Host.Basic
import EngineHost.Proofs.Storage.Keeps
import Mathlib.Logic.Relation

/-!
# The life of a host

A host loads a module once: it is uninitialized until then, and afterwards it is ready for good or
failed for good.  Here a host is followed through a run of `HostEvent`s, which are messages,
requests, loads and calls, and changes of the world that the host has no part in.

* `Host.Turns` : what one event can make of a host.  `Host.turns_after` says that every event does
  one of these things, and all that follows is read off it.
* `Host.Settled` : between events the host is not in the midst of anything, and it has a module just
  when it is ready.
* `Host.uninitialized_run_iff` : a host is uninitialized as long as nothing asked it to load.
* `Host.run_lifecycle` : the whole of it.

A ready host keeps its module and whether there is storage.  Its guest changes in one way only: the
functions of the module are run on it, one after another.
-/

namespace EngineHost

variable {σ : Type}

namespace Module

variable {S : Storage σ}

/-- A function of a module is run on a guest, which it leaves as another; it may trap. -/
def Runs (m : Module S) (g g' : Guest S) : Prop :=
  ∃ name f values s, m.function? name = some f ∧ (stateAfter (f.run values (g, s))).1 = g'

end Module

/-- The location that a request asks to load from. -/
def Request.location? : Request → Option String
  | load _ location => some location
  | call .. | ping _ => none

/-- What can happen to a host. -/
inductive HostEvent (σ : Type) where
  /-- It is given a message. -/
  | message (j : Json)
  /-- It is given a request that was read already. -/
  | request (r : Request)
  /-- It is asked to load a module. -/
  | load (location : String)
  /-- It is asked to call a function. -/
  | call (function : String) (args : List Json)
  /-- The world changes without it. -/
  | elsewhere (s : σ)

namespace HostEvent

variable {P : Platform σ}

/-- What an event makes of a host and its world. -/
def after : HostEvent σ → Host P × σ → Host P × σ
  | message j, w => (Host.handle j w).2
  | request r, w => (Host.handleRequest r w).2
  | load location, w => (Host.load location w).2
  | call function args, w => (Host.call function args w).2
  | elsewhere s, w => (w.1, s)

/-- The location that an event asks to load from. -/
def location? : HostEvent σ → Option String
  | message j => (Request.parse j).toOption.bind Request.location?
  | request r => r.location?
  | load location => some location
  | call .. | elsewhere _ => none

end HostEvent

namespace Host

variable {P : Platform σ} {h h' h'' : Host P} {s : σ} {w : Host P × σ} {location name : String}
  {args : List Json} {reason : String} {e : HostError}

/-- Events one after another. -/
def run (xs : List (HostEvent σ)) (w : Host P × σ) : Host P × σ :=
  xs.foldl (fun w x => x.after w) w

theorem run_cons (x : HostEvent σ) (xs : List (HostEvent σ)) (w : Host P × σ) :
    run (x :: xs) w = run xs (x.after w) := rfl

/-! ### Loading -/

/-- A host that was asked to load before loads nothing. -/
theorem load_of_initialized (hphase : h.phase ≠ .uninitialized) (location : String) (s : σ) :
    (load location (h, s)).2 = (h, s) := by
  simp only [load]
  split
  · rfl
  · rfl
  · rfl
  · rfl
  · exact absurd ‹_› hphase

theorem load_of_failed (hphase : h.phase = .failed reason) (location : String) (s : σ) :
    load location (h, s) = (.error (.failed reason), h, s) := by
  simp only [load, hphase]

/-- The first load makes a host ready with what was loaded, or failed for the reason it answers. -/
theorem load_of_uninitialized (hphase : h.phase = .uninitialized) (location : String) (s : σ) :
    (∃ r s', load location (h, s) =
        (.ok r.hasStorage, { h with runtime := some r, phase := .ready }, s')) ∨
      ∃ e s', load location (h, s) = (.error e, { h with phase := .failed e.message }, s') := by
  simp only [load, hphase]
  rcases launch P h.settings location s with ⟨e | r, s'⟩
  · exact .inr ⟨e, s', rfl⟩
  · exact .inl ⟨r, s', rfl⟩

/-! ### Calling -/

/-- A host that is not ready calls nothing. -/
theorem call_of_not_ready (hphase : h.phase ≠ .ready) (name : String) (args : List Json) (s : σ) :
    (call name args (h, s)).2 = (h, s) := by
  simp only [call]
  split
  · rfl
  · exact absurd ‹_› hphase
  · rfl

theorem call_of_failed (hphase : h.phase = .failed reason) (name : String) (args : List Json)
    (s : σ) : call name args (h, s) = (.error (.failed reason), h, s) := by
  simp only [call, hphase]

/-- A call without its function, or with arguments that do not fit it, is not made. -/
theorem call_of_unprepared {r : Runtime (P.storage h.settings.storage)}
    (hruntime : h.runtime = some r) (hprepare : prepareCall r.module name args = .error e) (s : σ) :
    (call name args (h, s)).2 = (h, s) := by
  by_cases hphase : h.phase = .ready
  · simp only [call, hphase, hruntime, hprepare]
  · exact call_of_not_ready hphase name args s

/-- A call that is made leaves the guest as its function leaves it, and nothing else of the host
changes. -/
theorem call_of_prepared {r : Runtime (P.storage h.settings.storage)} (hphase : h.phase = .ready)
    (hruntime : h.runtime = some r) {f : Function (P.storage h.settings.storage)}
    {values : List Value} (hprepare : prepareCall r.module name args = .ok (f, values)) (s : σ) :
    (call name args (h, s)).2 =
      ({ h with runtime := some { r with guest := (stateAfter (f.run values (r.guest, s))).1 } },
        (stateAfter (f.run values (r.guest, s))).2) := by
  simp only [call, hphase, hruntime, hprepare]
  cases f.run values (r.guest, s) with
  | ok results w => rfl
  | error t w => rfl

theorem function?_of_prepareCall {S : Storage σ} {m : Module S} {f : Function S}
    {values : List Value} (h : prepareCall m name args = .ok (f, values)) :
    m.function? name = some f := by
  unfold prepareCall at h
  cases hf : m.function? name with
  | none => simp [hf, throw, throwThe, MonadExceptOf.throw] at h
  | some f' =>
    rw [hf] at h
    cases hv : (Value.ofArguments f'.params args).mapError (HostError.arguments name) with
    | error e => simp [hv, bind, Except.bind] at h
    | ok values' =>
      simp only [hv, bind, Except.bind, pure, Except.pure, Except.ok.injEq, Prod.mk.injEq] at h
      rw [h.1]

/-- **Whatever is asked of a failed host is refused** for the reason for which it failed. -/
theorem refused_of_failed (hphase : w.1.phase = .failed reason) :
    (∀ location, (load location w).1 = .error (.failed reason)) ∧
      (∀ name args, (call name args w).1 = .error (.failed reason)) ∧
      (∀ id location, (handleRequest (.load id location) w).1 =
        .error id (HostError.failed reason).message) ∧
      ∀ id name args, (handleRequest (.call id name args) w).1 =
        .result id false none (some (HostError.failed reason).message) := by
  have hload : ∀ location, load location w = (.error (.failed reason), w) := fun location =>
    load_of_failed hphase location w.2
  have hcall : ∀ name args, call name args w = (.error (.failed reason), w) := fun name args =>
    call_of_failed hphase name args w.2
  refine ⟨fun location => congrArg Prod.fst (hload location),
    fun name args => congrArg Prod.fst (hcall name args), fun id location => ?_,
    fun id name args => ?_⟩
  · change loadResponse id (load location w).1 = _
    rw [hload]
    rfl
  · change callResponse id (call name args w).1 = _
    rw [hcall]
    rfl

/-! ### What one event does -/

/-- What an event can make of a host. -/
inductive Turns : Host P → Host P → Prop
  | stays {h : Host P} : Turns h h
  /-- The module is loaded. -/
  | loads {h : Host P} (r : Runtime (P.storage h.settings.storage)) : h.phase = .uninitialized →
      Turns h { h with runtime := some r, phase := .ready }
  /-- The module cannot be loaded. -/
  | fails {h : Host P} (e : HostError) : h.phase = .uninitialized →
      Turns h { h with phase := .failed e.message }
  /-- A function of the module is run. -/
  | serves {h : Host P} {r : Runtime (P.storage h.settings.storage)}
      {g : Guest (P.storage h.settings.storage)} : h.phase = .ready → h.runtime = some r →
      r.module.Runs r.guest g → Turns h { h with runtime := some { r with guest := g } }

theorem turns_load (location : String) (h : Host P) (s : σ) :
    Turns h (load location (h, s)).2.1 := by
  by_cases hphase : h.phase = .uninitialized
  · obtain ⟨r, s', hload⟩ | ⟨e, s', hload⟩ := load_of_uninitialized hphase location s
    · rw [hload]
      exact .loads r hphase
    · rw [hload]
      exact .fails e hphase
  · rw [load_of_initialized hphase]
    exact .stays

theorem turns_call (name : String) (args : List Json) (h : Host P) (s : σ) :
    Turns h (call name args (h, s)).2.1 := by
  by_cases hphase : h.phase = .ready
  · cases hruntime : h.runtime with
    | none =>
      have hcall : (call name args (h, s)).2 = (h, s) := by simp only [call, hphase, hruntime]
      rw [hcall]
      exact .stays
    | some r =>
      cases hprepare : prepareCall r.module name args with
      | error e =>
        rw [call_of_unprepared hruntime hprepare]
        exact .stays
      | ok prepared =>
        obtain ⟨f, values⟩ := prepared
        rw [call_of_prepared hphase hruntime hprepare]
        exact .serves hphase hruntime ⟨name, f, values, s, function?_of_prepareCall hprepare, rfl⟩
  · rw [call_of_not_ready hphase]
    exact .stays

theorem turns_request (r : Request) (h : Host P) (s : σ) :
    Turns h (handleRequest r (h, s)).2.1 := by
  cases r with
  | load id location => exact turns_load location h s
  | call id name args => exact turns_call name args h s
  | ping id => exact .stays

/-- **Every event does to a host one of the things that `Turns` lists.** -/
theorem turns_after (x : HostEvent σ) (w : Host P × σ) : Turns w.1 (x.after w).1 := by
  obtain ⟨h, s⟩ := w
  cases x with
  | message j =>
    change Turns h (handle j (h, s)).2.1
    unfold handle
    cases Request.parse j with
    | ok r => exact turns_request r h s
    | error e => exact .stays
  | request r => exact turns_request r h s
  | load location => exact turns_load location h s
  | call name args => exact turns_call name args h s
  | elsewhere s' => exact .stays

/-! ### Between events -/

/-- A host that is not in the midst of anything: it has a module just when it is ready. -/
inductive Settled : Host P → Prop
  | uninitialized {h : Host P} : h.phase = .uninitialized → h.runtime = none → Settled h
  | ready {h : Host P} {r : Runtime (P.storage h.settings.storage)} : h.phase = .ready →
      h.runtime = some r → Settled h
  | failed {h : Host P} {reason : String} : h.phase = .failed reason → h.runtime = none → Settled h

theorem settled_new (settings : Settings) : Settled (new settings : Host P) :=
  .uninitialized rfl rfl

theorem Settled.phase (hh : Settled h) :
    h.phase = .uninitialized ∨ h.phase = .ready ∨ ∃ reason, h.phase = .failed reason := by
  cases hh with
  | uninitialized hphase => exact .inl hphase
  | ready hphase => exact .inr (.inl hphase)
  | failed hphase => exact .inr (.inr ⟨_, hphase⟩)

theorem Settled.runtime_iff (hh : Settled h) : h.runtime.isSome = true ↔ h.phase = .ready := by
  cases hh with
  | uninitialized hphase hruntime => simp [hphase, hruntime]
  | ready hphase hruntime => simp [hphase, hruntime]
  | failed hphase hruntime => simp [hphase, hruntime]

/-- A ready host has a module. -/
theorem Settled.runtime_of_ready (hh : Settled h) (hphase : h.phase = .ready) :
    ∃ r, h.runtime = some r :=
  Option.isSome_iff_exists.1 (hh.runtime_iff.2 hphase)

/-- What an event does settles a host again. -/
theorem Settled.turns (hh : Settled h) (hturns : Turns h h') : Settled h' := by
  cases hturns with
  | stays => exact hh
  | loads r => exact .ready rfl rfl
  | fails e hphase =>
    -- nothing was loaded before, so the failed host has no module
    have hruntime : h.runtime = none := by
      rw [← Option.not_isSome_iff_eq_none, hh.runtime_iff, hphase]
      nofun
    exact .failed rfl hruntime
  | serves hphase => exact .ready hphase rfl

/-- A host that has loaded keeps its module: it is the same host but for its guest, on which
functions of the module were run. -/
def Serves (h : Host P) (r : Runtime (P.storage h.settings.storage)) (h' : Host P) : Prop :=
  ∃ g, Relation.ReflTransGen r.module.Runs r.guest g ∧
    h' = { h with runtime := some { r with guest := g } }

theorem Serves.turns {r : Runtime (P.storage h.settings.storage)} (hphase : h.phase = .ready)
    (hserves : Serves h r h') (hturns : Turns h' h'') : Serves h r h'' := by
  obtain ⟨g, hruns, rfl⟩ := hserves
  cases hturns with
  | stays => exact ⟨g, hruns, rfl⟩
  | loads _ hno => exact absurd (hphase.symm.trans hno) nofun
  | fails _ hno => exact absurd (hphase.symm.trans hno) nofun
  | serves _ hruntime hrun =>
    cases hruntime
    exact ⟨_, hruns.tail hrun, rfl⟩

theorem Turns.eq_of_failed (hturns : Turns h h') (hphase : h.phase = .failed reason) : h' = h := by
  cases hturns with
  | stays => rfl
  | loads _ hno | fails _ hno | serves hno => exact absurd (hphase.symm.trans hno) nofun

/-- A host that was asked to load keeps its phase. -/
theorem Turns.phase_eq (hturns : Turns h h') (hphase : h.phase ≠ .uninitialized) :
    h'.phase = h.phase := by
  cases hturns with
  | stays => rfl
  | loads _ hno | fails _ hno => exact absurd hno hphase
  | serves => rfl

/-! ### The first load -/

/-- An event that asks for no load does nothing to an uninitialized host. -/
theorem after_of_no_load {x : HostEvent σ} (hphase : w.1.phase = .uninitialized)
    (hno : x.location? = none) : (x.after w).1 = w.1 := by
  obtain ⟨h, s⟩ := w
  have hcall : ∀ name args, (call name args (h, s)).2.1 = h := fun name args => by
    rw [call_of_not_ready (by rw [hphase]; nofun)]
  have hrequest : ∀ r : Request, r.location? = none → (handleRequest r (h, s)).2.1 = h := by
    intro r hr
    cases r with
    | load id location => cases hr
    | call id name args => exact hcall name args
    | ping id => rfl
  cases x with
  | message j =>
    simp only [HostEvent.location?] at hno
    change (handle j (h, s)).2.1 = h
    unfold handle
    cases hparse : Request.parse j with
    | ok r =>
      rw [hparse] at hno
      exact hrequest r hno
    | error e => rfl
  | request r => exact hrequest r hno
  | load location => cases hno
  | call name args => exact hcall name args
  | elsewhere s' => rfl

/-- However a load is asked for, the host loads. -/
theorem after_of_load {x : HostEvent σ} (hload : x.location? = some location) (w : Host P × σ) :
    x.after w = (load location w).2 := by
  have hrequest : ∀ r : Request, r.location? = some location →
      (handleRequest r w).2 = (load location w).2 := by
    intro r hr
    cases r with
    | load id location' => cases hr; rfl
    | call id name args => cases hr
    | ping id => cases hr
  cases x with
  | message j =>
    simp only [HostEvent.location?] at hload
    change (handle j w).2 = _
    unfold handle
    cases hparse : Request.parse j with
    | ok r =>
      rw [hparse] at hload
      exact hrequest r hload
    | error e =>
      rw [hparse] at hload
      cases hload
  | request r => exact hrequest r hload
  | load location' => cases hload; rfl
  | call name args => cases hload
  | elsewhere s' => cases hload

/-- A host is uninitialized after an event if it was so before and was not asked to load. -/
theorem uninitialized_after_iff (x : HostEvent σ) (w : Host P × σ) :
    (x.after w).1.phase = .uninitialized ↔
      w.1.phase = .uninitialized ∧ x.location? = none := by
  by_cases hphase : w.1.phase = .uninitialized
  · cases hlocation : x.location? with
    | none => simp [after_of_no_load hphase hlocation, hphase]
    | some location =>
      obtain ⟨h, s⟩ := w
      rw [after_of_load hlocation]
      obtain ⟨r, s', hload⟩ | ⟨e, s', hload⟩ := load_of_uninitialized hphase location s
      · simp [hload]
      · simp [hload]
  · simp [(turns_after x w).phase_eq hphase, hphase]

/-! ### Runs -/

/-- What holds of a host and is kept by all that an event can do holds after any events. -/
theorem run_keeps {p : Host P → Prop} (hp : ∀ {h h'}, p h → Turns h h' → p h')
    (xs : List (HostEvent σ)) (hw : p w.1) : p (run xs w).1 := by
  induction xs generalizing w with
  | nil => exact hw
  | cons x xs ih => exact ih (hp hw (turns_after x w))

/-- **A host is uninitialized as long as nothing asked it to load.** -/
theorem uninitialized_run_iff (xs : List (HostEvent σ)) (w : Host P × σ) :
    (run xs w).1.phase = .uninitialized ↔
      w.1.phase = .uninitialized ∧ ∀ x ∈ xs, x.location? = none := by
  induction xs generalizing w with
  | nil => simp [run]
  | cons x xs ih =>
    rw [run_cons, ih, uninitialized_after_iff, List.forall_mem_cons, and_assoc]

/-- **The life of a host**, whatever its settings, the platform and the module do, and whatever
happens to it.

* Between events it is uninitialized, ready or failed, and it has a module just when it is ready.
* It is uninitialized as long as nothing asked it to load.  What then asks first makes it ready, or
  makes it failed for the reason that the load answers; nothing else changes its phase.
* Once ready it stays ready, with the same module and the same answer about storage: only its guest
  changes, by runs of functions of the module.
* Once failed it stays as it is, and whatever is asked of it is refused for the one reason. -/
theorem run_lifecycle (P : Platform σ) (settings : Settings) (s : σ) (xs : List (HostEvent σ)) :
    let w := run xs ((new settings, s) : Host P × σ)
    let h := w.1
    ((h.phase = .uninitialized ∨ h.phase = .ready ∨ ∃ reason, h.phase = .failed reason) ∧
      (h.runtime.isSome = true ↔ h.phase = .ready)) ∧
    (h.phase = .uninitialized ↔ ∀ x ∈ xs, x.location? = none) ∧
    (h.phase = .uninitialized → ∀ x : HostEvent σ,
      (x.location? = none → (x.after w).1 = h) ∧
      ∀ location, x.location? = some location →
        (∃ r, (load location w).1 = .ok r.hasStorage ∧
          (x.after w).1 = { h with runtime := some r, phase := .ready }) ∨
        ∃ e, (load location w).1 = .error e ∧
          (x.after w).1 = { h with phase := .failed e.message }) ∧
    (h.phase = .ready → ∃ r, h.runtime = some r ∧ ∀ ys,
      let h' := (run ys w).1
      h'.phase = .ready ∧ h'.hasStorage? = some r.hasStorage ∧ Serves h r h') ∧
    ∀ reason, h.phase = .failed reason → ∀ ys,
      let w' := run ys w
      w'.1 = h ∧
      (∀ location, (load location w').1 = .error (.failed reason)) ∧
      (∀ name args, (call name args w').1 = .error (.failed reason)) ∧
      (∀ id location, (handleRequest (.load id location) w').1 =
        .error id (HostError.failed reason).message) ∧
      ∀ id name args, (handleRequest (.call id name args) w').1 =
        .result id false none (some (HostError.failed reason).message) := by
  intro w h
  have hsettled : Settled h := run_keeps (p := Settled) Settled.turns xs (settled_new settings)
  refine ⟨⟨hsettled.phase, hsettled.runtime_iff⟩, ?first, ?change, ?ready, ?failed⟩
  case first =>
    exact (uninitialized_run_iff xs _).trans (and_iff_right rfl)
  case change =>
    intro hphase x
    refine ⟨after_of_no_load hphase, fun location hlocation => ?_⟩
    rw [after_of_load hlocation]
    obtain ⟨r, s', hload⟩ | ⟨e, s', hload⟩ := load_of_uninitialized hphase location w.2
    · exact .inl ⟨r, congrArg Prod.fst hload, congrArg (fun a => a.2.1) hload⟩
    · exact .inr ⟨e, congrArg Prod.fst hload, congrArg (fun a => a.2.1) hload⟩
  case ready =>
    intro hphase
    obtain ⟨r, hruntime⟩ := hsettled.runtime_of_ready hphase
    refine ⟨r, hruntime, fun ys => ?_⟩
    have hstart : Serves h r h := ⟨r.guest, .refl, by rw [← hruntime]⟩
    have hserves : Serves h r (run ys w).1 :=
      run_keeps (p := Serves h r) (Serves.turns hphase) ys hstart
    obtain ⟨g, -, hlater⟩ := id hserves
    refine ⟨?_, ?_, hserves⟩
    · rw [hlater]
      exact hphase
    · rw [hlater]
      rfl
  case failed =>
    intro reason hphase ys w'
    have hsame : w'.1 = h :=
      run_keeps (p := (· = h)) (fun hh hturns => (hturns.eq_of_failed (hh ▸ hphase)).trans hh) ys
        rfl
    exact ⟨hsame, refused_of_failed (hsame ▸ hphase)⟩

end Host

end EngineHost

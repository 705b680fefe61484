import EngineHost.Storage.Sabotaged
import Mathlib.Order.Defs.Unbundled

/-!
# What the calls of a storage do to its state

`Moves R x` says that a step takes the state along a relation `R`, whether it succeeds or fails, and
`Storage.Keeps S R kind` that every call of a kind does so with the state of the storage.  Releasing
a handle counts as closing it, since both end the hold of a handle.  What an operation built from
storage calls does to the state is then told from the kinds of calls it makes.

`Storage.FailsClean S kind` says that a call of a kind does nothing when it fails.

* `Storage.sabotage_of_strikes`, `Storage.sabotage_of_spared` : what a saboteur makes of a call.
* `Storage.sabotaged_keeps` : a saboteur adds nothing to what the calls do to the storage.
-/

namespace EngineHost

variable {ε σ τ α β : Type}

/-- The state that a step leaves, whether it succeeds or fails. -/
def stateAfter : EStateM.Result ε σ α → σ
  | .ok _ s => s
  | .error _ s => s

@[simp] theorem stateAfter_ok (a : α) (s : σ) :
    stateAfter (.ok a s : EStateM.Result ε σ α) = s := rfl

@[simp] theorem stateAfter_error (e : ε) (s : σ) :
    stateAfter (.error e s : EStateM.Result ε σ α) = s := rfl

/-- What a step does when it succeeds is what it does, if failing leaves the state as it was. -/
theorem stateAfter_of_ok {R : σ → σ → Prop} [Std.Refl R] {x : EStateM ε σ α} {s : σ}
    (herr : ∀ {e s'}, x s = .error e s' → s' = s) (hok : ∀ a s', x s = .ok a s' → R s s') :
    R s (stateAfter (x s)) := by
  cases hx : x s with
  | ok a s' => exact hok a s' hx
  | error e s' =>
    obtain rfl := herr hx
    exact Std.Refl.refl _

/-- A step takes the state along a relation, whether it succeeds or fails. -/
def Moves (R : σ → σ → Prop) (x : EStateM ε σ α) : Prop := ∀ s, R s (stateAfter (x s))

namespace Moves

variable {R : σ → σ → Prop}

theorem pure [Std.Refl R] (a : α) : Moves R (Pure.pure a : EStateM ε σ α) :=
  fun s => Std.Refl.refl s

theorem throw [Std.Refl R] (e : ε) : Moves R (MonadExcept.throw e : EStateM ε σ α) :=
  fun s => Std.Refl.refl s

theorem mono {R' : σ → σ → Prop} {x : EStateM ε σ α} (hx : Moves R x)
    (h : ∀ {s s'}, R s s' → R' s s') : Moves R' x :=
  fun s => h (hx s)

theorem bind [IsTrans σ R] {x : EStateM ε σ α} {f : α → EStateM ε σ β} (hx : Moves R x)
    (hf : ∀ a, Moves R (f a)) : Moves R (x >>= f) := by
  intro s
  have hs := hx s
  simp only [Bind.bind, EStateM.bind]
  cases h : x s with
  | ok a s' =>
    rw [h] at hs
    exact trans_of R hs (hf a s')
  | error e s' =>
    rw [h] at hs
    exact hs

end Moves

/-- The state may become any other. -/
def Anywhere (_ _ : σ) : Prop := True

instance : Std.Refl (Anywhere (σ := σ)) := ⟨fun _ => trivial⟩

instance : IsTrans σ Anywhere := ⟨fun _ _ _ _ _ => trivial⟩

/-- A saboteur lets a call of a kind fail. -/
def Saboteur.Strikes (w : Saboteur τ) (kind : CallKind) (m : τ) (e : StorageError) : Prop :=
  (w.decide kind m).1 = some (.error e)

namespace Storage

/-- Every call of a kind takes the state along a relation. -/
def Keeps (S : Storage σ) (R : σ → σ → Prop) : CallKind → Prop
  | .root => Moves R S.root
  | .directory => ∀ d name create, Moves R (S.directory d name create)
  | .file => ∀ d name create, Moves R (S.file d name create)
  | .remove => ∀ d name, Moves R (S.remove d name)
  | .acquire => ∀ f, Moves R (S.acquire f)
  | .read => ∀ h count offset, Moves R (S.read h count offset)
  | .write => ∀ h data offset, Moves R (S.write h data offset)
  | .truncate => ∀ h size, Moves R (S.truncate h size)
  | .flush => ∀ h, Moves R (S.flush h)
  | .size => ∀ h, Moves R (S.size h)
  | .close => (∀ h s, R s (S.close h s).2.2) ∧ ∀ h s, R s (S.release h s)

/-- A call of a kind that fails leaves the state as it was. -/
def FailsClean (S : Storage σ) : CallKind → Prop
  | .root => ∀ {s e s'}, S.root s = .error e s' → s' = s
  | .directory => ∀ {d name create s e s'}, S.directory d name create s = .error e s' → s' = s
  | .file => ∀ {d name create s e s'}, S.file d name create s = .error e s' → s' = s
  | .remove => ∀ {d name s e s'}, S.remove d name s = .error e s' → s' = s
  | .acquire => ∀ {f s e s'}, S.acquire f s = .error e s' → s' = s
  | .read => ∀ {h count offset s e s'}, S.read h count offset s = .error e s' → s' = s
  | .write => ∀ {h data offset s e s'}, S.write h data offset s = .error e s' → s' = s
  | .truncate => ∀ {h size s e s'}, S.truncate h size s = .error e s' → s' = s
  | .flush => ∀ {h s e s'}, S.flush h s = .error e s' → s' = s
  | .size => ∀ {h s e s'}, S.size h s = .error e s' → s' = s
  | .close => ∀ {h s e}, (S.close h s).1 = .error e → (S.close h s).2.2 = s

/-- The end of a handle: an explicit close, whatever it answers, and then its release. -/
def giveUp (S : Storage σ) (h : S.Access) (s : σ) : σ :=
  S.release (S.close h s).2.1 (S.close h s).2.2

variable {S : Storage σ} {R : σ → σ → Prop}

theorem keeps_anywhere (S : Storage σ) (kind : CallKind) : S.Keeps Anywhere kind := by
  cases kind <;> simp [Keeps, Moves, Anywhere]

theorem Keeps.giveUp [IsTrans σ R] (hk : S.Keeps R .close) (h : S.Access) (s : σ) :
    R s (S.giveUp h s) :=
  trans_of R (hk.1 h s) (hk.2 _ _)

/-! ### Sabotage -/

/-- What a call leaves, beside what a saboteur remembers. -/
def beside (r : EStateM.Result StorageError σ α) (m : τ) :
    EStateM.Result StorageError (σ × τ) α :=
  match r with
  | .ok a s => .ok a (s, m)
  | .error e s => .error e (s, m)

theorem beside_ok_iff {r : EStateM.Result StorageError σ α} {m : τ} {a : α} {p : σ × τ} :
    beside r m = .ok a p ↔ ∃ s, r = .ok a s ∧ p = (s, m) := by
  cases r with
  | ok a' s => simp [beside, eq_comm, and_assoc]
  | error e s => simp [beside]

theorem beside_error_iff {r : EStateM.Result StorageError σ α} {m : τ} {e : StorageError}
    {p : σ × τ} : beside r m = .error e p ↔ ∃ s, r = .error e s ∧ p = (s, m) := by
  cases r with
  | ok a s => simp [beside]
  | error e' s => simp [beside, eq_comm, and_assoc]

@[simp] theorem stateAfter_beside (r : EStateM.Result StorageError σ α) (m : τ) :
    stateAfter (beside r m) = (stateAfter r, m) := by
  cases r <;> rfl

/-- A call that is struck fails without acting. -/
theorem sabotage_of_strikes {w : Saboteur τ} {kind : CallKind} {m : τ} {e : StorageError}
    (h : w.Strikes kind m e) (report : Nat → Option α) (x : StorageM σ α) (s : σ) :
    sabotage w kind report x (s, m) = .error e (s, (w.decide kind m).2) := by
  rw [Saboteur.Strikes] at h
  simp only [sabotage, h]

/-- A call that is not struck and reports no number acts as it would without a saboteur. -/
theorem sabotage_of_spared {w : Saboteur τ} {kind : CallKind} {m : τ}
    (h : ∀ e, ¬ w.Strikes kind m e) (x : StorageM σ α) (s : σ) :
    sabotage w kind (fun _ => none) x (s, m) = beside (x s) (w.decide kind m).2 := by
  simp only [Saboteur.Strikes] at h
  simp only [sabotage, beside]
  cases hm : (w.decide kind m).1 with
  | none => rfl
  | some mishap =>
    cases mishap with
    | error e => exact absurd hm (h e)
    | report n => rfl

/-- A call under a saboteur does to the storage what it would do without, or nothing. -/
theorem sabotage_keeps [Std.Refl R] (w : Saboteur τ) (kind : CallKind) (report : Nat → Option α)
    (x : StorageM σ α) (hx : ∀ s, R s (stateAfter (x s))) (p : σ × τ) :
    R p.1 (stateAfter (sabotage w kind report x p)).1 := by
  obtain ⟨s, m⟩ := p
  have hact : R s (stateAfter (beside (x s) (w.decide kind m).2)).1 := by
    rw [stateAfter_beside]
    exact hx s
  simp only [sabotage]
  cases (w.decide kind m).1 with
  | none => exact hact
  | some mishap =>
    cases mishap with
    | error e => exact Std.Refl.refl s
    | report n =>
      dsimp only
      cases report n with
      | none => exact hact
      | some a => exact Std.Refl.refl s

/-- **Sabotage adds nothing** to what the calls do to the storage itself. -/
theorem sabotaged_keeps [Std.Refl R] (w : Saboteur τ) {kind : CallKind} (hk : S.Keeps R kind) :
    (S.sabotaged w).Keeps (fun p q => R p.1 q.1) kind := by
  cases kind with
  | root => exact fun p => sabotage_keeps w .root (fun _ => none) _ hk p
  | directory =>
    exact fun d name create p =>
      sabotage_keeps w .directory (fun _ => none) _ (hk d name create) p
  | file =>
    exact fun d name create p => sabotage_keeps w .file (fun _ => none) _ (hk d name create) p
  | remove => exact fun d name p => sabotage_keeps w .remove (fun _ => none) _ (hk d name) p
  | acquire => exact fun f p => sabotage_keeps w .acquire (fun _ => none) _ (hk f) p
  | read =>
    exact fun h count offset p =>
      sabotage_keeps w .read (fun n => some (Chunk.mk n [])) _ (hk h count offset) p
  | write => exact fun h data offset p => sabotage_keeps w .write some _ (hk h data offset) p
  | truncate => exact fun h size p => sabotage_keeps w .truncate (fun _ => none) _ (hk h size) p
  | flush => exact fun h p => sabotage_keeps w .flush (fun _ => none) _ (hk h) p
  | size => exact fun h p => sabotage_keeps w .size some _ (hk h) p
  | close =>
    refine ⟨fun h p => ?_, fun h p => hk.2 h p.1⟩
    obtain ⟨s, m⟩ := p
    simp only [sabotaged]
    split
    · exact Std.Refl.refl s
    · exact hk.1 h s

end Storage

end EngineHost

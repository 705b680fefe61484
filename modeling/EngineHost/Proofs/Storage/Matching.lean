import EngineHost.Bridge.Basic
import EngineHost.Proofs.Storage.Keeps
import Mathlib.Data.List.Forall2

/-!
# Storages that match

Two storages match when matching calls on matching states end in the same way and leave matching
states.  What matches is up to the case: handles and states may be the same on both sides, or one
state may say more than the other.

* `GoAlike` : two steps that end in the same way from matching states.  It is kept by doing one
  after the other (`GoAlike.bind`).
* `Storage.Match` : what two storages owe to match.
-/

namespace EngineHost

variable {σ τ ε δ α β α' β' : Type}

/-- Two steps ended in the same way: with matching answers or with matching errors, and in matching
states. -/
inductive EndAlike (E : ε → δ → Prop) (V : α → β → Prop) (R : σ → τ → Prop) :
    EStateM.Result ε σ α → EStateM.Result δ τ β → Prop
  | ok {a : α} {b : β} {s : σ} {t : τ} : V a b → R s t → EndAlike E V R (.ok a s) (.ok b t)
  | error {e : ε} {e' : δ} {s : σ} {t : τ} : E e e' → R s t →
      EndAlike E V R (.error e s) (.error e' t)

/-- Two steps end in the same way from matching states. -/
def GoAlike (E : ε → δ → Prop) (V : α → β → Prop) (R : σ → τ → Prop) (x : EStateM ε σ α)
    (y : EStateM δ τ β) : Prop :=
  ∀ s t, R s t → EndAlike E V R (x s) (y t)

namespace GoAlike

variable {E : ε → δ → Prop} {V : α → β → Prop} {V' : α' → β' → Prop} {R : σ → τ → Prop}
  {x : EStateM ε σ α} {y : EStateM δ τ β}

theorem pure {a : α} {b : β} (h : V a b) :
    GoAlike E V R (Pure.pure a : EStateM ε σ α) (Pure.pure b : EStateM δ τ β) :=
  fun _ _ hst => .ok h hst

theorem throw {e : ε} {e' : δ} (h : E e e') :
    GoAlike E V R (MonadExcept.throw e : EStateM ε σ α) (MonadExcept.throw e' : EStateM δ τ β) :=
  fun _ _ hst => .error h hst

theorem bind {f : α → EStateM ε σ α'} {g : β → EStateM δ τ β'} (hx : GoAlike E V R x y)
    (hf : ∀ {a b}, V a b → GoAlike E V' R (f a) (g b)) :
    GoAlike E V' R (x >>= f) (y >>= g) := by
  intro s t hst
  have hends := hx s t hst
  simp only [Bind.bind, EStateM.bind]
  generalize x s = r at hends ⊢
  generalize y t = r' at hends ⊢
  cases hends with
  | ok hab hst' => exact hf hab _ _ hst'
  | error he hst' => exact .error he hst'

end GoAlike

/-- What two storages owe to match. -/
structure Storage.Match (S : Storage σ) (T : Storage τ) where
  /-- Matching states. -/
  State : σ → τ → Prop
  /-- Matching handles on directories. -/
  Directory : S.Directory → T.Directory → Prop
  /-- Matching handles on files. -/
  File : S.File → T.File → Prop
  /-- Matching access handles. -/
  Access : S.Access → T.Access → Prop
  root : GoAlike Eq Directory State S.root T.root
  directory {d d'} (name create) : Directory d d' →
    GoAlike Eq Directory State (S.directory d name create) (T.directory d' name create)
  file {d d'} (name create) : Directory d d' →
    GoAlike Eq File State (S.file d name create) (T.file d' name create)
  remove {d d'} (name) : Directory d d' →
    GoAlike Eq Eq State (S.remove d name) (T.remove d' name)
  acquire {f f'} : File f f' → GoAlike Eq Access State (S.acquire f) (T.acquire f')
  read {h h'} (count offset) : Access h h' →
    GoAlike Eq Eq State (S.read h count offset) (T.read h' count offset)
  write {h h'} (data offset) : Access h h' →
    GoAlike Eq Eq State (S.write h data offset) (T.write h' data offset)
  truncate {h h'} (size) : Access h h' →
    GoAlike Eq Eq State (S.truncate h size) (T.truncate h' size)
  flush {h h'} : Access h h' → GoAlike Eq Eq State (S.flush h) (T.flush h')
  size {h h'} : Access h h' → GoAlike Eq Eq State (S.size h) (T.size h')
  close {h h' s t} : Access h h' → State s t →
    (S.close h s).1 = (T.close h' t).1 ∧ Access (S.close h s).2.1 (T.close h' t).2.1 ∧
      State (S.close h s).2.2 (T.close h' t).2.2
  release {h h' s t} : Access h h' → State s t → State (S.release h s) (T.release h' t)

namespace Storage

variable {S : Storage σ} {T : Storage τ}

/-- A step goes like itself. -/
theorem goAlike_self (x : EStateM ε σ α) : GoAlike Eq Eq Eq x x := by
  rintro s _ rfl
  cases x s with
  | ok a s' => exact .ok rfl rfl
  | error e s' => exact .error rfl rfl

/-- A storage matches itself. -/
def Match.refl (S : Storage σ) : S.Match S where
  State := Eq
  Directory := Eq
  File := Eq
  Access := Eq
  root := goAlike_self _
  directory := by rintro d _ name create rfl; exact goAlike_self _
  file := by rintro d _ name create rfl; exact goAlike_self _
  remove := by rintro d _ name rfl; exact goAlike_self _
  acquire := by rintro f _ rfl; exact goAlike_self _
  read := by rintro h _ count offset rfl; exact goAlike_self _
  write := by rintro h _ data offset rfl; exact goAlike_self _
  truncate := by rintro h _ size rfl; exact goAlike_self _
  flush := by rintro h _ rfl; exact goAlike_self _
  size := by rintro h _ rfl; exact goAlike_self _
  close := by rintro h _ s _ rfl rfl; exact ⟨rfl, rfl, rfl⟩
  release := by rintro h _ s _ rfl rfl; rfl

namespace Match

variable (M : S.Match T)

/-- Walks by the same names go alike. -/
theorem walk (create : Bool) (names : List String) {d : S.Directory} {d' : T.Directory}
    (h : M.Directory d d') :
    GoAlike Eq M.Directory M.State (S.walk create d names) (T.walk create d' names) := by
  induction names generalizing d d' with
  | nil => exact .pure h
  | cons name rest ih => exact (M.directory name create h).bind fun h' => ih h'

/-- Giving matching handles up leaves matching states. -/
theorem giveUp {h : S.Access} {h' : T.Access} {s : σ} {t : τ} (hh : M.Access h h')
    (hst : M.State s t) : M.State (S.giveUp h s) (T.giveUp h' t) := by
  obtain ⟨-, hclosed, hleft⟩ := M.close hh hst
  exact M.release hclosed hleft

end Match

end Storage

end EngineHost

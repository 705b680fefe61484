import EngineHost.Proofs.Disk.Player

/-!
# Performing programs

`DiskProgram.perform` makes a call of a storage from a program.  It takes programs apart as they
were put together, so that what a program does is told step by step without looking at its tree.

* `DiskProgram.perform_bind` : one program after another.
* `DiskProgram.perform_system`, `DiskProgram.perform_call_ok_iff`, `DiskProgram.perform_table` : the
  single steps.
-/

namespace EngineHost

variable {α β : Type}

namespace DiskProgram

theorem perform_eq_outcome (p : DiskProgram α) (w : System) :
    perform p w = outcome (Program.run p w) := by
  rw [← playedBy_onSystem, playedBy_eq_outcome, Program.play_onSystem]

variable (w : System)

@[simp] theorem perform_pure (a : α) : perform (pure a) = pure a := rfl

@[simp] theorem perform_throw (e : StorageError) :
    perform (throw e : DiskProgram α) = throw e := rfl

@[simp] theorem perform_bind (p : DiskProgram α) (f : α → DiskProgram β) :
    perform (p >>= f) = perform p >>= fun a => perform (f a) := by
  simp only [← playedBy_onSystem]
  exact playedBy_bind p f

/-- A system call answers, and never fails, as a step of a storage. -/
theorem perform_system (c : SystemCall) :
    perform (system c) w = .ok (c.perform w.disk).1 { w with disk := (c.perform w.disk).2 } := rfl

theorem perform_table (s : TableStep) :
    perform (table s) w = .ok (s.perform w.held).1 { w with held := (s.perform w.held).2 } := rfl

/-- A program that answers an error, too, answers as a step of a storage. -/
theorem perform_lift (p : Program α) :
    perform (ExceptT.lift p) w = .ok (p.run w).1 (p.run w).2 := by
  rw [← playedBy_onSystem, playedBy_lift, Program.play_onSystem]

variable {w} {w' : System} {c : SystemCall} {a : α}

theorem perform_ok_iff {p : DiskProgram α} :
    perform p w = .ok a w' ↔ Program.run p w = (.ok a, w') := by
  rw [perform_eq_outcome]
  obtain ⟨r, w''⟩ := Program.run p w
  cases r <;> simp [outcome]

/-- A system call succeeds just when the system does not refuse it. -/
theorem perform_call_ok_iff {v : c.Value} :
    perform (call c) w = .ok v w' ↔
      ∃ d, c.perform w.disk = (.ok v, d) ∧ w' = { w with disk := d } := by
  rw [call, perform_bind, attempt_bind_ok_iff]
  constructor
  · rintro ⟨r, w₁, hsystem, hnext⟩
    rw [perform_system] at hsystem
    cases hsystem
    cases hr : (c.perform w.disk).1 with
    | ok v' =>
      rw [hr] at hnext
      cases hnext
      exact ⟨_, Prod.ext hr rfl, rfl⟩
    | error e =>
      rw [hr] at hnext
      cases hnext
  · rintro ⟨d, hc, rfl⟩
    exact ⟨.ok v, { w with disk := d }, by rw [perform_system, hc], rfl⟩

end DiskProgram

end EngineHost

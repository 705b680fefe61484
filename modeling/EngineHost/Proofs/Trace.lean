/-!
# Runs with what is seen of them

`Trace step s es s'` says that steps lead from `s` to `s'` and that `es` is what they show, the
first one first.
-/

namespace EngineHost

variable {α ε : Type}

/-- Steps one after another, with what they show. -/
inductive Trace (step : α → ε → α → Prop) : α → List ε → α → Prop
  | nil (s : α) : Trace step s [] s
  | snoc {s s' s'' : α} {es : List ε} {e : ε} : Trace step s es s' → step s' e s'' →
      Trace step s (es ++ [e]) s''

namespace Trace

variable {step : α → ε → α → Prop} {s s' s'' : α} {es es' : List ε} {e : ε}

theorem single (h : step s e s') : Trace step s [e] s' := (nil s).snoc h

theorem append (h : Trace step s es s') (h' : Trace step s' es' s'') :
    Trace step s (es ++ es') s'' := by
  induction h' with
  | nil => rwa [List.append_nil]
  | snoc _ hstep ih =>
    rw [← List.append_assoc]
    exact ih.snoc hstep

/-- The first step of a run stands for itself. -/
theorem cons (h : step s e s') (h' : Trace step s' es s'') : Trace step s (e :: es) s'' :=
  (single h).append h'

end Trace

end EngineHost

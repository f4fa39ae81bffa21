import Mathlib.Data.List.Forall2
import NdkThreadSample.Library.LabelledRun

/-!
Runs of one system as runs of another. A step of the first is matched by any
number of steps of the second, which its label tells.
-/

namespace LabelledRun
variable {σ τ ε δ : Type*} {step : σ → ε → σ → Prop} {step' : τ → δ → τ → Prop}
  {R : σ → τ → Prop} {Does : ε → List δ → Prop} {s s' : σ} {t : τ} {es : List ε}

/-- Step by step, a run of the first system is a run of the second. -/
theorem Run.refines
    (match_ : ∀ s e s' t, R s t → step s e s' → ∃ ds t', Does e ds ∧ Run step' t ds t' ∧ R s' t')
    (run : Run step s es s') (start : R s t) :
    ∃ dss t', List.Forall₂ Does es dss ∧ Run step' t dss.flatten t' ∧ R s' t' := by
  induction run generalizing t with
  | nil s => exact ⟨[], t, .nil, .nil t, start⟩
  | cons hs _ ih =>
      obtain ⟨ds, u, does, first, related⟩ := match_ _ _ _ _ start hs
      obtain ⟨dss, t', all, rest, last⟩ := ih related
      exact ⟨ds :: dss, t', .cons does all, first.append rest, last⟩

end LabelledRun

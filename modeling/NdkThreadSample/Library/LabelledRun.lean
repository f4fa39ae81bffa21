import Mathlib.Data.List.Induction

/-!
Finite runs of a labelled step relation and the two induction rules for them:
an invariant of the states, and an invariant that also sees the labels passed
so far. A property of every step of a run is stated at a split of its labels,
so that it can mention the history before the step.
-/

namespace LabelledRun
variable {σ ε : Type*}

inductive Run (step : σ → ε → σ → Prop) : σ → List ε → σ → Prop
  | nil (s : σ) : Run step s [] s
  | cons {s s' s'' : σ} {e : ε} {es : List ε} :
      step s e s' → Run step s' es s'' → Run step s (e :: es) s''

def ofFn (f : σ → ε → σ) : σ → ε → σ → Prop := fun s e s' => s' = f s e

def guarded (enabled : σ → ε → Prop) (f : σ → ε → σ) : σ → ε → σ → Prop :=
  fun s e s' => enabled s e ∧ s' = f s e

def ofPartial (f : σ → ε → Option σ) : σ → ε → σ → Prop := fun s e s' => f s e = some s'

variable {step : σ → ε → σ → Prop} {s s' s'' : σ} {e : ε} {es fs : List ε}

theorem Run.append (h : Run step s es s') (k : Run step s' fs s'') :
    Run step s (es ++ fs) s'' := by
  induction h with
  | nil _ => exact k
  | cons hs _ ih => exact .cons hs (ih k)

theorem Run.snoc (h : Run step s es s') (k : step s' e s'') :
    Run step s (es ++ [e]) s'' :=
  h.append (.cons k (.nil s''))

theorem Run.nil_inv (h : Run step s [] s') : s' = s := by
  cases h; rfl

theorem Run.cons_inv (h : Run step s (e :: es) s'') :
    ∃ s', step s e s' ∧ Run step s' es s'' := by
  cases h with
  | cons hs hr => exact ⟨_, hs, hr⟩

theorem Run.append_inv (h : Run step s (es ++ fs) s'') :
    ∃ s', Run step s es s' ∧ Run step s' fs s'' := by
  induction es generalizing s with
  | nil => exact ⟨s, .nil s, h⟩
  | cons e es ih =>
      obtain ⟨t, hs, hr⟩ := h.cons_inv
      obtain ⟨u, hu, hrest⟩ := ih hr
      exact ⟨u, .cons hs hu, hrest⟩

theorem Run.ofFn_iff (f : σ → ε → σ) : Run (ofFn f) s es s' ↔ s' = es.foldl f s := by
  constructor
  · intro h
    induction h with
    | nil _ => rfl
    | cons hs _ ih => cases hs; exact ih
  · rintro rfl
    induction es generalizing s with
    | nil => exact .nil s
    | cons e es ih => exact .cons rfl ih

theorem Run.ofPartial_iff (f : σ → ε → Option σ) :
    Run (ofPartial f) s es s' ↔ es.foldlM f s = some s' := by
  constructor
  · intro h
    induction h with
    | nil _ => rfl
    | cons hs _ ih =>
        rw [List.foldlM_cons, hs]
        exact ih
  · intro h
    induction es generalizing s with
    | nil =>
        cases h
        exact .nil _
    | cons e es ih =>
        obtain ⟨t, hs, rest⟩ := Option.bind_eq_some_iff.mp h
        exact .cons hs (ih rest)

/-- A run that is computed. -/
theorem Run.ofPartial_get (f : σ → ε → Option σ) (s : σ) (es : List ε)
    (ends : (es.foldlM f s).isSome) :
    Run (ofPartial f) s es ((es.foldlM f s).get ends) :=
  (Run.ofPartial_iff f).mpr (Option.some_get ends).symm

/-- An invariant that reads the labels passed so far holds after every run. -/
theorem Run.history {I : List ε → σ → Prop}
    (keep : ∀ past s e s', I past s → step s e s' → I (past ++ [e]) s')
    {past : List ε} (start : I past s) (h : Run step s es s') : I (past ++ es) s' := by
  induction h generalizing past with
  | nil _ => simpa using start
  | cons hs _ ih => simpa using ih (keep _ _ _ _ start hs)

theorem Run.invariant {I : σ → Prop} (keep : ∀ s e s', I s → step s e s' → I s')
    (start : I s) (h : Run step s es s') : I s' := by
  induction h with
  | nil _ => exact start
  | cons hs _ ih => exact ih (keep _ _ _ start hs)

/-- `Q past s₁ e s₂` at each step `s₁ → s₂` that the labels `es` make from `s`,
where `past` are the labels before the step; `EachPoint` is the same for states. -/
def EachStep (step : σ → ε → σ → Prop) (s : σ) (es : List ε)
    (Q : List ε → σ → ε → σ → Prop) : Prop :=
  ∀ past e rest s₁ s₂, es = past ++ e :: rest →
    Run step s past s₁ → step s₁ e s₂ → Q past s₁ e s₂

def EachPoint (step : σ → ε → σ → Prop) (s : σ) (es : List ε)
    (P : List ε → σ → Prop) : Prop :=
  ∀ past rest s₁, es = past ++ rest → Run step s past s₁ → P past s₁

theorem EachPoint.of_history {I P : List ε → σ → Prop}
    (keep : ∀ past s e s', I past s → step s e s' → I (past ++ [e]) s') (start : I [] s)
    (here : ∀ past s, I past s → P past s) : EachPoint step s es P := by
  intro past rest s₁ _ hr
  exact here past s₁ (by simpa using hr.history keep start)

/-- A place in a list with one more element is the new last one or an old one. -/
theorem split_snoc {es past rest : List ε} {e f : ε} (h : es ++ [f] = past ++ e :: rest) :
    (past = es ∧ e = f ∧ rest = []) ∨ ∃ front, rest = front ++ [f] ∧ es = past ++ e :: front := by
  cases List.eq_nil_or_concat rest with
  | inl empty =>
      subst empty
      obtain ⟨hes, hf⟩ := List.append_inj' h rfl
      exact .inl ⟨hes.symm, (List.singleton_inj.mp hf).symm, rfl⟩
  | inr last =>
      obtain ⟨front, y, rfl⟩ := last
      have longer : es ++ [f] = (past ++ e :: front) ++ [y] := by simpa using h
      obtain ⟨hes, hf⟩ := List.append_inj' longer rfl
      exact .inr ⟨front, by simpa using hf.symm, hes⟩

theorem EachStep.snoc_iff {Q : List ε → σ → ε → σ → Prop} :
    EachStep step s (es ++ [e]) Q ↔
      EachStep step s es Q ∧ ∀ s₁ s₂, Run step s es s₁ → step s₁ e s₂ → Q es s₁ e s₂ := by
  constructor
  · intro h
    refine ⟨?_, fun s₁ s₂ hr hs => h es e [] s₁ s₂ rfl hr hs⟩
    intro past f rest s₁ s₂ he hr hs
    exact h past f (rest ++ [e]) s₁ s₂ (by simp [he]) hr hs
  · intro h past f rest s₁ s₂ he hr hs
    cases split_snoc he with
    | inl new =>
        obtain ⟨rfl, rfl, _⟩ := new
        exact h.2 s₁ s₂ hr hs
    | inr old =>
        obtain ⟨front, _, he⟩ := old
        exact h.1 past f front s₁ s₂ he hr hs

/-- Two step properties that agree under an invariant agree on whole runs. -/
theorem EachStep.congr {I : List ε → σ → Prop} {Q Q' : List ε → σ → ε → σ → Prop}
    (keep : ∀ past s e s', I past s → step s e s' → I (past ++ [e]) s') (start : I [] s)
    (agree : ∀ past s e s', I past s → step s e s' → (Q past s e s' ↔ Q' past s e s')) :
    EachStep step s es Q ↔ EachStep step s es Q' := by
  constructor <;>
    (intro h past e rest s₁ s₂ he hr hs
     have hi : I past s₁ := by simpa using hr.history keep start
     have hq := h past e rest s₁ s₂ he hr hs
     first
       | exact (agree past s₁ e s₂ hi hs).mp hq
       | exact (agree past s₁ e s₂ hi hs).mpr hq)

/-- A property that holds at the start holds at every point of a run exactly
when every step, taken where it holds, keeps it. -/
theorem EachPoint.iff_steps {I P : List ε → σ → Prop} {Q : List ε → σ → ε → σ → Prop}
    (keep : ∀ past s e s', I past s → step s e s' → I (past ++ [e]) s') (start : I [] s)
    (holds : P [] s)
    (agree : ∀ past s e s', e ∈ es → I past s → P past s → step s e s' →
      (P (past ++ [e]) s' ↔ Q past s e s')) :
    EachPoint step s es P ↔ EachStep step s es Q := by
  constructor
  · intro h past e rest s₁ s₂ he hr hs
    have hi : I past s₁ := by simpa using hr.history keep start
    have mem : e ∈ es := by simp [he]
    have after : es = (past ++ [e]) ++ rest := by simpa using he
    exact (agree past s₁ e s₂ mem hi (h past _ s₁ he hr) hs).mp (h _ rest s₂ after (hr.snoc hs))
  · intro h past
    induction past using List.reverseRecOn with
    | nil =>
        intro rest s₁ _ hr
        rw [hr.nil_inv]
        exact holds
    | append_singleton past e ih =>
        intro rest s₂ he hr
        obtain ⟨s₁, front, last⟩ := hr.append_inv
        obtain ⟨s₃, hs, done⟩ := last.cons_inv
        rw [done.nil_inv]
        have he : es = past ++ e :: rest := by simpa using he
        have mem : e ∈ es := by simp [he]
        have hi : I past s₁ := by simpa using front.history keep start
        exact (agree past s₁ e s₃ mem hi (ih _ s₁ he front) hs).mpr
          (h past e rest s₁ s₃ he front hs)

end LabelledRun

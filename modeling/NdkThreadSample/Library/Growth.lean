import Mathlib.Data.List.Basic

/-!
Logs that only grow. `Gains p before after` says that a log was extended, at
its end, by entries with the property `p`; it composes, and what no such entry
can change has not changed.
-/

namespace Growth
variable {α : Type*} {p : α → Prop} {before middle after : List α} {x : α}

def Gains (p : α → Prop) (before after : List α) : Prop :=
  ∃ gained, after = before ++ gained ∧ ∀ x ∈ gained, p x

theorem Gains.refl (p : α → Prop) (log : List α) : Gains p log log := ⟨[], by simp, by simp⟩

theorem Gains.snoc (log : List α) (hx : p x) : Gains p log (log ++ [x]) :=
  ⟨[x], rfl, by simpa using hx⟩

theorem Gains.trans (h : Gains p before middle) (k : Gains p middle after) :
    Gains p before after := by
  obtain ⟨xs, rfl, hx⟩ := h
  obtain ⟨ys, rfl, hy⟩ := k
  refine ⟨xs ++ ys, by simp, ?_⟩
  intro x hmem
  cases List.mem_append.mp hmem with
  | inl h => exact hx x h
  | inr h => exact hy x h

theorem Gains.mono {q : α → Prop} (h : Gains p before after) (weaker : ∀ x, p x → q x) :
    Gains q before after := by
  obtain ⟨xs, grew, hx⟩ := h
  exact ⟨xs, grew, fun x hmem => weaker x (hx x hmem)⟩

theorem Gains.forall_mem (h : Gains p before after) (old : ∀ x ∈ before, p x) :
    ∀ x ∈ after, p x := by
  obtain ⟨xs, rfl, hx⟩ := h
  intro x hmem
  cases List.mem_append.mp hmem with
  | inl h => exact old x h
  | inr h => exact hx x h

theorem Gains.mem_iff (h : Gains p before after) (apart : ¬ p x) : x ∈ after ↔ x ∈ before := by
  obtain ⟨xs, rfl, hx⟩ := h
  constructor
  · intro hmem
    cases List.mem_append.mp hmem with
    | inl old => exact old
    | inr new => exact absurd (hx x new) apart
  · intro old
    exact List.mem_append_left xs old

theorem Gains.filter_eq {keep : α → Bool} (h : Gains p before after)
    (apart : ∀ x, p x → keep x = false) : after.filter keep = before.filter keep := by
  obtain ⟨xs, rfl, hx⟩ := h
  have none_ : xs.filter keep = [] := by
    apply List.filter_eq_nil_iff.mpr
    intro x hmem
    simp [apart x (hx x hmem)]
  rw [List.filter_append, none_, List.append_nil]

/-- A log that every step extends is extended by a run of steps. -/
theorem prefix_foldl {σ ε : Type*} (log : σ → List α) {f : σ → ε → σ}
    (grows : ∀ s e, log s <+: log (f s e)) (es : List ε) (s : σ) :
    log s <+: log (es.foldl f s) := by
  induction es generalizing s with
  | nil => exact List.prefix_rfl
  | cons e es ih => exact (grows s e).trans (ih (f s e))

end Growth

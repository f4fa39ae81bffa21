import Mathlib.Algebra.BigOperators.Intervals
import Mathlib.Algebra.Order.BigOperators.Group.Finset
import Mathlib.Algebra.Order.Ring.Int

/-!
Rounds that count down a wanted amount. Each round gets an amount that is not
under the program's control; the rounds go on while something is left and the
last one got something. Every such sequence of rounds is short, since each of
them makes progress.
-/

namespace Countdown
variable {want : Int} {got : Nat → Int} {k j : Nat}

def left (want : Int) (got : Nat → Int) (k : Nat) : Int := want - ∑ i ∈ Finset.range k, got i

/-- The first `k` rounds all find something left and get something. -/
def Served (want : Int) (got : Nat → Int) (k : Nat) : Prop :=
  ∀ i < k, 0 < left want got i ∧ 0 < got i

/-- After `k` such rounds nothing is left. -/
def Complete (want : Int) (got : Nat → Int) (k : Nat) : Prop :=
  Served want got k ∧ left want got k ≤ 0

/-- After `k` such rounds something is left and the next round gets nothing. -/
def Stuck (want : Int) (got : Nat → Int) (k : Nat) : Prop :=
  Served want got k ∧ 0 < left want got k ∧ got k ≤ 0

@[simp] theorem left_zero (want : Int) (got : Nat → Int) : left want got 0 = want := by
  simp [left]

theorem left_succ (want : Int) (got : Nat → Int) (k : Nat) :
    left want got (k + 1) = left want got k - got k := by
  simp only [left, Finset.sum_range_succ]
  omega

theorem Served.zero (want : Int) (got : Nat → Int) : Served want got 0 := by
  intro i hi
  omega

theorem Served.succ (h : Served want got k) (more : 0 < left want got k) (some_ : 0 < got k) :
    Served want got (k + 1) := by
  intro i hi
  by_cases last : i = k
  · rw [last]
    exact ⟨more, some_⟩
  · exact h i (by omega)

/-- The rounds end in one way only. -/
theorem Complete.eq (h : Complete want got k) (h' : Complete want got j) : k = j := by
  by_contra apart
  rcases Nat.lt_or_gt_of_ne apart with lt | lt
  · have more := (h'.1 k lt).1
    have done := h.2
    omega
  · have more := (h.1 j lt).1
    have done := h'.2
    omega

theorem Stuck.not_complete (h : Stuck want got k) (h' : Complete want got j) : False := by
  rcases Nat.lt_trichotomy k j with lt | same | lt
  · have some_ := (h'.1 k lt).2
    have none_ := h.2.2
    omega
  · have more := h.2.1
    have done := h'.2
    rw [same] at more
    omega
  · have more := (h.1 j lt).1
    have done := h'.2
    omega

/-- No round that is made gets more than what is left. -/
def Within (want : Int) (got : Nat → Int) : Prop :=
  ∀ k, Served want got k → 0 < left want got k → got k ≤ left want got k

theorem Within.left_nonneg (within : Within want got) (h : Served want got k) :
    min want 0 ≤ left want got k := by
  cases k with
  | zero => simp
  | succ k =>
      have before : Served want got k := fun i hi => h i (by omega)
      have bound := within k before (h k (by omega)).1
      rw [left_succ]
      omega

/-- Positive amounts that add up to the wanted one. -/
def Fills (want : Int) (got : Nat → Int) (k : Nat) : Prop :=
  (∀ i < k, 0 < got i) ∧ ∑ i ∈ Finset.range k, got i = max want 0

theorem sum_lt_of_pos (h : ∀ i < k, 0 < got i) (lt : j < k) :
    ∑ i ∈ Finset.range j, got i < ∑ i ∈ Finset.range k, got i := by
  apply Finset.sum_lt_sum_of_subset (i := j)
  · exact Finset.range_subset_range.mpr (Nat.le_of_lt lt)
  · exact Finset.mem_range.mpr lt
  · exact fun here => Nat.lt_irrefl j (Finset.mem_range.mp here)
  · exact h j lt
  · intro i hi _
    exact Int.le_of_lt (h i (Finset.mem_range.mp hi))

theorem Within.complete_iff (within : Within want got) (k : Nat) :
    Complete want got k ↔ Fills want got k := by
  constructor
  · intro h
    refine ⟨fun i hi => (h.1 i hi).2, ?_⟩
    have low := within.left_nonneg h.1
    have done := h.2
    have start : k = 0 ∨ 0 < want := by
      cases k with
      | zero => exact .inl rfl
      | succ k =>
          have first := (h.1 0 (by omega)).1
          rw [left_zero] at first
          exact .inr first
    cases start with
    | inl zero =>
        subst zero
        rw [left_zero] at done
        simp [done]
    | inr positive =>
        simp only [left] at low done
        omega
  · intro h
    refine ⟨?_, ?_⟩
    · intro i hi
      refine ⟨?_, h.1 i hi⟩
      have partial_ := sum_lt_of_pos h.1 hi
      have total := h.2
      have nonneg : 0 ≤ ∑ i ∈ Finset.range i, got i :=
        Finset.sum_nonneg (fun j hj => Int.le_of_lt (h.1 j (by
          have := Finset.mem_range.mp hj
          omega)))
      simp only [left]
      omega
    · have total := h.2
      simp only [left]
      omega

end Countdown

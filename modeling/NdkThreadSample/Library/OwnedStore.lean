import Mathlib.Data.List.Basic
import Mathlib.Logic.Function.Basic

/-!
A store that only grows, and the part of it that one thread owns: some of the
places with what is in them. What one owner does at its own places, or at a new
one, every owner of other places keeps.
-/

namespace OwnedStore
variable {α : Type*} {cells : List α} {r o : Nat → Option α} {ref : Nat} {x y : α}

def Held (cells : List α) (r : Nat → Option α) : Prop :=
  ∀ ref x, r ref = some x → cells[ref]? = some x

def Apart (r o : Nat → Option α) : Prop := ∀ ref, r ref = none ∨ o ref = none

theorem Apart.symm (h : Apart r o) : Apart o r := fun ref => (h ref).symm

theorem Held.fresh (h : Held cells r) : r cells.length = none := by
  cases owned : r cells.length with
  | none => rfl
  | some x =>
      have found := h _ _ owned
      rw [List.getElem?_eq_none (Nat.le_refl _)] at found
      cases found

theorem Held.append (h : Held cells r) (x : α) : Held (cells ++ [x]) r := by
  intro ref y owned
  have found := h ref y owned
  obtain ⟨inside, _⟩ := List.getElem?_eq_some_iff.mp found
  rw [List.getElem?_append_left inside]
  exact found

theorem Held.new (h : Held cells r) (x : α) :
    Held (cells ++ [x]) (Function.update r cells.length (some x)) := by
  intro ref y owned
  by_cases same : ref = cells.length
  · subst same
    rw [Function.update_self] at owned
    rw [List.getElem?_concat_length]
    exact owned
  · rw [Function.update_of_ne same] at owned
    exact h.append x ref y owned

theorem Held.set (h : Held cells r) (own : r ref = some x) (y : α) :
    Held (cells.set ref y) (Function.update r ref (some y)) := by
  obtain ⟨inside, _⟩ := List.getElem?_eq_some_iff.mp (h ref x own)
  intro other z owned
  by_cases same : other = ref
  · subst same
    rw [Function.update_self] at owned
    rw [List.getElem?_set_self inside]
    exact owned
  · rw [Function.update_of_ne same] at owned
    rw [List.getElem?_set_ne (Ne.symm same)]
    exact h other z owned

theorem Apart.owns_not (h : Apart r o) (own : r ref = some x) : o ref = none := by
  rcases h ref with none_ | none_
  · rw [none_] at own
    cases own
  · exact none_

theorem Held.set_other (h : Held cells o) (free : o ref = none) (y : α) :
    Held (cells.set ref y) o := by
  intro other z owned
  have different : ref ≠ other := by
    rintro rfl
    rw [free] at owned
    cases owned
  rw [List.getElem?_set_ne different]
  exact h other z owned

theorem Apart.update (h : Apart r o) (free : o ref = none) (x : Option α) :
    Apart (Function.update r ref x) o := by
  intro other
  by_cases same : other = ref
  · subst same
    exact .inr free
  · rw [Function.update_of_ne same]
    exact h other

end OwnedStore

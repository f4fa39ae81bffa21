import Mathlib.Data.List.Basic

/-!
Texts made of fields that are each followed by one separator. Cutting such a
text at the separator gives the pieces of its fields and an empty last piece,
so the text determines the pieces and nothing more; fields without a separator
are their own pieces.
-/

namespace Terminated
variable {α : Type*} [DecidableEq α]

def terminate (sep : α) (fields : List (List α)) : List α :=
  fields.flatMap (· ++ [sep])

def pieces (sep : α) (fields : List (List α)) : List (List α) :=
  fields.flatMap (List.splitOn sep)

theorem splitOn_terminate (sep : α) (fields : List (List α)) :
    (terminate sep fields).splitOn sep = pieces sep fields ++ [[]] := by
  induction fields with
  | nil => simp [terminate, pieces]
  | cons f fs ih =>
      have hcons : terminate sep (f :: fs) = f ++ sep :: terminate sep fs := by
        simp [terminate]
      rw [hcons, List.splitOn_append_cons_self, ih]
      simp [pieces]

/-- Two texts are equal exactly when their fields have the same pieces. -/
theorem terminate_eq_iff (sep : α) (fields fields' : List (List α)) :
    terminate sep fields = terminate sep fields' ↔ pieces sep fields = pieces sep fields' := by
  constructor
  · intro h
    have hs := congrArg (List.splitOn sep) h
    rw [splitOn_terminate, splitOn_terminate] at hs
    exact List.append_cancel_right hs
  · intro h
    have hs : (terminate sep fields).splitOn sep = (terminate sep fields').splitOn sep := by
      rw [splitOn_terminate, splitOn_terminate, h]
    have hi := congrArg (List.intercalate [sep]) hs
    simpa using hi

theorem pieces_of_free (sep : α) (fields : List (List α)) (free : ∀ f ∈ fields, sep ∉ f) :
    pieces sep fields = fields := by
  induction fields with
  | nil => rfl
  | cons f fs ih =>
      have hf := List.splitOn_eq_singleton (free f List.mem_cons_self)
      have hfs := ih (fun g hg => free g (List.mem_cons_of_mem _ hg))
      simp only [pieces, List.flatMap_cons, hf] at hfs ⊢
      rw [hfs]
      rfl

theorem length_le_pieces (sep : α) (fields : List (List α)) :
    fields.length ≤ (pieces sep fields).length := by
  induction fields with
  | nil => exact Nat.le_refl _
  | cons f fs ih =>
      have some_ := List.length_pos_iff.mpr (List.splitOn_ne_nil sep f)
      simp only [pieces, List.flatMap_cons, List.length_append, List.length_cons] at ih ⊢
      omega

/-- A separator in a field makes a piece more. -/
theorem free_of_length_pieces (sep : α) (fields : List (List α))
    (short : (pieces sep fields).length ≤ fields.length) : ∀ f ∈ fields, sep ∉ f := by
  induction fields with
  | nil => simp
  | cons f fs ih =>
      have rest := length_le_pieces sep fs
      simp only [pieces, List.flatMap_cons, List.length_append, List.length_cons] at ih rest short
      have some_ := List.length_pos_iff.mpr (List.splitOn_ne_nil sep f)
      rw [List.forall_mem_cons]
      refine ⟨?_, ih (by omega)⟩
      intro hsep
      obtain ⟨before, after, rfl, _⟩ := List.eq_append_cons_of_mem hsep
      have front := List.length_pos_iff.mpr (List.splitOn_ne_nil sep before)
      have back := List.length_pos_iff.mpr (List.splitOn_ne_nil sep after)
      rw [List.splitOn_append_cons_self, List.length_append] at short
      omega

/-- The pieces are the fields exactly when no field contains a separator. -/
theorem pieces_eq_iff (sep : α) (fields : List (List α)) :
    pieces sep fields = fields ↔ ∀ f ∈ fields, sep ∉ f := by
  constructor
  · intro h
    exact free_of_length_pieces sep fields (Nat.le_of_eq (congrArg List.length h))
  · exact pieces_of_free sep fields

/-- Against as many fields without a separator only equal ones have the same pieces. -/
theorem pieces_eq_iff_of_free {sep : α} {fields fields' : List (List α)}
    (same : fields.length = fields'.length) (free : ∀ f ∈ fields, sep ∉ f) :
    pieces sep fields = pieces sep fields' ↔ fields = fields' := by
  constructor
  · intro h
    have whole := pieces_of_free sep fields free
    have short : (pieces sep fields').length ≤ fields'.length := by
      rw [← h, whole]
      exact Nat.le_of_eq same
    rw [← whole, h, pieces_of_free sep fields' (free_of_length_pieces sep fields' short)]
  · rintro rfl
    rfl

end Terminated

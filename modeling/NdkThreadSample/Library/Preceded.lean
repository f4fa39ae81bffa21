import Mathlib.Data.List.Chain
import NdkThreadSample.Library.LabelledRun

/-!
Traces in which some entries need another one before them: right before them,
or at some place that nothing has closed since. Traces of the first kind can be
joined, so it is enough that each step of a run adds one; those of the second
are built up entry by entry.
-/

namespace Preceded
open LabelledRun
variable {α σ ε : Type*} {needs : α → Prop} {opens : α → α → Prop} {t u pre post : List α}
  {a b : α}

/-- No entry that needs one comes first, and each comes after one that opens it. -/
def Follows (needs : α → Prop) (opens : α → α → Prop) (t : List α) : Prop :=
  (∀ a ∈ t.head?, ¬ needs a) ∧ t.IsChain fun b a => needs a → opens b a

theorem Follows.nil : Follows needs opens [] := ⟨by simp, .nil⟩

theorem Follows.single (free : ¬ needs a) : Follows needs opens [a] :=
  ⟨by simpa using free, .singleton a⟩

theorem Follows.pair (free : ¬ needs b) (opened : opens b a) : Follows needs opens [b, a] :=
  ⟨by simpa using free, .cons_cons (fun _ => opened) (.singleton a)⟩

theorem Follows.append (h : Follows needs opens t) (k : Follows needs opens u) :
    Follows needs opens (t ++ u) := by
  constructor
  · cases t with
    | nil => exact k.1
    | cons x t => exact h.1
  · apply h.2.append k.2
    intro x _ y hy need
    exact absurd need (k.1 y hy)

theorem Follows.of_free (free : ∀ a ∈ t, ¬ needs a) : Follows needs opens t := by
  induction t with
  | nil => exact .nil
  | cons a t ih =>
      have first : Follows needs opens [a] := .single (free a List.mem_cons_self)
      exact first.append (ih fun x hx => free x (List.mem_cons_of_mem a hx))

theorem Follows.at_split (h : Follows needs opens (pre ++ a :: post)) (need : needs a) :
    ∃ before b, pre = before ++ [b] ∧ opens b a := by
  cases List.eq_nil_or_concat pre with
  | inl empty =>
      subst empty
      exact absurd need (h.1 a rfl)
  | inr last =>
      obtain ⟨before, b, rfl⟩ := last
      have chain : (before ++ b :: a :: post).IsChain fun b a => needs a → opens b a := by
        simpa using h.2
      exact ⟨before, b, by simp, (List.isChain_append_cons_cons.mp chain).2.1 need⟩

/-- Steps that add such traces to a log leave one after every run. -/
theorem Follows.run {step : σ → ε → σ → Prop} (log : σ → List α) {s s' : σ} {es : List ε}
    (adds : ∀ s e s', step s e s' → ∃ new, log s' = log s ++ new ∧ Follows needs opens new)
    (start : Follows needs opens (log s)) (run : Run step s es s') :
    Follows needs opens (log s') := by
  apply run.invariant (I := fun s => Follows needs opens (log s)) _ start
  intro s e s' before hstep
  obtain ⟨new, grown, added⟩ := adds s e s' hstep
  rw [grown]
  exact before.append added

/-! Needs that are met until something closes. -/

variable {closes : α → Prop} {wants grants : α → Prop}

def Since (grants closes : α → Prop) (t : List α) : Prop :=
  ∃ front b mid, t = front ++ b :: mid ∧ grants b ∧ ∀ x ∈ mid, ¬ closes x

/-- Each entry that wants one has a grant that nothing has closed. -/
def Granted (wants grants closes : α → Prop) (t : List α) : Prop :=
  ∀ pre a post, t = pre ++ a :: post → wants a → Since grants closes pre

theorem Since.snoc (granted : grants b) : Since grants closes (t ++ [b]) :=
  ⟨t, b, [], rfl, granted, by simp⟩

theorem Since.append (h : Since grants closes t) (quiet : ∀ x ∈ u, ¬ closes x) :
    Since grants closes (t ++ u) := by
  obtain ⟨front, b, mid, rfl, granted, before⟩ := h
  refine ⟨front, b, mid ++ u, by simp, granted, ?_⟩
  intro x hx
  cases List.mem_append.mp hx with
  | inl old => exact before x old
  | inr new => exact quiet x new

theorem Granted.nil : Granted wants grants closes [] := by
  intro pre a post h
  simp at h

theorem Granted.snoc (h : Granted wants grants closes t)
    (here : wants a → Since grants closes t) : Granted wants grants closes (t ++ [a]) := by
  intro pre x post split_ want
  cases split_snoc split_ with
  | inl last =>
      obtain ⟨rfl, rfl, _⟩ := last
      exact here want
  | inr inside =>
      obtain ⟨front, _, old⟩ := inside
      exact h pre x front old want

theorem Granted.append (h : Granted wants grants closes t) (since : Since grants closes t)
    (quiet : ∀ x ∈ u, ¬ closes x) : Granted wants grants closes (t ++ u) := by
  induction u using List.reverseRecOn with
  | nil => simpa using h
  | append_singleton u a ih =>
      have front : ∀ x ∈ u, ¬ closes x := fun x hx => quiet x (by simp [hx])
      rw [← List.append_assoc]
      exact (ih front).snoc fun _ => since.append front

end Preceded

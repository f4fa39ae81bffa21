import Mathlib.Data.List.Induction

/-!
Traces of a slot that has custody of at most one resource. A resource is
acquired only into an empty slot, used only while the slot holds it and
released from the slot; an acquisition may be attempted and fail. The relation
`Custody` says which traces are such, and what the slot holds at their end.
-/

namespace Custody

inductive Act (R : Type*)
  | attempt
  | acquire (r : R)
  | release (r : R)
  | use (r : R)
  deriving DecidableEq, Repr

variable {R : Type*}

def Act.acquired : Act R → Option R
  | .acquire r => some r
  | _ => none

def Act.released : Act R → Option R
  | .release r => some r
  | _ => none

@[simp] theorem Act.acquired_attempt : (.attempt : Act R).acquired = none := rfl
@[simp] theorem Act.acquired_acquire (r : R) : (Act.acquire r).acquired = some r := rfl
@[simp] theorem Act.acquired_release (r : R) : (Act.release r).acquired = none := rfl
@[simp] theorem Act.acquired_use (r : R) : (Act.use r).acquired = none := rfl
@[simp] theorem Act.released_attempt : (.attempt : Act R).released = none := rfl
@[simp] theorem Act.released_acquire (r : R) : (Act.acquire r).released = none := rfl
@[simp] theorem Act.released_release (r : R) : (Act.release r).released = some r := rfl
@[simp] theorem Act.released_use (r : R) : (Act.use r).released = none := rfl

inductive Next : Option R → Act R → Option R → Prop
  | attempt : Next none .attempt none
  | acquire (r : R) : Next none (.acquire r) (some r)
  | release (r : R) : Next (some r) (.release r) none
  | use (r : R) : Next (some r) (.use r) (some r)

/-- `Legal before t after`: the trace `t` takes a slot holding `before` to one
holding `after`, with every action permitted. -/
inductive Legal : Option R → List (Act R) → Option R → Prop
  | nil (held : Option R) : Legal held [] held
  | cons {before held after : Option R} {a : Act R} {t : List (Act R)} :
      Next before a held → Legal held t after → Legal before (a :: t) after

variable {before held after : Option R} {a : Act R} {t u : List (Act R)} {r : R}

theorem Legal.append (h : Legal before t held) (k : Legal held u after) :
    Legal before (t ++ u) after := by
  induction h with
  | nil _ => exact k
  | cons hn _ ih => exact .cons hn (ih k)

theorem Legal.snoc (h : Legal before t held) (k : Next held a after) :
    Legal before (t ++ [a]) after :=
  h.append (.cons k (.nil after))

theorem Legal.append_inv (h : Legal before (t ++ u) after) :
    ∃ held, Legal before t held ∧ Legal held u after := by
  induction t generalizing before with
  | nil => exact ⟨before, .nil before, h⟩
  | cons a t ih =>
      cases h with
      | cons hn hl =>
          obtain ⟨held, hp, hs⟩ := ih hl
          exact ⟨held, .cons hn hp, hs⟩

/-- A held resource may be used any number of times. -/
theorem Legal.of_uses (used : ∀ a ∈ t, a = .use r) : Legal (some r) t (some r) := by
  induction t with
  | nil => exact .nil _
  | cons a t ih =>
      cases used a List.mem_cons_self
      exact .cons (.use r) (ih (fun b hb => used b (List.mem_cons_of_mem _ hb)))

theorem Legal.snoc_inv (h : Legal before (t ++ [a]) after) :
    ∃ held, Legal before t held ∧ Next held a after := by
  obtain ⟨held, ht, ha⟩ := h.append_inv
  cases ha with
  | cons hn hl => cases hl; exact ⟨held, ht, hn⟩

theorem Legal.at_split (h : Legal before (t ++ a :: u) after) :
    ∃ x y, Legal before t x ∧ Next x a y ∧ Legal y u after := by
  obtain ⟨x, ht, ha⟩ := h.append_inv
  cases ha with
  | cons hn hl => exact ⟨x, _, ht, hn, hl⟩

/-- Ledger balance: what was held and what was acquired is, in order, what was
released and what is held. -/
theorem Legal.balance (h : Legal before t after) :
    before.toList ++ t.filterMap Act.acquired =
      t.filterMap Act.released ++ after.toList := by
  induction h with
  | nil held => simp
  | cons hn _ ih => cases hn <;> simpa [List.filterMap_cons] using ih

/-- Over a stretch without acquisitions at most one resource is released, and
exactly one when the slot is emptied. -/
theorem Legal.releases_le_one (h : Legal before t after)
    (quiet : t.filterMap Act.acquired = []) :
    (t.filterMap Act.released).length ≤ 1 ∧
      (before ≠ none → after = none → (t.filterMap Act.released).length = 1) := by
  have balance : before.toList.length =
      (t.filterMap Act.released).length + after.toList.length := by
    simpa [quiet] using congrArg List.length h.balance
  have one : before.toList.length ≤ 1 := by cases before <;> simp
  refine ⟨by omega, ?_⟩
  intro held empty
  obtain ⟨r, rfl⟩ := Option.ne_none_iff_exists'.mp held
  subst empty
  simpa using balance.symm

/-- When every acquisition is of a fresh resource no resource is released
twice, and the one that is acquired and not released is the one held. -/
theorem Legal.fresh_once (h : Legal none t after)
    (fresh : (t.filterMap Act.acquired).Nodup) :
    (t.filterMap Act.released).Nodup ∧
      ∀ r, (r ∈ t.filterMap Act.acquired ∧ r ∉ t.filterMap Act.released) ↔ after = some r := by
  have balance : t.filterMap Act.acquired = t.filterMap Act.released ++ after.toList := by
    simpa using h.balance
  rw [balance] at fresh ⊢
  obtain ⟨once, _, apart⟩ := List.nodup_append.mp fresh
  refine ⟨once, ?_⟩
  intro r
  rw [List.mem_append, Option.mem_toList]
  constructor
  · intro hr
    exact hr.1.resolve_left hr.2
  · intro held
    refine ⟨.inr held, ?_⟩
    intro released
    exact apart r released r (by simp [held]) rfl

theorem Legal.quiet (h : Legal before t after)
    (acquired : ∀ a ∈ t, a.acquired = none) (released : ∀ a ∈ t, a.released = none) :
    after = before := by
  have balance := h.balance
  rw [List.filterMap_eq_nil_iff.mpr acquired, List.filterMap_eq_nil_iff.mpr released] at balance
  cases before <;> cases after <;> simp_all

/-- A held resource was acquired last and has only been used since. -/
theorem Legal.latest (h : Legal none t (some r)) :
    ∃ pre post, t = pre ++ .acquire r :: post ∧ ∀ a ∈ post, a = .use r := by
  induction t using List.reverseRecOn with
  | nil => cases h
  | append_singleton t a ih =>
      obtain ⟨mid, ht, hn⟩ := h.snoc_inv
      cases hn with
      | acquire => exact ⟨t, [], rfl, by simp⟩
      | use =>
          obtain ⟨pre, post, rfl, used⟩ := ih ht
          refine ⟨pre, post ++ [.use r], by simp, ?_⟩
          simpa [or_imp, forall_and] using used

theorem Legal.holds_of_quiet (h : Legal before (t ++ .acquire r :: u) held)
    (acquired : ∀ a ∈ u, a.acquired = none) (released : ∀ a ∈ u, a.released = none) :
    held = some r := by
  obtain ⟨x, y, _, hn, hl⟩ := h.at_split
  cases hn
  exact hl.quiet acquired released

end Custody

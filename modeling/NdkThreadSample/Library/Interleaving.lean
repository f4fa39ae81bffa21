import Mathlib.Logic.Function.Basic
import NdkThreadSample.Library.LabelledRun

/-!
Threads that take turns on a shared state. A program performs one operation at
a time and goes on with the reply; between two operations of a thread any other
thread may run. Each thread holds a resource of its own. When every operation
leaves alone what is apart from its thread's resource, a triple proved of one
program by itself holds of it in every interleaving.
-/

namespace Interleaving
open LabelledRun
variable {Op : Type} {Reply : Op → Type} {α β σ ι κ ρ : Type}

inductive Prog {Op : Type} (Reply : Op → Type) (α : Type) : Type
  | done (result : α)
  | act (op : Op) (next : Reply op → Prog Reply α)

def Prog.bind : Prog Reply α → (α → Prog Reply β) → Prog Reply β
  | .done a, f => f a
  | .act op next, f => .act op fun reply => (next reply).bind f

instance : Monad (Prog Reply) where
  pure := .done
  bind := .bind

def perform (op : Op) : Prog Reply (Reply op) := .act op .done

structure System (Reply : Op → Type) (α σ : Type) where
  shared : σ
  threads : List (Prog Reply α)

/-- `choice` settles what an operation leaves open. -/
inductive Event (ι κ : Type)
  | start (arg : ι)
  | act (thread : Nat) (choice : κ)
  deriving DecidableEq

/-- `does` is `none` where an operation fails. -/
def advance (does : σ → (op : Op) → κ → Option (Reply op × σ)) (body : ι → Prog Reply α)
    (s : System Reply α σ) : Event ι κ → Option (System Reply α σ)
  | .start arg => some { s with threads := s.threads ++ [body arg] }
  | .act i choice =>
    match s.threads[i]? with
    | some (.act op next) => do
      let (reply, shared) ← does s.shared op choice
      return ⟨shared, s.threads.set i (next reply)⟩
    | _ => none

/-- Threads that start only where `starts` lets them, with what their start does
to the shared state. -/
def advanceWhere (starts : System Reply α σ → ι → Option σ)
    (does : σ → (op : Op) → κ → Option (Reply op × σ)) (body : ι → Prog Reply α)
    (s : System Reply α σ) : Event ι κ → Option (System Reply α σ)
  | .start arg => (starts s arg).map fun shared => ⟨shared, s.threads ++ [body arg]⟩
  | .act i choice => advance does body s (.act i choice)

/-- What always holds of the shared state, when it has a thread's resource in
it, and which resources do not touch each other. -/
structure Sharing (σ ρ : Type) where
  inv : σ → Prop
  holds : σ → ρ → Prop
  apart : ρ → ρ → Prop
  idle : ρ
  symm : ∀ r o, apart r o → apart o r
  idle_held : ∀ s, holds s idle
  idle_apart : ∀ r, apart r idle

/-- A step of a thread with resource `r` that leaves it with `r'`. -/
structure Sharing.Moves (D : Sharing σ ρ) (s : σ) (r : ρ) (s' : σ) (r' : ρ) : Prop where
  inv : D.inv s'
  held : D.holds s' r'
  others : ∀ o, D.holds s o → D.apart r o → D.holds s' o ∧ D.apart r' o

/-- The start of a thread with resource `r`: no one loses anything by it, and the
resource touches no other. -/
structure Sharing.Admits (D : Sharing σ ρ) (s s' : σ) (r : ρ) : Prop where
  inv : D.inv s'
  keeps : ∀ o, D.holds s o → D.holds s' o
  held : D.holds s' r
  alone : ∀ o, D.apart o r

variable {does : σ → (op : Op) → κ → Option (Reply op × σ)} {D : Sharing σ ρ}
  {Q : α → ρ → Prop} {body : ι → Prog Reply α}

/-- From resource `r` the program never fails and ends with `Q`. -/
def Safe (does : σ → (op : Op) → κ → Option (Reply op × σ)) (D : Sharing σ ρ)
    (Q : α → ρ → Prop) : Prog Reply α → ρ → Prop
  | .done a, r => Q a r
  | .act op next, r => ∀ s choice, D.inv s → D.holds s r →
      ∃ reply s' r', does s op choice = some (reply, s') ∧ D.Moves s r s' r' ∧
        Safe does D Q (next reply) r'

theorem Safe.bind {p : Prog Reply α} {f : α → Prog Reply β} {R : β → ρ → Prop} {r : ρ}
    (first : Safe does D (fun a r => Safe does D R (f a) r) p r) :
    Safe does D R (p >>= f) r := by
  change Safe does D R (p.bind f) r
  induction p generalizing r with
  | done a => exact first
  | act op next ih =>
      intro s choice inv held
      obtain ⟨reply, s', r', done, moves, safe⟩ := first s choice inv held
      exact ⟨reply, s', r', done, moves, ih reply safe⟩

/-- One operation, by what it does in every state that holds the resource. -/
theorem Safe.perform (op : Op) {R : Reply op → ρ → Prop} {r : ρ}
    (does_ : ∀ s choice, D.inv s → D.holds s r →
      ∃ reply s' r', does s op choice = some (reply, s') ∧ D.Moves s r s' r' ∧ R reply r') :
    Safe does D R (perform op) r :=
  does_

/-! All threads together. -/

structure Coherent (does : σ → (op : Op) → κ → Option (Reply op × σ)) (D : Sharing σ ρ)
    (Q : α → ρ → Prop) (s : System Reply α σ) (own : Nat → ρ) : Prop where
  inv : D.inv s.shared
  held : ∀ i p, s.threads[i]? = some p → D.holds s.shared (own i)
  safe : ∀ i p, s.threads[i]? = some p → Safe does D Q p (own i)
  apart : ∀ i j p q, s.threads[i]? = some p → s.threads[j]? = some q → i ≠ j →
    D.apart (own i) (own j)

section
variable {s s' : System Reply α σ} {own : Nat → ρ}

/-- A thread starts. -/
theorem Coherent.start (h : Coherent does D Q s own) {shared : σ} {p : Prog Reply α} {r : ρ}
    (admits : D.Admits s.shared shared r) (safe : Safe does D Q p r) :
    Coherent does D Q ⟨shared, s.threads ++ [p]⟩ (Function.update own s.threads.length r) := by
  have thread (i : Nat) (q : Prog Reply α) (found : (s.threads ++ [p])[i]? = some q) :
      (s.threads[i]? = some q ∧ i ≠ s.threads.length) ∨ (i = s.threads.length ∧ q = p) := by
    rcases Nat.lt_trichotomy i s.threads.length with less | rfl | more
    · rw [List.getElem?_append_left less] at found
      exact .inl ⟨found, Nat.ne_of_lt less⟩
    · exact .inr ⟨rfl, by simpa using found.symm⟩
    · rw [List.getElem?_eq_none (by simp; omega)] at found
      cases found
  refine ⟨admits.inv, ?_, ?_, ?_⟩
  · intro i p found
    rcases thread i p found with ⟨old, other⟩ | ⟨rfl, rfl⟩
    · rw [Function.update_of_ne other]
      exact admits.keeps _ (h.held i p old)
    · rw [Function.update_self]
      exact admits.held
  · intro i p found
    rcases thread i p found with ⟨old, other⟩ | ⟨rfl, rfl⟩
    · rw [Function.update_of_ne other]
      exact h.safe i p old
    · rw [Function.update_self]
      exact safe
  · intro i j p q foundI foundJ different
    rcases thread i p foundI with ⟨oldI, otherI⟩ | ⟨rfl, rfl⟩ <;>
      rcases thread j q foundJ with ⟨oldJ, otherJ⟩ | ⟨rfl, rfl⟩
    · rw [Function.update_of_ne otherI, Function.update_of_ne otherJ]
      exact h.apart i j p q oldI oldJ different
    · rw [Function.update_of_ne otherI, Function.update_self]
      exact admits.alone _
    · rw [Function.update_self, Function.update_of_ne otherJ]
      exact D.symm _ _ (admits.alone _)
    · exact absurd rfl different

/-- A thread that is not done can act, and everything stays coherent. -/
theorem Coherent.act (h : Coherent does D Q s own) {i : Nat} {op : Op}
    {next : Reply op → Prog Reply α} (found : s.threads[i]? = some (.act op next))
    (choice : κ) :
    ∃ reply shared r, does s.shared op choice = some (reply, shared) ∧
      Coherent does D Q ⟨shared, s.threads.set i (next reply)⟩ (Function.update own i r) := by
  obtain ⟨reply, shared, r, done, moves, safe⟩ :=
    h.safe i _ found s.shared choice h.inv (h.held i _ found)
  obtain ⟨inside, _⟩ := List.getElem?_eq_some_iff.mp found
  have thread (j : Nat) (p : Prog Reply α) (at_ : (s.threads.set i (next reply))[j]? = some p) :
      (s.threads[j]? = some p ∧ j ≠ i) ∨ (j = i ∧ p = next reply) := by
    by_cases same : j = i
    · subst same
      rw [List.getElem?_set_self inside] at at_
      exact .inr ⟨rfl, (Option.some.inj at_).symm⟩
    · rw [List.getElem?_set_ne (Ne.symm same)] at at_
      exact .inl ⟨at_, same⟩
  have others (j : Nat) (p : Prog Reply α) (at_ : s.threads[j]? = some p) (other : j ≠ i) :=
    moves.others (own j) (h.held j p at_) (h.apart i j _ p found at_ other.symm)
  refine ⟨reply, shared, r, done, moves.inv, ?_, ?_, ?_⟩
  · intro j p at_
    rcases thread j p at_ with ⟨old, other⟩ | ⟨rfl, rfl⟩
    · rw [Function.update_of_ne other]
      exact (others j p old other).1
    · rw [Function.update_self]
      exact moves.held
  · intro j p at_
    rcases thread j p at_ with ⟨old, other⟩ | ⟨rfl, rfl⟩
    · rw [Function.update_of_ne other]
      exact h.safe j p old
    · rw [Function.update_self]
      exact safe
  · intro j k p q atJ atK different
    rcases thread j p atJ with ⟨oldJ, otherJ⟩ | ⟨rfl, rfl⟩ <;>
      rcases thread k q atK with ⟨oldK, otherK⟩ | ⟨rfl, rfl⟩
    · rw [Function.update_of_ne otherJ, Function.update_of_ne otherK]
      exact h.apart j k p q oldJ oldK different
    · rw [Function.update_of_ne otherJ, Function.update_self]
      exact D.symm _ _ (others j p oldJ otherJ).2
    · rw [Function.update_self, Function.update_of_ne otherK]
      exact (others k q oldK otherK).2
    · exact absurd rfl different

theorem Coherent.step_act (h : Coherent does D Q s own) {i : Nat} {choice : κ}
    (hs : advance does body s (.act i choice) = some s') :
    ∃ own', Coherent does D Q s' own' := by
  simp only [advance] at hs
  split at hs
  · next op next found =>
      obtain ⟨reply, shared, r, done, coherent⟩ := h.act found choice
      rw [done] at hs
      cases hs
      exact ⟨_, coherent⟩
  · cases hs

/-- Whatever the others have done so far, a thread gets to its end. -/
theorem Coherent.finishes {step : System Reply α σ → Event ι κ → System Reply α σ → Prop}
    (h : Coherent does D Q s own)
    (acts : ∀ s i choice s', advance does body s (.act i choice) = some s' →
      step s (.act i choice) s')
    (choice : κ) {i : Nat} {p : Prog Reply α} (found : s.threads[i]? = some p) :
    ∃ es s' a, Run step s es s' ∧ (∀ e ∈ es, e = .act i choice) ∧
      s'.threads[i]? = some (.done a) := by
  induction p generalizing s own with
  | done a => exact ⟨[], s, a, .nil s, by simp, found⟩
  | act op next ih =>
      obtain ⟨reply, shared, r, done, coherent⟩ := h.act found choice
      obtain ⟨inside, _⟩ := List.getElem?_eq_some_iff.mp found
      obtain ⟨es, s', a, run, own', finished⟩ :=
        ih reply coherent (List.getElem?_set_self inside)
      refine ⟨.act i choice :: es, s', a, .cons (acts _ _ _ _ ?_) run, by simpa using own',
        finished⟩
      simp only [advance, found, done]
      rfl

theorem coherent_start {shared : σ} (inv : D.inv shared) (own : Nat → ρ) :
    Coherent does D Q ⟨shared, []⟩ own := by
  refine ⟨inv, ?_, ?_, ?_⟩
  · intro i p found
    cases found
  · intro i p found
    cases found
  · intro i j p q found
    cases found

theorem run_coherent {shared : σ} (inv : D.inv shared)
    (safe : ∀ arg, Safe does D Q (body arg) D.idle) {es : List (Event ι κ)}
    (run : Run (ofPartial (advance does body)) ⟨shared, []⟩ es s) :
    ∃ own, Coherent does D Q s own := by
  apply run.invariant (I := fun s => ∃ own, Coherent does D Q s own)
  · rintro s e s' ⟨own, coherent⟩ hs
    cases e with
    | start arg =>
        cases hs
        exact ⟨_, coherent.start ⟨coherent.inv, fun _ held => held, D.idle_held _, D.idle_apart⟩
          (safe arg)⟩
    | act i choice => exact coherent.step_act hs
  · exact ⟨fun _ => D.idle, coherent_start inv _⟩

end

/-! How many operations a program takes, whatever the others do. -/

/-- The program has ended after `n` operations. -/
def Within : Prog Reply α → Nat → Prop
  | .done _, _ => True
  | .act _ next, n => ∃ m, n = m + 1 ∧ ∀ reply, Within (next reply) m

theorem Within.mono {p : Prog Reply α} {m n : Nat} (h : Within p m) (le : m ≤ n) : Within p n := by
  induction p generalizing m n with
  | done _ => trivial
  | act op next ih =>
      obtain ⟨k, rfl, rest⟩ := h
      exact ⟨n - 1, by omega, fun reply => ih reply (rest reply) (by omega)⟩

theorem Within.bind {p : Prog Reply α} {f : α → Prog Reply β} {m n : Nat} (first : Within p m)
    (rest : ∀ a, Within (f a) n) : Within (p >>= f) (m + n) := by
  change Within (p.bind f) (m + n)
  induction p generalizing m with
  | done a => exact (rest a).mono (Nat.le_add_left n m)
  | act op next ih =>
      obtain ⟨k, rfl, more⟩ := first
      exact ⟨k + n, by omega, fun reply => ih reply (more reply)⟩

def Event.acts (i : Nat) : Event ι κ → Bool
  | .start _ => false
  | .act j _ => i == j

def Event.started : Event ι κ → Option ι
  | .start arg => some arg
  | .act _ _ => none

/-- Each thread has what is left of its bound after its own operations. -/
structure Spent (body : ι → Prog Reply α) (bound : ι → Nat) (past : List (Event ι κ))
    (s : System Reply α σ) : Prop where
  started : (past.filterMap Event.started).length = s.threads.length
  unborn : ∀ i, s.threads.length ≤ i → past.countP (Event.acts i) = 0
  left : ∀ i p arg, s.threads[i]? = some p → (past.filterMap Event.started)[i]? = some arg →
    ∃ n, Within p n ∧ past.countP (Event.acts i) + n ≤ bound arg

section
variable {bound : ι → Nat} {past : List (Event ι κ)} {s s' : System Reply α σ}

theorem Spent.start (h : Spent body bound past s) (arg : ι) (within : Within (body arg) (bound arg))
    (shared : σ) :
    Spent body bound (past ++ [.start arg]) ⟨shared, s.threads ++ [body arg]⟩ := by
  have starts : (past ++ [Event.start arg]).filterMap Event.started =
      past.filterMap Event.started ++ [arg] := by
    rw [List.filterMap_append]
    rfl
  have same (i : Nat) : (past ++ [Event.start arg]).countP (Event.acts i) =
      past.countP (Event.acts i) := by
    rw [List.countP_append]
    rfl
  refine ⟨?_, ?_, ?_⟩
  · rw [starts, List.length_append, List.length_append, h.started]
    rfl
  · intro i beyond
    rw [List.length_append] at beyond
    rw [same]
    exact h.unborn i (Nat.le_of_add_right_le beyond)
  · intro i p arg' found from_
    rw [starts] at from_
    rw [same]
    by_cases old : i < s.threads.length
    · rw [List.getElem?_append_left old] at found
      rw [List.getElem?_append_left (h.started ▸ old)] at from_
      exact h.left i p arg' found from_
    · have last : i = s.threads.length := by
        have inside := (List.getElem?_eq_some_iff.mp found).1
        rw [List.length_append, List.length_singleton] at inside
        omega
      subst last
      rw [List.getElem?_concat_length] at found
      rw [← h.started, List.getElem?_concat_length] at from_
      cases found
      cases from_
      have unused := h.unborn _ (Nat.le_refl _)
      exact ⟨bound arg, within, by omega⟩

theorem Spent.act (h : Spent body bound past s) {i : Nat} {choice : κ} {op : Op}
    {next : Reply op → Prog Reply α} (found : s.threads[i]? = some (.act op next))
    (reply : Reply op) (shared : σ) :
    Spent body bound (past ++ [.act i choice])
      ⟨shared, s.threads.set i (next reply)⟩ := by
  have starts : (past ++ [Event.act i choice]).filterMap Event.started =
      past.filterMap Event.started := by
    rw [List.filterMap_append]
    exact List.append_nil _
  have inside := (List.getElem?_eq_some_iff.mp found).1
  have others (j : Nat) (other : j ≠ i) : (past ++ [Event.act i choice]).countP (Event.acts j) =
      past.countP (Event.acts j) := by
    rw [List.countP_append, List.countP_singleton, Event.acts, beq_eq_false_iff_ne.mpr other]
    rfl
  refine ⟨?_, ?_, ?_⟩
  · rw [starts, List.length_set]
    exact h.started
  · intro j beyond
    rw [List.length_set] at beyond
    rw [others j (by omega)]
    exact h.unborn j beyond
  · intro j p arg at_ from_
    rw [starts] at from_
    by_cases same : j = i
    · subst same
      rw [List.getElem?_set_self inside] at at_
      cases at_
      obtain ⟨n, ⟨m, rfl, within⟩, less⟩ := h.left j _ arg found from_
      refine ⟨m, within reply, ?_⟩
      rw [List.countP_append, List.countP_singleton, Event.acts, beq_self_eq_true, if_pos rfl]
      omega
    · rw [List.getElem?_set_ne (Ne.symm same)] at at_
      rw [others j same]
      exact h.left j p arg at_ from_

theorem Spent.step (h : Spent body bound past s) {starts : System Reply α σ → ι → Option σ}
    (within : ∀ arg, Within (body arg) (bound arg)) {e : Event ι κ}
    (hs : advanceWhere starts does body s e = some s') : Spent body bound (past ++ [e]) s' := by
  cases e with
  | start arg =>
      obtain ⟨shared, _, rfl⟩ := Option.map_eq_some_iff.mp hs
      exact h.start arg (within arg) shared
  | act i choice =>
      simp only [advanceWhere, advance] at hs
      split at hs
      · next op next found =>
          obtain ⟨done, _, last⟩ := Option.bind_eq_some_iff.mp hs
          cases last
          exact h.act found done.1 done.2
      · cases hs

end

end Interleaving

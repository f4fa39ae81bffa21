import NdkThreadSample.Library.Interleaving
import NdkThreadSample.Library.OwnedStore

/-!
The arrays of the Java VM as the threads of the sample share them, one element
at a time. A thread owns the arrays it has made; `fits` is what an array must
keep to once a field of the card refers to it.
-/

namespace NdkThreadSample.NativeLib
open Interleaving OwnedStore

inductive Kind
  | bytes
  | ints
  deriving DecidableEq, Repr

abbrev Kind.Cell : Kind → Type
  | .bytes => Int8
  | .ints => Int

def Kind.zero : (k : Kind) → k.Cell
  | .bytes => 0
  | .ints => 0

/-- `card` are the fields of `fields.card_object`, which has one of each kind:
`buffer` and `size`. -/
structure Heap where
  arrays : (k : Kind) → List (List k.Cell)
  card : Kind → Option Nat

def Heap.init : Heap := ⟨fun _ => [], fun _ => none⟩

inductive HeapOp
  | newArray (k : Kind) (length : Nat)
  | getArrayLength (k : Kind) (ref : Nat)
  | load (k : Kind) (ref i : Nat)
  | store (k : Kind) (ref i : Nat) (cell : k.Cell)
  | setObjectField (k : Kind) (ref : Nat)
  | isCopy

def HeapOp.Reply : HeapOp → Type
  | .newArray .. | .getArrayLength .. => Nat
  | .load k .. => k.Cell
  | .store .. | .setObjectField .. => Unit
  | .isCopy => Bool

def Heap.setArrays (s : Heap) (k : Kind) (arrays : List (List k.Cell)) : Heap :=
  { s with arrays := Function.update s.arrays k arrays }

/-- An array that is not there or an index out of range is `none`. The VM
chooses whether the elements of an array are a copy. -/
def Heap.does (s : Heap) : (op : HeapOp) → Bool → Option (op.Reply × Heap)
  | .newArray k length, _ =>
    some ((s.arrays k).length, s.setArrays k (s.arrays k ++ [List.replicate length k.zero]))
  | .getArrayLength k ref, _ => (s.arrays k)[ref]?.map fun xs => (xs.length, s)
  | .load k ref i, _ => ((s.arrays k)[ref]?.bind (·[i]?)).map fun x => (x, s)
  | .store k ref i cell, _ =>
    match (s.arrays k)[ref]? with
    | none => none
    | some xs =>
      if i < xs.length then some ((), s.setArrays k ((s.arrays k).set ref (xs.set i cell)))
      else none
  | .setObjectField k ref, _ => some ((), { s with card := Function.update s.card k (some ref) })
  | .isCopy, choice => some (choice, s)

abbrev Java := Prog HeapOp.Reply

def newArray (k : Kind) (length : Nat) : Java Nat :=
  perform (HeapOp.newArray k length)

def getArrayLength (k : Kind) (ref : Nat) : Java Nat :=
  perform (HeapOp.getArrayLength k ref)

def load (k : Kind) (ref i : Nat) : Java k.Cell :=
  perform (HeapOp.load k ref i)

def store (k : Kind) (ref i : Nat) (cell : k.Cell) : Java Unit :=
  perform (HeapOp.store k ref i cell)

def setObjectField (k : Kind) (ref : Nat) : Java Unit :=
  perform (HeapOp.setObjectField k ref)

def isCopy : Java Bool := perform HeapOp.isCopy

/-! What a thread owns, and one rule for each operation. -/

abbrev Arrays := (k : Kind) → Nat → Option (List k.Cell)

def Arrays.put (r : Arrays) (k : Kind) (ref : Nat) (xs : List k.Cell) : Arrays :=
  Function.update r k (Function.update (r k) ref (some xs))

section
variable {r : Arrays} {k k' : Kind} {ref ref' i : Nat} {xs : List k.Cell}

@[simp] theorem Arrays.put_self : r.put k ref xs k ref = some xs := by
  simp [Arrays.put]

theorem Arrays.put_kind (other : k' ≠ k) : r.put k ref xs k' = r k' :=
  Function.update_of_ne other _ _

theorem Arrays.put_ref (other : ref' ≠ ref) : r.put k ref xs k ref' = r k ref' := by
  simp [Arrays.put, other]

theorem Arrays.put_put {ys : List k.Cell} : (r.put k ref xs).put k ref ys = r.put k ref ys := by
  simp [Arrays.put]

theorem Arrays.put_eq (own : r k ref = some xs) : r.put k ref xs = r := by
  rw [Arrays.put, ← own, Function.update_eq_self, Function.update_eq_self]

end

/-- Every array that the card refers to fits. -/
def CardFits (fits : (k : Kind) → List k.Cell → Prop) (s : Heap) : Prop :=
  ∀ k ref, s.card k = some ref → ∃ xs, (s.arrays k)[ref]? = some xs ∧ fits k xs

def sharing (fits : (k : Kind) → List k.Cell → Prop) : Sharing Heap Arrays where
  inv := CardFits fits
  holds s r := ∀ k, Held (s.arrays k) (r k)
  apart r o := ∀ k, Apart (r k) (o k)
  idle := fun _ _ => none
  symm _ _ h k := (h k).symm
  idle_held _ _ _ _ h := nomatch h
  idle_apart _ _ _ := .inr rfl

section
variable {fits : (k : Kind) → List k.Cell → Prop} {s : Heap} {r : Arrays} {k : Kind}
  {ref i : Nat} {xs : List k.Cell}

/-- A step that only reads. -/
theorem moves_same (inv : CardFits fits s) (held : ∀ k, Held (s.arrays k) (r k)) :
    (sharing fits).Moves s r s r :=
  ⟨inv, held, fun _ other apart => ⟨other, apart⟩⟩

/-- A step at arrays of kind `k`, by what it does to those alone. -/
theorem moves_setArrays {arrays : List (List k.Cell)} {own : Nat → Option (List k.Cell)}
    (held : ∀ k, Held (s.arrays k) (r k))
    (inv : ∀ ref, s.card k = some ref → ∃ xs, arrays[ref]? = some xs ∧ fits k xs)
    (others_inv : CardFits fits s) (own_held : Held arrays own)
    (others : ∀ o, Held (s.arrays k) o → Apart (r k) o → Held arrays o ∧ Apart own o) :
    (sharing fits).Moves s r (s.setArrays k arrays) (Function.update r k own) := by
  have at_ (k' : Kind) : k' = k ∨ ((s.setArrays k arrays).arrays k' = s.arrays k' ∧
      Function.update r k own k' = r k') := by
    by_cases same : k' = k
    · exact .inl same
    · exact .inr ⟨Function.update_of_ne same _ _, Function.update_of_ne same _ _⟩
  have here : (s.setArrays k arrays).arrays k = arrays := Function.update_self _ _ _
  have mine : Function.update r k own k = own := Function.update_self _ _ _
  refine ⟨?_, ?_, ?_⟩
  · intro k' ref hcard
    rcases at_ k' with rfl | ⟨same, _⟩
    · rw [here]
      exact inv ref hcard
    · rw [same]
      exact others_inv k' ref hcard
  · intro k'
    rcases at_ k' with rfl | ⟨same, kept⟩
    · rw [here, mine]
      exact own_held
    · rw [same, kept]
      exact held k'
  · intro o other apart
    have each (k' : Kind) : Held ((s.setArrays k arrays).arrays k') (o k') ∧
        Apart (Function.update r k own k') (o k') := by
      rcases at_ k' with rfl | ⟨same, kept⟩
      · rw [here, mine]
        exact others (o k') (other k') (apart k')
      · rw [same, kept]
        exact ⟨other k', apart k'⟩
    exact ⟨fun k' => (each k').1, fun k' => (each k').2⟩

theorem safe_newArray {Q : Nat → Arrays → Prop} {length : Nat}
    (after : ∀ ref, r k ref = none → Q ref (r.put k ref (List.replicate length k.zero))) :
    Safe Heap.does (sharing fits) Q (newArray k length) r := by
  refine Safe.perform (HeapOp.newArray k length) ?_
  intro s choice inv held
  have fresh := (held k).fresh
  refine ⟨_, _, _, rfl, moves_setArrays held ?_ inv ((held k).new _) ?_, after _ fresh⟩
  · intro ref hcard
    obtain ⟨xs, found, fit⟩ := inv k ref hcard
    obtain ⟨inside, _⟩ := List.getElem?_eq_some_iff.mp found
    rw [List.getElem?_append_left inside]
    exact ⟨xs, found, fit⟩
  · intro o other apart
    exact ⟨other.append _, apart.update other.fresh _⟩

theorem safe_getArrayLength {Q : Nat → Arrays → Prop} (own : r k ref = some xs)
    (after : Q xs.length r) :
    Safe Heap.does (sharing fits) Q (getArrayLength k ref) r := by
  refine Safe.perform (HeapOp.getArrayLength k ref) ?_
  intro s choice inv held
  have done : s.does (.getArrayLength k ref) choice = some (xs.length, s) := by
    simp only [Heap.does, held k ref xs own]
    rfl
  exact ⟨_, _, _, done, moves_same inv held, after⟩

theorem safe_load {Q : k.Cell → Arrays → Prop} {x : k.Cell} (own : r k ref = some xs)
    (inside : xs[i]? = some x) (after : Q x r) :
    Safe Heap.does (sharing fits) Q (load k ref i) r := by
  refine Safe.perform (HeapOp.load k ref i) ?_
  intro s choice inv held
  have done : s.does (.load k ref i) choice = some (x, s) := by
    simp only [Heap.does, held k ref xs own, Option.bind_some, inside]
    rfl
  exact ⟨_, _, _, done, moves_same inv held, after⟩

theorem safe_store {Q : Unit → Arrays → Prop} {cell : k.Cell} (own : r k ref = some xs)
    (inside : i < xs.length) (keeps : fits k xs → fits k (xs.set i cell))
    (after : Q () (r.put k ref (xs.set i cell))) :
    Safe Heap.does (sharing fits) Q (store k ref i cell) r := by
  refine Safe.perform (HeapOp.store k ref i cell) ?_
  intro s choice inv held
  have found := held k ref xs own
  have done : s.does (.store k ref i cell) choice =
      some ((), s.setArrays k ((s.arrays k).set ref (xs.set i cell))) := by
    simp only [Heap.does, found, if_pos inside]
    rfl
  refine ⟨_, _, _, done, moves_setArrays held ?_ inv ((held k).set own _) ?_, after⟩
  · intro other hcard
    obtain ⟨ys, there, fit⟩ := inv k other hcard
    by_cases same : ref = other
    · subst same
      cases there.symm.trans found
      exact ⟨_, List.getElem?_set_self (List.getElem?_eq_some_iff.mp found).1, keeps fit⟩
    · rw [List.getElem?_set_ne same]
      exact ⟨ys, there, fit⟩
  · intro o other apart
    have free := apart.owns_not own
    exact ⟨other.set_other free _, apart.update free _⟩

theorem safe_setObjectField {Q : Unit → Arrays → Prop} (own : r k ref = some xs)
    (fit : fits k xs) (after : Q () r) :
    Safe Heap.does (sharing fits) Q (setObjectField k ref) r := by
  refine Safe.perform (HeapOp.setObjectField k ref) ?_
  intro s choice inv held
  refine ⟨_, _, _, rfl, ⟨?_, held, fun _ other apart => ⟨other, apart⟩⟩, after⟩
  intro k' ref' hcard
  change Function.update s.card k (some ref) k' = some ref' at hcard
  by_cases same : k' = k
  · subst same
    rw [Function.update_self] at hcard
    cases hcard
    exact ⟨xs, held k' ref xs own, fit⟩
  · rw [Function.update_of_ne same] at hcard
    exact inv k' ref' hcard

theorem safe_isCopy {Q : Bool → Arrays → Prop} (after : ∀ copied, Q copied r) :
    Safe Heap.does (sharing fits) Q isCopy r := by
  refine Safe.perform HeapOp.isCopy ?_
  intro s choice inv held
  exact ⟨_, _, _, rfl, moves_same inv held, after choice⟩

end

end NdkThreadSample.NativeLib

import NdkThreadSample.Library.CText

/-!
Arrays of a managed heap that native code reaches through element pointers.
Asked for the elements of an array, the heap either pins the array, and the
pointer goes to the array itself, or hands out a copy. A region is read from
and written to the array in both cases; one that is out of bounds is refused.
-/

namespace ManagedArray
open CText
variable {α : Type*}

structure Handed (α : Type*) where
  content : List α
  copy : Option (List α)
  deriving DecidableEq, Repr

/-- A new array whose elements have been asked for. -/
def hand (pins : Bool) (length : Nat) (zero : α) : Handed α where
  content := List.replicate length zero
  copy := if pins then none else some (List.replicate length zero)

/-- An array of the caller whose elements have been asked for. -/
def lend (pins : Bool) (content : List α) : Handed α where
  content := content
  copy := if pins then none else some content

/-- The array after its elements are given up; a copy is written back. -/
def release (a : Handed α) : List α :=
  match a.copy with
  | none => a.content
  | some elements => elements

/-- Write through the element pointer. -/
def poke (a : Handed α) (i : Nat) (x : α) : Handed α :=
  match a.copy with
  | none => { a with content := a.content.set i x }
  | some elements => { a with copy := some (elements.set i x) }

/-- Read through the element pointer. -/
def peek (a : Handed α) (i : Nat) : Option α :=
  match a.copy with
  | none => a.content[i]?
  | some elements => elements[i]?

/-- The array when managed code has left `content` in it; a copy does not follow. -/
def store (a : Handed α) (content : List α) : Handed α := { a with content := content }

/-- The array without elements handed out: a region read finds what the release
has left. -/
def giveUp (a : Handed α) : Handed α where
  content := release a
  copy := none

/-- The array when other code has left `elements` behind the element pointer. -/
def refill (a : Handed α) (elements : List α) : Handed α :=
  match a.copy with
  | none => { a with content := elements }
  | some _ => { a with copy := some elements }

def inBounds (a : Handed α) (n : Int) : Prop := 0 ≤ n ∧ n.toNat ≤ a.content.length

instance (a : Handed α) (n : Int) : Decidable (inBounds a n) :=
  inferInstanceAs (Decidable (0 ≤ n ∧ n.toNat ≤ a.content.length))

/-- Copy the first `n` elements of the array to `dst`. -/
def getRegion (a : Handed α) (n : Int) (dst : List α) : List α :=
  if inBounds a n then write dst 0 (a.content.take n.toNat) else dst

/-- Copy the first `n` elements of `src` to the array. -/
def setRegion (a : Handed α) (n : Int) (src : List α) : Handed α :=
  if inBounds a n then { a with content := write a.content 0 (src.take n.toNat) } else a

@[simp] theorem release_lend (pins : Bool) (content : List α) :
    release (lend pins content) = content := by
  cases pins <;> rfl

/-- What is written through the pointer is in the array after the release. -/
@[simp] theorem release_poke (a : Handed α) (i : Nat) (x : α) :
    release (poke a i x) = (release a).set i x := by
  obtain ⟨content, copy⟩ := a
  cases copy <;> rfl

@[simp] theorem release_refill (a : Handed α) (elements : List α) :
    release (refill a elements) = elements := by
  obtain ⟨content, copy⟩ := a
  cases copy <;> rfl

/-- A copy that is older than what the array holds replaces it at the release. -/
theorem release_store_hand (pins : Bool) (length : Nat) (zero : α) (content : List α) :
    release (store (hand pins length zero) content) =
      if pins then content else List.replicate length zero := by
  cases pins <;> rfl

/-- So does it when a region has been set. -/
theorem release_setRegion_hand (pins : Bool) (length : Nat) (zero : α) (n : Int) (src : List α) :
    release (setRegion (hand pins length zero) n src) =
      if pins then (setRegion (hand pins length zero) n src).content
      else List.replicate length zero := by
  unfold setRegion
  split <;> cases pins <;> rfl

theorem peek_eq (a : Handed α) (i : Nat) : peek a i = (release a)[i]? := by
  obtain ⟨content, copy⟩ := a
  cases copy <;> rfl

@[simp] theorem length_hand (pins : Bool) (length : Nat) (zero : α) :
    (hand pins length zero).content.length = length := by
  simp [hand]

theorem getRegion_eq (a : Handed α) {n : Int} (room : inBounds a n) (dst : List α) :
    getRegion a n dst = write dst 0 (a.content.take n.toNat) := by
  simp [getRegion, room]

/-- A region that is set begins with what is copied there. -/
theorem setRegion_content (a : Handed α) {n : Int} (room : inBounds a n) (src : List α)
    (fits : n.toNat ≤ src.length) :
    (setRegion a n src).content.take n.toNat = src.take n.toNat := by
  have hlen : (src.take n.toNat).length = n.toNat := List.length_take_of_le fits
  have hself := take_write_self a.content (src.take n.toNat)
  rw [hlen] at hself
  simpa [setRegion, room] using hself

@[simp] theorem length_setRegion (a : Handed α) (n : Int) (src : List α) :
    (setRegion a n src).content.length = a.content.length := by
  unfold setRegion
  split
  · next room =>
      have short : (src.take n.toNat).length ≤ a.content.length :=
        (List.length_take_le _ _).trans room.2
      rw [length_write, Nat.max_eq_left short]
  · rfl

/-- A region read sees what was written through the pointer only of a pinned array. -/
theorem getRegion_poke (pins : Bool) (length : Nat) (zero x : α) (dst : α) :
    getRegion (poke (hand pins (length + 1) zero) 0 x) 1 [dst] =
      [if pins then x else zero] := by
  cases pins <;> simp [getRegion, poke, hand, inBounds, write, List.replicate_succ]

end ManagedArray

import NdkThreadSample.Library.CText
import Mathlib.Data.UInt

/-!
Arrays of 16 bit words as the bytes they lie in, the low byte of each word
first. A write of bytes over an array of words is in bounds exactly when it
keeps the number of words; a byte that lies behind the last word of the array
makes one word more.
-/

namespace Halves
open CText

def low (w : UInt16) : UInt8 := .ofNat w.toNat

def high (w : UInt16) : UInt8 := .ofNat (w.toNat / 256)

def word (lo hi : UInt8) : UInt16 := .ofNat (lo.toNat + 256 * hi.toNat)

def bytesOf : List UInt16 → List UInt8
  | [] => []
  | w :: ws => low w :: high w :: bytesOf ws

def wordsOf : List UInt8 → List UInt16
  | [] => []
  | [lo] => [word lo 0]
  | lo :: hi :: rest => word lo hi :: wordsOf rest

/-- The words after `src` was written over their bytes. -/
def overwrite (ws : List UInt16) (src : List UInt8) : List UInt16 :=
  wordsOf (write (bytesOf ws) 0 src)

theorem toNat_word (lo hi : UInt8) : (word lo hi).toNat = lo.toNat + 256 * hi.toNat := by
  have hlo := lo.toNat_lt
  have hhi := hi.toNat_lt
  exact UInt16.toNat_ofNat_of_lt' (by simp only [UInt16.size]; omega)

theorem word_low_high (w : UInt16) : word (low w) (high w) = w := by
  have hw := w.toNat_lt
  apply UInt16.toNat_inj.mp
  simp only [toNat_word, low, high, UInt8.toNat_ofNat']
  omega

theorem low_word (lo hi : UInt8) : low (word lo hi) = lo := by
  have hlo := lo.toNat_lt
  apply UInt8.toNat_inj.mp
  simp only [low, toNat_word, UInt8.toNat_ofNat']
  omega

theorem high_word (lo hi : UInt8) : high (word lo hi) = hi := by
  have hlo := lo.toNat_lt
  have hhi := hi.toNat_lt
  apply UInt8.toNat_inj.mp
  simp only [high, toNat_word, UInt8.toNat_ofNat']
  omega

@[simp] theorem length_bytesOf (ws : List UInt16) : (bytesOf ws).length = 2 * ws.length := by
  induction ws with
  | nil => rfl
  | cons w ws ih =>
      simp only [bytesOf, List.length_cons, ih]
      omega

@[simp] theorem wordsOf_bytesOf (ws : List UInt16) : wordsOf (bytesOf ws) = ws := by
  induction ws with
  | nil => rfl
  | cons w ws ih => rw [bytesOf, wordsOf, word_low_high, ih]

theorem length_wordsOf (bs : List UInt8) : (wordsOf bs).length = (bs.length + 1) / 2 := by
  induction bs using wordsOf.induct with
  | case1 => rfl
  | case2 lo => simp [wordsOf]
  | case3 lo hi rest ih =>
      simp only [wordsOf, List.length_cons, ih]
      omega

theorem bytesOf_wordsOf {bs : List UInt8} (even : bs.length % 2 = 0) : bytesOf (wordsOf bs) = bs := by
  induction bs using wordsOf.induct with
  | case1 => rfl
  | case2 lo => simp at even
  | case3 lo hi rest ih =>
      simp only [List.length_cons] at even
      rw [wordsOf, bytesOf, low_word, high_word, ih (by omega)]

theorem bytesOf_append (ws vs : List UInt16) : bytesOf (ws ++ vs) = bytesOf ws ++ bytesOf vs := by
  induction ws with
  | nil => rfl
  | cons w ws ih => simp only [List.cons_append, bytesOf, ih]

theorem bytesOf_drop (ws : List UInt16) (n : Nat) :
    bytesOf (ws.drop n) = (bytesOf ws).drop (2 * n) := by
  have front : 2 * n = (bytesOf (ws.take n)).length ∨ ws.length ≤ n := by
    rw [length_bytesOf, List.length_take]
    omega
  cases front with
  | inl exact_ =>
      conv_rhs => rw [← List.take_append_drop n ws, bytesOf_append]
      rw [exact_, List.drop_left]
  | inr past =>
      have bytes : (bytesOf ws).length ≤ 2 * n := by
        rw [length_bytesOf]
        omega
      rw [List.drop_of_length_le past, List.drop_of_length_le bytes]
      rfl

/-! Writing bytes over words. -/

variable {ws : List UInt16} {src : List UInt8}

theorem length_overwrite_iff :
    (overwrite ws src).length = ws.length ↔ src.length ≤ 2 * ws.length := by
  rw [overwrite, length_wordsOf, length_write, length_bytesOf]
  omega

/-- In bounds, the bytes are the new ones and after them the old ones. -/
theorem bytesOf_overwrite (room : src.length ≤ 2 * ws.length) :
    bytesOf (overwrite ws src) = src ++ (bytesOf ws).drop src.length := by
  have even : (write (bytesOf ws) 0 src).length % 2 = 0 := by
    rw [length_write, length_bytesOf, Nat.max_eq_left room]
    omega
  rw [overwrite, bytesOf_wordsOf even]
  simp [write]

/-- An even number of bytes is a write of whole words. -/
theorem overwrite_even (even : src.length % 2 = 0) :
    overwrite ws src = write ws 0 (wordsOf src) := by
  have half : 2 * (wordsOf src).length = src.length := by
    rw [length_wordsOf]
    omega
  have same : write (bytesOf ws) 0 src = bytesOf (write ws 0 (wordsOf src)) := by
    simp [write, bytesOf_append, bytesOf_drop, bytesOf_wordsOf even, half]
  rw [overwrite, same, wordsOf_bytesOf]

end Halves

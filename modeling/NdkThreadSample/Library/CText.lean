import Mathlib.Data.List.TakeWhile
import Mathlib.Data.List.Infix

/-!
C strings and the buffers they are kept in. A buffer is the list of its cells;
a write that runs past the end of the buffer makes the list longer, so that a
write is in bounds exactly when it keeps the length. A `CStr` is the text
before the terminator; `clear` is `memset` with zero over a whole buffer.
-/

namespace CText
variable {α : Type*}

def write (buf : List α) (i : Nat) (src : List α) : List α :=
  buf.take i ++ src ++ buf.drop (i + src.length)

theorem length_write_at (buf src : List α) {i : Nat} (reached : i ≤ buf.length) :
    (write buf i src).length = max buf.length (i + src.length) := by
  simp only [write, List.length_append, List.length_take, List.length_drop]
  omega

@[simp] theorem length_write (buf src : List α) :
    (write buf 0 src).length = max buf.length src.length := by
  rw [length_write_at buf src (Nat.zero_le _), Nat.zero_add]

@[simp] theorem write_nil (buf : List α) (i : Nat) : write buf i [] = buf := by
  simp [write]

/-- Two writes side by side are one. -/
theorem write_append (buf : List α) {i : Nat} (reached : i ≤ buf.length) (src more : List α) :
    write (write buf i src) (i + src.length) more = write buf i (src ++ more) := by
  have hfront : (buf.take i ++ src).length = i + src.length := by
    rw [List.length_append, List.length_take_of_le reached]
  have hrest : (write buf i src).drop (i + src.length + more.length) =
      buf.drop (i + src.length + more.length) := by
    rw [← List.drop_drop, write, List.drop_left' hfront, List.drop_drop]
  rw [write, hrest, write, List.take_left' hfront, write, List.length_append]
  simp only [List.append_assoc, Nat.add_assoc]

theorem write_singleton (buf : List α) {i : Nat} (room : i < buf.length) (x : α) :
    write buf i [x] = buf.set i x := by
  rw [List.set_eq_take_append_cons_drop, if_pos room]
  simp [write]

/-- A write starts with its first cell. -/
theorem write_cons (buf : List α) {i : Nat} (room : i < buf.length) (x : α) (src : List α) :
    write (buf.set i x) (i + 1) src = write buf i (x :: src) := by
  rw [← write_singleton buf room]
  exact write_append buf room.le [x] src

theorem take_write (buf src : List α) {n : Nat} (short : src.length ≤ n) :
    (write buf 0 src).take n = src ++ (buf.take n).drop src.length := by
  simp [write, List.take_append, List.take_of_length_le short, List.drop_take]

theorem take_write_self (buf src : List α) : (write buf 0 src).take src.length = src := by
  rw [take_write buf src (Nat.le_refl _), List.drop_take_self, List.append_nil]

theorem drop_write (buf src : List α) {n : Nat} (behind : src.length ≤ n) :
    (write buf 0 src).drop n = buf.drop n := by
  have hsrc : src.drop n = [] := List.drop_of_length_le behind
  have hn : src.length + (n - src.length) = n := by omega
  simp [write, List.drop_append, hsrc, hn]

def memcpy (dst src : List α) : List α := write dst 0 src

theorem write_eq_self_iff (buf src : List α) : write buf 0 src = buf ↔ src <+: buf := by
  constructor
  · intro h
    exact ⟨buf.drop src.length, by simpa [write] using h⟩
  · rintro ⟨rest, rfl⟩
    simp [write]

/-- Cells that are carried over one by one, and back. -/
theorem map_back {β : Type*} {f : α → β} {g : β → α} {src : List α}
    (back : ∀ x ∈ src, g (f x) = x) : (src.map f).map g = src := by
  rw [List.map_map]
  exact (List.map_congr_left back).trans (List.map_id src)

variable [Zero α]

@[ext] structure CStr (α : Type*) [Zero α] where
  chars : List α
  nulFree : (0 : α) ∉ chars
  deriving DecidableEq

def CStr.empty : CStr α := ⟨[], by simp⟩

def CStr.append (s t : CStr α) : CStr α :=
  ⟨s.chars ++ t.chars, by simp [s.nulFree, t.nulFree]⟩

instance : Append (CStr α) := ⟨CStr.append⟩

@[simp] theorem CStr.chars_append (s t : CStr α) : (s ++ t).chars = s.chars ++ t.chars := rfl

@[simp] theorem CStr.chars_empty : (CStr.empty : CStr α).chars = [] := rfl

def clear (buf : List α) : List α := List.replicate buf.length 0

def strcpy (dst : List α) (s : CStr α) : List α := write dst 0 (s.chars ++ [0])

/-- `strcpy` changes nothing exactly when the buffer already holds the string
and its terminator. -/
theorem strcpy_eq_self_iff (dst : List α) (s : CStr α) :
    strcpy dst s = dst ↔ s.chars ++ [0] <+: dst :=
  write_eq_self_iff dst _

/-- `strcpy` keeps inside the buffer exactly when the terminator fits too. -/
theorem length_strcpy_iff (dst : List α) (s : CStr α) :
    (strcpy dst s).length = dst.length ↔ s.chars.length < dst.length := by
  rw [strcpy, length_write, List.length_append, List.length_singleton]
  omega

theorem zero_mem_write_cleared (n : Nat) (src : List α) :
    0 ∈ write (List.replicate n 0) 0 src ↔ src.length < n ∨ 0 ∈ src := by
  simp only [write, List.take_zero, List.nil_append, Nat.zero_add, List.drop_replicate,
    List.mem_append, List.mem_replicate, and_true]
  rw [or_comm, Nat.sub_ne_zero_iff_lt]

/-- The buffers agree as far as the text of the first one goes; behind its end a
buffer reads as a terminator. -/
def Agree (a b : List α) : Prop :=
  ∀ i, (∀ j < i, a.getD j 0 ≠ 0) → a.getD i 0 = b.getD i 0

theorem agree_cons_iff {x : α} (hx : x ≠ 0) (a b : List α) :
    Agree (x :: a) b ↔ x = b.getD 0 0 ∧ Agree a b.tail := by
  constructor
  · intro agree
    refine ⟨agree 0 (fun j hj => absurd hj (Nat.not_lt_zero j)), ?_⟩
    intro i before
    have next := agree (i + 1) (by
      intro j hj
      cases j with
      | zero => simpa using hx
      | succ j => simpa using before j (Nat.lt_of_succ_lt_succ hj))
    simpa using next
  · rintro ⟨head, rest⟩ i before
    cases i with
    | zero => exact head
    | succ i =>
        have next := rest i (fun j hj => by simpa using before (j + 1) (Nat.succ_lt_succ hj))
        simpa using next

theorem agree_of_ended {a : List α} (ended : a.getD 0 0 = 0) (b : List α) :
    Agree a b ↔ b.getD 0 0 = 0 := by
  constructor
  · intro agree
    rw [← agree 0 (fun j hj => absurd hj (Nat.not_lt_zero j)), ended]
  · intro hb i before
    cases i with
    | zero => rw [ended, hb]
    | succ i => exact absurd ended (before 0 (Nat.zero_lt_succ i))

variable [DecidableEq α]

/-- The C string at the start of a buffer; the whole buffer when no cell ends it. -/
def cstr (buf : List α) : CStr α :=
  ⟨buf.takeWhile (· ≠ 0), fun h => by simpa using List.mem_takeWhile_imp h⟩

def strcat (dst : List α) (s : CStr α) : List α :=
  write dst (cstr dst).chars.length (s.chars ++ [0])

theorem chars_cstr {buf : List α} (free : 0 ∉ buf) : (cstr buf).chars = buf := by
  refine List.takeWhile_eq_self_iff.mpr ?_
  intro c hc
  have hne : c ≠ 0 := by rintro rfl; exact free hc
  simpa using hne

/-- What is behind a terminator is not read. -/
theorem cstr_append_zero (front rest : List α) : cstr (front ++ 0 :: rest) = cstr front := by
  ext1
  induction front with
  | nil => simp [cstr]
  | cons c front ih =>
      by_cases hc : c = 0
      · simp [cstr, hc]
      · simpa [cstr, hc] using ih

@[simp] theorem cstr_append_nul (s : CStr α) (rest : List α) :
    cstr (s.chars ++ 0 :: rest) = s := by
  rw [cstr_append_zero]
  ext1
  exact chars_cstr s.nulFree

/-- Over a cleared buffer a text ends where its bytes end. -/
theorem cstr_write_cleared (n : Nat) (src : List α) :
    cstr (write (List.replicate n 0) 0 src) = cstr src := by
  have hrest : write (List.replicate n 0) 0 src = src ++ List.replicate (n - src.length) 0 := by
    simp [write]
  rw [hrest]
  cases n - src.length with
  | zero => rw [List.replicate_zero, List.append_nil]
  | succ k => exact cstr_append_zero src _

theorem cstr_eq_empty_iff (buf : List α) : cstr buf = CStr.empty ↔ buf.getD 0 0 = 0 := by
  cases buf with
  | nil => exact iff_of_true rfl rfl
  | cons x buf => by_cases hx : x = 0 <;> simp [CStr.ext_iff, cstr, hx]

theorem cstr_cons_eq_iff {x : α} (hx : x ≠ 0) (a b : List α) :
    cstr (x :: a) = cstr b ↔ x = b.getD 0 0 ∧ cstr a = cstr b.tail := by
  cases b with
  | nil => simp [CStr.ext_iff, cstr, hx]
  | cons y b => by_cases hy : y = 0 <;> simp [CStr.ext_iff, cstr, hx, hy]

theorem cstr_eq_iff (a b : List α) : cstr a = cstr b ↔ Agree a b := by
  induction a generalizing b with
  | nil => rw [agree_of_ended rfl, ← cstr_eq_empty_iff, eq_comm]; rfl
  | cons x a ih =>
      by_cases hx : x = 0
      · have ended : (x :: a).getD 0 0 = 0 := by simpa using hx
        rw [agree_of_ended ended, (cstr_eq_empty_iff _).mpr ended, eq_comm, cstr_eq_empty_iff]
      · rw [cstr_cons_eq_iff hx, agree_cons_iff hx, ih]

@[simp] theorem cstr_strcpy (dst : List α) (s : CStr α) : cstr (strcpy dst s) = s := by
  simp [strcpy, write]

@[simp] theorem cstr_clear (buf : List α) : cstr (clear buf) = CStr.empty := by
  ext1
  cases h : buf.length <;> simp [cstr, clear, h, List.replicate_succ]

theorem take_cstr (buf : List α) : buf.take (cstr buf).chars.length = (cstr buf).chars := by
  have hp : (cstr buf).chars <+: buf := List.takeWhile_prefix _
  exact (List.prefix_iff_eq_take.mp hp).symm

@[simp] theorem cstr_strcat (dst : List α) (s : CStr α) :
    cstr (strcat dst s) = cstr dst ++ s := by
  have h := cstr_append_nul (cstr dst ++ s)
    (dst.drop ((cstr dst).chars.length + (s.chars ++ [0]).length))
  simpa [strcat, write, take_cstr] using h

end CText

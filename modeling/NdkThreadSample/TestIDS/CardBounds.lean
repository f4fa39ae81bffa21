import NdkThreadSample.TestIDS.IdCard

/-!
The bounds of the two translations. A write that runs past the end of a buffer
makes it longer here and no write makes it shorter, so the length that a buffer
has at the end tells whether all writes of the call were inside it. `TransIDCard`
has a buffer for one field and one for the whole text besides the caller's, and
`TransIDCard_Self` writes into the fields of the record. What is said of a caller
of theirs holds of the program only where these bounds are kept.
-/

namespace NdkThreadSample.TestIDS
open CText
variable (C : Common)

/-! Writes that only lengthen a buffer. -/

theorem length_strcpy (dst : Buffer) (t : Text) :
    (strcpy dst t).length = max dst.length (t.chars.length + 1) := by
  simp [strcpy]

theorem length_strcat (dst : Buffer) (t : Text) :
    (strcat dst t).length =
      max dst.length ((cstr dst).chars.length + t.chars.length + 1) := by
  have reached : (cstr dst).chars.length ≤ dst.length := (List.takeWhile_prefix _).length_le
  rw [strcat, length_write_at dst _ reached]
  simp [Nat.add_assoc]

theorem length_zeros (n : Nat) : (zeros n).length = n := List.length_replicate

@[simp] theorem length_clear (buf : Buffer) : (clear buf).length = buf.length := by
  simp [clear]

theorem length_inPlace (f : Text → Text) (buf : Buffer) :
    (inPlace f buf).length = max buf.length ((f (cstr buf)).chars.length + 1) :=
  length_strcpy buf (f (cstr buf))

theorem length_appendField (szIdInfo byGetTrans : Buffer) :
    (appendField szIdInfo byGetTrans).length =
      max szIdInfo.length
        ((cstr szIdInfo).chars.length + (cstr byGetTrans).chars.length + 2) := by
  simp only [appendField, length_strcat, cstr_strcat, CStr.chars_append, List.length_append,
    szSeparate, List.length_singleton]
  omega

/-- What `UnicodeByte2Char` makes of the nine fields. -/
def converted (r : CardInfoCN) : List Text :=
  [C.unicodeByte2Char r.ucName 30, C.unicodeByte2Char r.ucGender 2,
    C.unicodeByte2Char r.ucNation 4, C.unicodeByte2Char r.ucBirth 16,
    C.unicodeByte2Char r.ucAddress 70, C.unicodeByte2Char r.ucIDNumber 36,
    C.unicodeByte2Char r.ucIssued 30, C.unicodeByte2Char r.ucDateBegin 16,
    C.unicodeByte2Char r.ucDateEnd 16]

def Short (n : Nat) (t : Text) : Prop := t.chars.length < n

instance (n : Nat) (t : Text) : Decidable (Short n t) :=
  inferInstanceAs (Decidable (_ < _))

/-- Every write of a call is inside its buffer. -/
def InBounds (szIDCard : Buffer) (b : CardBuffers) : Prop :=
  b.byGetTrans.length ≤ 256 ∧ b.szIdInfo.length ≤ 1024 ∧ b.szIDCard.length ≤ szIDCard.length

/-- The texts of the record fit the local buffers of `TransIDCard` and `room`
bytes of the caller. With a gender that is not known the call converts two
fields, appends one and ends. -/
def CardFits (r : CardInfoCN) (room : Nat) : Prop :=
  if sexAccepted C r then
    (∀ t ∈ converted C r ++ translated C r, Short 256 t) ∧
      Short 1024 (joined (translated C r)) ∧ Short room (joined (translated C r))
  else ∀ t ∈ (converted C r).take 2 ++ (translated C r).take 1, Short 256 t

instance (r : CardInfoCN) (room : Nat) : Decidable (CardFits C r room) :=
  inferInstanceAs (Decidable (ite _ _ _))

theorem CardFits.short {r : CardInfoCN} {room : Nat} (fits : CardFits C r room)
    (accepted : sexAccepted C r = true) : (joined (translated C r)).chars.length < room := by
  rw [CardFits, if_pos accepted] at fits
  exact fits.2.2

theorem inBounds_iff (r : CardInfoCN) (szIDCard : Buffer) :
    InBounds szIDCard (transIDCardBuffers C r szIDCard).2 ↔ CardFits C r szIDCard.length := by
  simp only [InBounds, CardFits, transIDCardBuffers, cstr_strcpy, sexAccepted]
  by_cases known : (C.transSex (C.unicodeByte2Char r.ucGender 2)).1 = true
  · simp only [known, Bool.not_true, Bool.false_eq_true, if_false, if_true]
    simp only [length_strcpy, length_inPlace, length_appendField, length_clear, length_zeros,
      cstr_strcpy, cstr_inPlace, cstr_appendField, cstr_zeros, max_le_iff, Nat.le_refl, true_and,
      converted, translated, joined, Short, List.cons_append, List.nil_append,
      List.forall_mem_cons, List.not_mem_nil, false_imp_iff, implies_true, and_true,
      CStr.chars_append, List.length_append, CStr.chars_empty, List.length_nil, szSeparate,
      List.length_singleton]
    constructor
    · intro inside
      omega
    · intro short
      omega
  · have unknown : (C.transSex (C.unicodeByte2Char r.ucGender 2)).1 = false := by simpa using known
    simp only [unknown, Bool.not_false, Bool.false_eq_true, if_true, if_false]
    simp only [length_strcpy, length_inPlace, length_appendField, length_clear, length_zeros,
      cstr_strcpy, cstr_zeros, cstr_inPlace, max_le_iff, Nat.le_refl, true_and, converted,
      translated, Short, List.take_succ_cons, List.take_zero, List.cons_append, List.nil_append,
      List.forall_mem_cons, List.not_mem_nil, false_imp_iff, implies_true, and_true,
      CStr.chars_empty, List.length_nil]
    constructor
    · intro inside
      omega
    · intro short
      omega

/-- When all writes of a call of `TransIDCard` are inside its buffers. -/
theorem transIDCard_in_bounds_iff (r : CardInfoCN) (szIDCard : Buffer) :
    InBounds szIDCard (transIDCardBuffers C r szIDCard).2 ↔
      if sexAccepted C r then
        (∀ t ∈ converted C r ++ translated C r, Short 256 t) ∧
          Short 1024 (joined (translated C r)) ∧ Short szIDCard.length (joined (translated C r))
      else ∀ t ∈ (converted C r).take 2 ++ (translated C r).take 1, Short 256 t :=
  inBounds_iff C r szIDCard

/-! `TransIDCard_Self`. -/

def CardInfoCN.textFields (r : CardInfoCN) : List Buffer :=
  [r.ucName, r.ucGender, r.ucNation, r.ucBirth, r.ucAddress, r.ucIDNumber, r.ucIssued,
    r.ucDateBegin, r.ucDateEnd]

/-- Every write is inside the local buffer or inside its field of the record. -/
def SelfInBounds (r : CardInfoCN) (after : CardInfoCN × Buffer) : Prop :=
  after.2.length ≤ 256 ∧
    List.Forall₂ (fun old new : Buffer => new.length ≤ old.length) r.textFields
      after.1.textFields

def Fit (fields : List Buffer) (texts : List Text) : Prop :=
  List.Forall₂ (fun (field : Buffer) text => Short field.length text) fields texts

/-- Each field of the record holds its own text, terminator included. -/
def SelfFits (r : CardInfoCN) : Prop :=
  if sexAccepted C r then
    (∀ t ∈ converted C r ++ translated C r, Short 256 t) ∧ Fit r.textFields (translated C r)
  else
    (∀ t ∈ (converted C r).take 2 ++ (translated C r).take 1, Short 256 t) ∧
      Fit (r.textFields.take 1) ((translated C r).take 1)

instance (fields : List Buffer) (texts : List Text) : Decidable (Fit fields texts) :=
  inferInstanceAs (Decidable (List.Forall₂ _ _ _))

instance (r : CardInfoCN) : Decidable (SelfFits C r) :=
  inferInstanceAs (Decidable (ite _ _ _))

theorem selfInBounds_iff (r : CardInfoCN) :
    SelfInBounds r (transIDCardSelfBuffers C r).2 ↔ SelfFits C r := by
  simp only [SelfInBounds, SelfFits, transIDCardSelfBuffers, cstr_strcpy, sexAccepted]
  by_cases known : (C.transSex (C.unicodeByte2Char r.ucGender 2)).1 = true
  · simp only [known, Bool.not_true, Bool.false_eq_true, if_false, if_true]
    simp only [length_strcpy, length_inPlace, length_clear, length_zeros, cstr_strcpy,
      cstr_inPlace, max_le_iff, Nat.le_refl, true_and, converted, translated, Short, Fit,
      CardInfoCN.textFields, List.forall₂_cons, List.Forall₂.nil, List.cons_append,
      List.nil_append, List.forall_mem_cons, List.not_mem_nil, false_imp_iff, implies_true,
      and_true]
    constructor
    · intro inside
      omega
    · intro short
      omega
  · have unknown : (C.transSex (C.unicodeByte2Char r.ucGender 2)).1 = false := by simpa using known
    simp only [unknown, Bool.not_false, Bool.false_eq_true, if_true, if_false]
    simp only [length_strcpy, length_inPlace, length_clear, length_zeros, cstr_strcpy,
      cstr_inPlace, max_le_iff, Nat.le_refl, true_and, converted, translated, Short, Fit,
      CardInfoCN.textFields, List.forall₂_cons, List.Forall₂.nil, List.take_succ_cons,
      List.take_zero, List.cons_append, List.nil_append, List.forall_mem_cons, List.not_mem_nil,
      false_imp_iff, implies_true, and_true]
    constructor
    · intro inside
      omega
    · intro short
      omega

/-- When all writes of a call of `TransIDCard_Self` are inside their buffers. -/
theorem transIDCardSelf_in_bounds_iff (r : CardInfoCN) :
    SelfInBounds r (transIDCardSelfBuffers C r).2 ↔
      if sexAccepted C r then
        (∀ t ∈ converted C r ++ translated C r, Short 256 t) ∧ Fit r.textFields (translated C r)
      else
        (∀ t ∈ (converted C r).take 2 ++ (translated C r).take 1, Short 256 t) ∧
          Fit (r.textFields.take 1) ((translated C r).take 1) :=
  selfInBounds_iff C r

end NdkThreadSample.TestIDS

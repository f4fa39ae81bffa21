import NdkThreadSample.TestIDS.IdCard

/-!
Reading the nine fields back from the text that `TransIDCard` builds. The text
is cut at every separator, so it gives the fields back exactly when none of
them contains one; the program neither escapes nor rejects a separator.
-/

namespace NdkThreadSample.TestIDS
open CText
variable (C : Common)

def Separable (r : CardInfoCN) : Prop := ∀ t ∈ translated C r, 124 ∉ t.chars

instance (r : CardInfoCN) : Decidable (Separable C r) :=
  inferInstanceAs (Decidable (∀ t ∈ translated C r, 124 ∉ t.chars))

/-- The fields of `r` in order and nothing after the last separator. -/
def DecodesTo (r : CardInfoCN) (szIDCard : Buffer) : Prop :=
  (cstr szIDCard).chars.splitOn 124 = (translated C r).map CStr.chars ++ [[]]

theorem transIDCard_accepted (r : CardInfoCN) (szIDCard : Buffer)
    (done : (transIDCard C r szIDCard).1 = true) :
    cstr (transIDCard C r szIDCard).2 = joined (translated C r) := by
  rw [transIDCard_eq] at done ⊢
  by_cases h : sexAccepted C r = true
  · simp [h]
  · simp [h] at done

theorem transIDCard_rejected (r : CardInfoCN) (szIDCard : Buffer)
    (failed : (transIDCard C r szIDCard).1 = false) :
    (transIDCard C r szIDCard).2 = szIDCard := by
  rw [transIDCard_eq] at failed ⊢
  by_cases h : sexAccepted C r = true
  · simp [h] at failed
  · simp [h]

theorem decodesTo_iff (r : CardInfoCN) (szIDCard : Buffer)
    (done : (transIDCard C r szIDCard).1 = true) :
    DecodesTo C r (transIDCard C r szIDCard).2 ↔ Separable C r := by
  rw [DecodesTo, transIDCard_accepted C r szIDCard done, joined_chars,
    Terminated.splitOn_terminate]
  have hpieces := Terminated.pieces_eq_iff 124 ((translated C r).map CStr.chars)
  simpa [Separable] using hpieces

theorem same_text_iff (r r' : CardInfoCN) (szIDCard szIDCard' : Buffer)
    (done : (transIDCard C r szIDCard).1 = true)
    (done' : (transIDCard C r' szIDCard').1 = true) :
    cstr (transIDCard C r szIDCard).2 = cstr (transIDCard C r' szIDCard').2 ↔
      cut (translated C r) = cut (translated C r') := by
  rw [transIDCard_accepted C r szIDCard done, transIDCard_accepted C r' szIDCard' done']
  exact joined_eq_iff _ _

/-- A successful `TransIDCard` gives the fields back exactly when they are free
of the separator; two records share a text exactly when their fields are cut
into the same pieces, so never when those of one are free of the separator and
the others differ; and a failed call leaves the buffer alone. -/
theorem card_text_decodes (r r' : CardInfoCN) (szIDCard szIDCard' : Buffer) :
    ((transIDCard C r szIDCard).1 = true →
      (DecodesTo C r (transIDCard C r szIDCard).2 ↔ Separable C r)) ∧
    ((transIDCard C r szIDCard).1 = true → (transIDCard C r' szIDCard').1 = true →
      (cstr (transIDCard C r szIDCard).2 = cstr (transIDCard C r' szIDCard').2 ↔
        cut (translated C r) = cut (translated C r')) ∧
      (Separable C r → translated C r ≠ translated C r' →
        cstr (transIDCard C r szIDCard).2 ≠ cstr (transIDCard C r' szIDCard').2)) ∧
    ((transIDCard C r szIDCard).1 = false → (transIDCard C r szIDCard).2 = szIDCard) := by
  refine ⟨decodesTo_iff C r szIDCard, ?_, transIDCard_rejected C r szIDCard⟩
  intro done done'
  have same := same_text_iff C r r' szIDCard szIDCard' done done'
  refine ⟨same, ?_⟩
  intro free differ text
  have nine : (translated C r).length = (translated C r').length := rfl
  exact differ ((cut_eq_iff_of_free nine free).mp (same.mp text))

/-- The sample record with another birth date and address. -/
def bornAt (birth address : Buffer) : CardInfoCN :=
  { sampleRecord [65, 0] with ucBirth := padded 16 birth, ucAddress := padded 100 address }

/-- The separator is in the birth date "1|2" of one record and in the address
"2|3" of the other: the text does not give the fields of the first one back and
is the text of the second one as well. -/
theorem separators_shift_fields :
    ((transIDCard latinCommon (bornAt [49, 0, 124, 0, 50, 0] [51, 0]) (zeros 64)).1 = true ∧
      ¬ DecodesTo latinCommon (bornAt [49, 0, 124, 0, 50, 0] [51, 0])
        (transIDCard latinCommon (bornAt [49, 0, 124, 0, 50, 0] [51, 0]) (zeros 64)).2) ∧
    (transIDCard latinCommon (bornAt [49, 0] [50, 0, 124, 0, 51, 0]) (zeros 64)).1 = true ∧
    translated latinCommon (bornAt [49, 0, 124, 0, 50, 0] [51, 0]) ≠
      translated latinCommon (bornAt [49, 0] [50, 0, 124, 0, 51, 0]) ∧
    cstr (transIDCard latinCommon (bornAt [49, 0, 124, 0, 50, 0] [51, 0]) (zeros 64)).2 =
      cstr (transIDCard latinCommon (bornAt [49, 0] [50, 0, 124, 0, 51, 0]) (zeros 64)).2 := by
  have accepted (birth address : Buffer) :
      (transIDCard latinCommon (bornAt birth address) (zeros 64)).1 = true := by
    have known : sexAccepted latinCommon (bornAt birth address) = true := by rfl
    rw [transIDCard_eq, if_pos known]
  refine ⟨⟨accepted _ _, ?_⟩, accepted _ _, by decide, ?_⟩
  · rw [decodesTo_iff latinCommon _ _ (accepted _ _)]
    decide
  · rw [same_text_iff latinCommon _ _ _ _ (accepted _ _) (accepted _ _)]
    decide

end NdkThreadSample.TestIDS

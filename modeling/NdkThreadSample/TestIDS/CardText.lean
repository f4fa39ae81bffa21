import NdkThreadSample.TestIDS.Commands

/-!
The two ways in which the test program turns a card record into text.
`TransIDCard` joins the translated fields. `IDS_CS_ReadRF` has a copy of the
record translated, which is lost, and then copies the fields of the record as
the driver returned them.
-/

namespace NdkThreadSample.TestIDS
open CText

/-- The nine C strings that `IDS_CS_ReadRF` leaves in its output buffers, each
followed by the separator, are the string that `TransIDCard` builds. -/
def TextsAgree (C : Common) (cardType : Int) (bufs : ReadRFBuffers) (ulTimeout : Nat)
    (rf : CardInfoRF) (szIDCard : Buffer) (s : Ids) : Prop :=
  joined (idsCsReadRF C cardType bufs ulTimeout (.ok, rf) s).2.1.fields.texts =
    cstr (transIDCard C rf.cardInfoCN szIDCard).2

/-- A field as the driver returned it, read as a C string; where the field has
no NUL of its own the text goes on in what the caller's buffer holds behind it. -/
def rawText (field buf : Buffer) : Text := cstr (field ++ buf.drop field.length)

/-- Each field as it lies in the caller's buffer, and what it has to become. -/
def fieldTexts (C : Common) (bufs r : CardInfoCN) : List (Text × Text) :=
  [(rawText r.ucName bufs.ucName, C.removSpace (C.unicodeByte2Char r.ucName 30)),
    (rawText r.ucGender bufs.ucGender, (C.transSex (C.unicodeByte2Char r.ucGender 2)).2),
    (rawText r.ucNation bufs.ucNation, C.transNation (C.unicodeByte2Char r.ucNation 4)),
    (rawText r.ucBirth bufs.ucBirth, C.unicodeByte2Char r.ucBirth 16),
    (rawText r.ucAddress bufs.ucAddress, C.removSpace (C.unicodeByte2Char r.ucAddress 70)),
    (rawText r.ucIDNumber bufs.ucIDNumber, C.unicodeByte2Char r.ucIDNumber 36),
    (rawText r.ucIssued bufs.ucIssued, C.removSpace (C.unicodeByte2Char r.ucIssued 30)),
    (rawText r.ucDateBegin bufs.ucDateBegin, C.unicodeByte2Char r.ucDateBegin 16),
    (rawText r.ucDateEnd bufs.ucDateEnd, C.unicodeByte2Char r.ucDateEnd 16)]

/-- Every raw field already is its translation, or separators on both sides make
up for the fields that are not: cut at them, both sides are the same pieces. -/
def NeedsNoTranslation (C : Common) (bufs r : CardInfoCN) : Prop :=
  (∀ p ∈ fieldTexts C bufs r, p.1 = p.2) ∨
    ((∃ p ∈ fieldTexts C bufs r, 124 ∈ p.1.chars) ∧ (∃ p ∈ fieldTexts C bufs r, 124 ∈ p.2.chars) ∧
      cut ((fieldTexts C bufs r).map Prod.fst) = cut ((fieldTexts C bufs r).map Prod.snd))

/-- The nine texts that `IDS_CS_ReadRF` leaves are the raw ones, field by field. -/
theorem readRF_texts (C : Common) (cardType : Int) (bufs : ReadRFBuffers) (ulTimeout : Nat)
    (rf : CardInfoRF) {s : Ids} {tab : PfnTab} (open_ : s.pstPfnTab = some tab) :
    (idsCsReadRF C cardType bufs ulTimeout (.ok, rf) s).2.1.fields.texts =
      (fieldTexts C bufs.fields rf.cardInfoCN).map Prod.fst := by
  have copied (dst src : Buffer) : cstr (memcpy dst src) = rawText src dst := by
    simp [memcpy, write, rawText]
  simp [idsCsReadRF, open_, copyFields, CardInfoCN.texts, copied, fieldTexts]

/-- Two rows of texts join to the same text when they are equal one by one, and
otherwise only through separators in both of them. -/
theorem joined_map_iff (ps : List (Text × Text)) :
    joined (ps.map Prod.fst) = joined (ps.map Prod.snd) ↔
      (∀ p ∈ ps, p.1 = p.2) ∨
        ((∃ p ∈ ps, 124 ∈ p.1.chars) ∧ (∃ p ∈ ps, 124 ∈ p.2.chars) ∧
          cut (ps.map Prod.fst) = cut (ps.map Prod.snd)) := by
  rw [joined_eq_iff]
  have same : (ps.map Prod.fst).length = (ps.map Prod.snd).length := by simp
  constructor
  · intro pieces
    by_cases first : ∃ p ∈ ps, 124 ∈ p.1.chars
    · by_cases second : ∃ p ∈ ps, 124 ∈ p.2.chars
      · exact .inr ⟨first, second, pieces⟩
      · have free : ∀ t ∈ ps.map Prod.snd, 124 ∉ t.chars :=
          List.forall_mem_map.mpr fun p hp hsep => second ⟨p, hp, hsep⟩
        have equal := (cut_eq_iff_of_free same.symm free).mp pieces.symm
        exact .inl (List.map_inj_left.mp equal.symm)
    · have free : ∀ t ∈ ps.map Prod.fst, 124 ∉ t.chars :=
        List.forall_mem_map.mpr fun p hp hsep => first ⟨p, hp, hsep⟩
      exact .inl (List.map_inj_left.mp ((cut_eq_iff_of_free same free).mp pieces))
  · rintro (equal | ⟨_, _, pieces⟩)
    · rw [List.map_inj_left.mpr equal]
    · exact pieces

/-- On a record that the driver returns and whose gender is known, the two
texts agree exactly when its fields need no translation. -/
theorem card_texts_agree_iff (C : Common) (cardType : Int) (bufs : ReadRFBuffers)
    (ulTimeout : Nat) (rf : CardInfoRF) (szIDCard : Buffer) (s : Ids) (tab : PfnTab)
    (open_ : s.pstPfnTab = some tab) (accepted : sexAccepted C rf.cardInfoCN = true) :
    TextsAgree C cardType bufs ulTimeout rf szIDCard s ↔
      NeedsNoTranslation C bufs.fields rf.cardInfoCN := by
  have translations : (fieldTexts C bufs.fields rf.cardInfoCN).map Prod.snd =
      translated C rf.cardInfoCN := rfl
  rw [TextsAgree, readRF_texts C cardType bufs ulTimeout rf open_, transIDCard_eq]
  simp only [accepted, if_true, cstr_strcpy]
  rw [← translations]
  exact joined_map_iff _

/-! A record as the driver returns it, read into fresh buffers of the sizes of
its fields. -/

def sampleIds : Ids := { Ids.init with pstPfnTab := some ⟨1⟩ }

def sampleBuffers : ReadRFBuffers where
  pucType := 0
  fields :=
    ⟨zeros 60, zeros 10, zeros 100, zeros 16, zeros 100, zeros 36, zeros 80, zeros 16, zeros 16,
      zeros 260, zeros 260, zeros 260⟩

theorem card_texts_agree_iff_sample :
    sampleIds.pstPfnTab = some ⟨1⟩ ∧ sexAccepted latinCommon (sampleRecord [65, 0]) = true ∧
      (TextsAgree latinCommon 1 sampleBuffers 0 ⟨0, sampleRecord [65, 0]⟩ (zeros 64) sampleIds ↔
        NeedsNoTranslation latinCommon sampleBuffers.fields (sampleRecord [65, 0])) :=
  ⟨rfl, by decide, card_texts_agree_iff latinCommon 1 sampleBuffers 0 ⟨0, sampleRecord [65, 0]⟩
    (zeros 64) sampleIds ⟨1⟩ rfl (by decide)⟩

/-- The gender arrives as the code of the driver, not as its name. -/
theorem untranslated_card_text :
    ¬ TextsAgree latinCommon 1 sampleBuffers 0 ⟨0, sampleRecord [65, 0]⟩ (zeros 64) sampleIds := by
  have accepted : sexAccepted latinCommon (sampleRecord [65, 0]) = true := by decide
  have open_ : sampleIds.pstPfnTab = some ⟨1⟩ := rfl
  rw [TextsAgree, readRF_texts latinCommon 1 sampleBuffers 0 _ open_, transIDCard_eq]
  simp only [accepted, if_true, cstr_strcpy]
  decide

end NdkThreadSample.TestIDS

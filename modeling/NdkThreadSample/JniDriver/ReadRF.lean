import NdkThreadSample.JniDriver.Entries
import NdkThreadSample.Library.Halves
import NdkThreadSample.TestIDS.CardBounds

/-!
The `readRF` entry. The other entries copy texts character by character; this
one passes its `jchar` pointers on as `char` pointers, and the test program
copies the fields of the record over the bytes of the arrays, with the low byte
of each character first. It does not ask for the lengths of the arrays.
-/

namespace NdkThreadSample.JniDriver
open CText ManagedArray TestIDS Halves

/-- The fields of `_IDS_CARD_INFO_CN`, each with an array of its own in Java. -/
inductive CardField
  | ucName
  | ucGender
  | ucNation
  | ucBirth
  | ucAddress
  | ucIDNumber
  | ucIssued
  | ucDateBegin
  | ucDateEnd
  | cHeadName
  | cLeftName
  | cRightName
  deriving DecidableEq, Repr

def field (r : CardInfoCN) : CardField → Buffer
  | .ucName => r.ucName
  | .ucGender => r.ucGender
  | .ucNation => r.ucNation
  | .ucBirth => r.ucBirth
  | .ucAddress => r.ucAddress
  | .ucIDNumber => r.ucIDNumber
  | .ucIssued => r.ucIssued
  | .ucDateBegin => r.ucDateBegin
  | .ucDateEnd => r.ucDateEnd
  | .cHeadName => r.cHeadName
  | .cLeftName => r.cLeftName
  | .cRightName => r.cRightName

def ofFields (get : CardField → Buffer) : CardInfoCN where
  ucName := get .ucName
  ucGender := get .ucGender
  ucNation := get .ucNation
  ucBirth := get .ucBirth
  ucAddress := get .ucAddress
  ucIDNumber := get .ucIDNumber
  ucIssued := get .ucIssued
  ucDateBegin := get .ucDateBegin
  ucDateEnd := get .ucDateEnd
  cHeadName := get .cHeadName
  cLeftName := get .cLeftName
  cRightName := get .cRightName

@[simp] theorem field_ofFields (get : CardField → Buffer) (f : CardField) :
    field (ofFields get) f = get f := by
  cases f <;> rfl

theorem field_copyFields (dst src : CardInfoCN) (f : CardField) :
    field (copyFields dst src) f = memcpy (field dst f) (field src f) := by
  cases f <;> rfl

/-- What is behind `(char*)arrayBody`. -/
def chars (arrayBody : Handed JChar) : Buffer := bytesOf (release arrayBody)

def setChars (arrayBody : Handed JChar) (bytes : Buffer) : Handed JChar :=
  refill arrayBody (wordsOf bytes)

structure RFReturn where
  ret : Int
  pucType : List JChar
  fields : CardField → List JChar
  state : Ids

section
variable (H : Header) (javaVM : Int) (userData : IdsRet) (cardType : Int)
  (pucType : JavaArray JChar) (arrays : CardField → JavaArray JChar) (ulTimeout : Nat)
  (reply : IdsRet × CardInfoRF) (s : Ids)

def readRF : RFReturn :=
  let s := setUserData javaVM userData s
  let type := chars pucType.elements
  let bufs : ReadRFBuffers :=
    ⟨type.headD 0, ofFields fun f => chars (arrays f).elements⟩
  let (ret, bufs, s) := idsCsReadRF H.toCommon cardType bufs ulTimeout reply s
  ⟨H.retCode ret, release (setChars pucType.elements (type.set 0 bufs.pucType)),
    fun f => release (setChars (arrays f).elements (field bufs.fields f)), s⟩

theorem readRF_ret_eq_zero_iff :
    (readRF H javaVM userData cardType pucType arrays ulTimeout reply s).ret = 0 ↔
      s.pstPfnTab ≠ none ∧ reply.1 = .ok := by
  simp only [readRF, H.retCode_eq_zero]
  cases open_ : s.pstPfnTab with
  | none => simp [idsCsReadRF, setUserData_pstPfnTab, open_]
  | some tab =>
      by_cases accepted : reply.1 = .ok <;>
        simp [idsCsReadRF, setUserData_pstPfnTab, open_, accepted]

@[simp] theorem chars_elements (a : JavaArray JChar) : chars a.elements = bytesOf a.content := by
  simp [chars, JavaArray.elements]

theorem set_head (bytes : Buffer) : bytes.set 0 (bytes.head?.getD 0) = bytes := by
  cases bytes <;> rfl

theorem readRF_refused (refused : ¬ (s.pstPfnTab ≠ none ∧ reply.1 = .ok)) :
    (readRF H javaVM userData cardType pucType arrays ulTimeout reply s).pucType =
        pucType.content ∧
      ∀ f, (readRF H javaVM userData cardType pucType arrays ulTimeout reply s).fields f =
        (arrays f).content := by
  cases open_ : s.pstPfnTab with
  | none =>
      simp [readRF, idsCsReadRF, setUserData_pstPfnTab, open_, setChars, set_head]
  | some tab =>
      have rejected : reply.1 ≠ .ok := by simpa [open_] using refused
      simp [readRF, idsCsReadRF, setUserData_pstPfnTab, open_, rejected, setChars, set_head]

theorem readRF_accepted (accepted : s.pstPfnTab ≠ none ∧ reply.1 = .ok) :
    (readRF H javaVM userData cardType pucType arrays ulTimeout reply s).pucType =
        wordsOf ((bytesOf pucType.content).set 0 reply.2.ucType) ∧
      ∀ f, (readRF H javaVM userData cardType pucType arrays ulTimeout reply s).fields f =
        overwrite (arrays f).content (field reply.2.cardInfoCN f) := by
  obtain ⟨tab, open_⟩ := Option.ne_none_iff_exists'.mp accepted.1
  simp [readRF, idsCsReadRF, setUserData_pstPfnTab, open_, accepted.2, setChars,
    field_copyFields, memcpy, overwrite]

/-- A record arrives. -/
def Arrives : Prop := s.pstPfnTab ≠ none ∧ reply.1 = .ok

/-- Two bytes of the field for each character of its array. -/
def RoomFor (f : CardField) : Prop :=
  (field reply.2.cardInfoCN f).length ≤ 2 * (arrays f).content.length

/-- What a call does to its buffers. When a record arrives a copy of it is
translated, inside the buffers of the translation, and each field as the driver
filled it goes over the start of the bytes of its array, inside the array exactly
when there is room; without a record the arrays are left as they were. -/
structure CopiesFields (r : RFReturn) : Prop where
  refused : ¬ Arrives reply s →
    r.ret ≠ 0 ∧ r.pucType = pucType.content ∧ ∀ f, r.fields f = (arrays f).content
  translates : Arrives reply s →
    SelfInBounds reply.2.cardInfoCN (transIDCardSelfBuffers H.toCommon reply.2.cardInfoCN).2 ∧
      (sexAccepted H.toCommon reply.2.cardInfoCN = true →
        (transIDCardSelf H.toCommon reply.2.cardInfoCN).2.texts =
          translated H.toCommon reply.2.cardInfoCN)
  inside : Arrives reply s → ∀ f,
    ((r.fields f).length = (arrays f).content.length ↔ RoomFor arrays reply f)
  returns : Arrives reply s → (∀ f, RoomFor arrays reply f) → r.ret = 0
  type : Arrives reply s → (∀ f, RoomFor arrays reply f) →
    bytesOf r.pucType = reply.2.ucType :: (bytesOf pucType.content).tail
  copied : Arrives reply s → (∀ f, RoomFor arrays reply f) → ∀ f,
    bytesOf (r.fields f) = field reply.2.cardInfoCN f ++
      (bytesOf (arrays f).content).drop (field reply.2.cardInfoCN f).length

end

theorem set_zero_of_ne_nil {bytes : Buffer} (some_ : bytes ≠ []) (b : UInt8) :
    bytes.set 0 b = b :: bytes.tail := by
  obtain ⟨first, rest, rfl⟩ := List.exists_cons_of_ne_nil some_
  rfl

/-- The texts of a record that arrives have to fit, and `pucType` needs a
character for the type. -/
theorem readRF_copies_fields (H : Header) (javaVM : Int) (userData : IdsRet) (cardType : Int)
    (pucType : JavaArray JChar) (arrays : CardField → JavaArray JChar) (ulTimeout : Nat)
    (reply : IdsRet × CardInfoRF) (s : Ids) (some_ : pucType.content ≠ [])
    (fits : Arrives reply s → SelfFits H.toCommon reply.2.cardInfoCN) :
    CopiesFields H pucType arrays reply s
      (readRF H javaVM userData cardType pucType arrays ulTimeout reply s) := by
  have ret := readRF_ret_eq_zero_iff H javaVM userData cardType pucType arrays ulTimeout reply s
  have accepted := readRF_accepted H javaVM userData cardType pucType arrays ulTimeout reply s
  refine ⟨?_, ?_, ?_, fun arrives _ => ret.mpr arrives, ?_, ?_⟩
  · intro refused
    exact ⟨mt ret.mp refused,
      readRF_refused H javaVM userData cardType pucType arrays ulTimeout reply s refused⟩
  · intro arrives
    exact ⟨(selfInBounds_iff H.toCommon reply.2.cardInfoCN).mpr (fits arrives),
      transIDCardSelf_texts H.toCommon reply.2.cardInfoCN⟩
  · intro arrives f
    rw [(accepted arrives).2 f]
    exact length_overwrite_iff
  · intro arrives _
    have even : ((bytesOf pucType.content).set 0 reply.2.ucType).length % 2 = 0 := by
      rw [List.length_set, length_bytesOf]
      omega
    have bytes : bytesOf pucType.content ≠ [] := by
      have length := length_bytesOf pucType.content
      have positive := List.length_pos_iff.mpr some_
      exact List.ne_nil_of_length_pos (by omega)
    rw [(accepted arrives).1, bytesOf_wordsOf even, set_zero_of_ne_nil bytes]
  · intro arrives room f
    rw [(accepted arrives).2 f]
    exact bytesOf_overwrite (room f)

/-- A short name, read into arrays that hold the longest field. -/
theorem readRF_copies_fields_named :
    let reply : IdsRet × CardInfoRF := (.ok, ⟨1, sampleRecord [65, 0]⟩)
    let arrays : CardField → JavaArray JChar := fun _ => ⟨List.replicate 130 7, false⟩
    Arrives reply opened ∧ (∀ f, RoomFor arrays reply f) ∧ ([7] : List JChar) ≠ [] ∧
      SelfFits sampleHeader.toCommon (sampleRecord [65, 0]) ∧
      CopiesFields sampleHeader ⟨[7], true⟩ arrays reply opened
        (readRF sampleHeader 0 .ok 1 ⟨[7], true⟩ arrays 0 reply opened) :=
  have room (f : CardField) : (field (sampleRecord [65, 0]) f).length ≤
      2 * (List.replicate 130 (7 : JChar)).length := by
    rw [List.length_replicate]
    cases f <;> simp [field, sampleRecord, padded, zeros, -List.reduceReplicate]
  ⟨⟨by decide, rfl⟩, room, by decide, by decide,
    readRF_copies_fields sampleHeader 0 .ok 1 ⟨[7], true⟩ _ 0 _ opened (by decide)
      fun _ => by decide⟩

/-! Texts. The fields of a card are UTF-16, so Java can read them where they lie. -/

theorem takeWhile_append_iff {units rest : List JChar} (nulFree : 0 ∉ units) :
    (units ++ rest).takeWhile (· ≠ 0) = units ↔ ∀ c, rest[0]? = some c → c = 0 := by
  have free : ∀ c ∈ units, decide (c ≠ 0) = true := by
    intro c hc
    have : c ≠ 0 := fun zero => nulFree (zero ▸ hc)
    simpa using this
  rw [List.takeWhile_append_of_pos free]
  cases rest with
  | nil => simp
  | cons c rest => by_cases zero : c = 0 <;> simp [zero]

/-- A text of the record is the text of its array exactly when the field ends it
or the array does. -/
theorem readRF_text_arrives_iff (H : Header) (javaVM : Int) (userData : IdsRet) (cardType : Int)
    (pucType : JavaArray JChar) (arrays : CardField → JavaArray JChar) (ulTimeout : Nat)
    (reply : IdsRet × CardInfoRF) (s : Ids) (accepted : s.pstPfnTab ≠ none ∧ reply.1 = .ok)
    (f : CardField) (units : List JChar) (nulFree : 0 ∉ units) (pad : Nat)
    (holds : field reply.2.cardInfoCN f = bytesOf (units ++ List.replicate pad 0))
    (room : units.length + pad ≤ (arrays f).content.length) :
    ((readRF H javaVM userData cardType pucType arrays ulTimeout reply s).fields f).takeWhile
        (· ≠ 0) = units ↔
      0 < pad ∨ ∀ c, (arrays f).content[units.length]? = some c → c = 0 := by
  obtain ⟨_, fields⟩ := readRF_accepted H javaVM userData cardType pucType arrays ulTimeout reply s
    accepted
  have even : (field reply.2.cardInfoCN f).length % 2 = 0 := by
    rw [holds, length_bytesOf]
    omega
  have array : overwrite (arrays f).content (field reply.2.cardInfoCN f) =
      units ++ (List.replicate pad 0 ++ (arrays f).content.drop (units.length + pad)) := by
    rw [overwrite_even even, holds, wordsOf_bytesOf]
    simp [write]
  rw [fields f, array, takeWhile_append_iff nulFree]
  cases pad with
  | zero => simp
  | succ n => simp [List.replicate_succ]

/-- A name that leaves room for a terminator in its field. -/
def namedReply : IdsRet × CardInfoRF :=
  (.ok, ⟨1, ofFields fun f =>
    match f with
    | .ucName => bytesOf ([24352] ++ List.replicate 2 0)
    | _ => []⟩)

theorem readRF_text_arrives_iff_named :
    ((readRF sampleHeader 0 .ok 1 ⟨[7], true⟩ (fun _ => ⟨[7, 8, 9, 10], false⟩) 0 namedReply
        opened).fields .ucName).takeWhile (· ≠ 0) = [24352] ↔
      0 < 2 ∨ ∀ c, ([7, 8, 9, 10] : List JChar)[1]? = some c → c = 0 :=
  readRF_text_arrives_iff sampleHeader 0 .ok 1 ⟨[7], true⟩ (fun _ => ⟨[7, 8, 9, 10], false⟩) 0
    namedReply opened ⟨by decide, rfl⟩ .ucName [24352] (by decide) 2 rfl (by decide)

end NdkThreadSample.JniDriver

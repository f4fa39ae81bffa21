import NdkThreadSample.TestIDS.Common
import NdkThreadSample.Library.Terminated

/-!
The two translations of a card record into text. `TransIDCard` appends the
nine translated fields, each with a separator, to a string and copies it out.
`TransIDCard_Self` writes each of them back into the record it is given, which
is its own copy of the caller's: the model returns that copy so that it can be
spoken about, and its caller drops it. Neither looks at the length of a buffer:
their local buffers are returned with the rest, and one that has become longer
was written past its end.
-/

namespace NdkThreadSample.TestIDS
open CText
variable (C : Common)

def szSeparate : Text := ⟨[124], by decide⟩

def inPlace (f : Text → Text) (buf : Buffer) : Buffer := strcpy buf (f (cstr buf))

def appendField (szIdInfo byGetTrans : Buffer) : Buffer :=
  strcat (strcat szIdInfo (cstr byGetTrans)) szSeparate

/-- The buffers of a call of `TransIDCard` when it returns. -/
structure CardBuffers where
  byGetTrans : Buffer
  szIdInfo : Buffer
  szIDCard : Buffer

/-- `TransIDCard` with its local buffers. -/
def transIDCardBuffers (r : CardInfoCN) (szIDCard : Buffer) : Bool × CardBuffers :=
  let szIdInfo := zeros 1024
  let byGetTrans := zeros 256
  let byGetTrans := strcpy byGetTrans (C.unicodeByte2Char r.ucName 30)
  let byGetTrans := inPlace C.removSpace byGetTrans
  let szIdInfo := appendField szIdInfo byGetTrans
  let byGetTrans := strcpy (clear byGetTrans) (C.unicodeByte2Char r.ucGender 2)
  let sex := C.transSex (cstr byGetTrans)
  if !sex.1 then (false, ⟨byGetTrans, szIdInfo, szIDCard⟩) else
  let byGetTrans := strcpy byGetTrans sex.2
  let szIdInfo := appendField szIdInfo byGetTrans
  let byGetTrans := strcpy (clear byGetTrans) (C.unicodeByte2Char r.ucNation 4)
  let byGetTrans := inPlace C.transNation byGetTrans
  let szIdInfo := appendField szIdInfo byGetTrans
  let byGetTrans := strcpy (clear byGetTrans) (C.unicodeByte2Char r.ucBirth 16)
  let szIdInfo := appendField szIdInfo byGetTrans
  let byGetTrans := strcpy (clear byGetTrans) (C.unicodeByte2Char r.ucAddress 70)
  let byGetTrans := inPlace C.removSpace byGetTrans
  let szIdInfo := appendField szIdInfo byGetTrans
  let byGetTrans := strcpy (clear byGetTrans) (C.unicodeByte2Char r.ucIDNumber 36)
  let szIdInfo := appendField szIdInfo byGetTrans
  let byGetTrans := strcpy (clear byGetTrans) (C.unicodeByte2Char r.ucIssued 30)
  let byGetTrans := inPlace C.removSpace byGetTrans
  let szIdInfo := appendField szIdInfo byGetTrans
  let byGetTrans := strcpy (clear byGetTrans) (C.unicodeByte2Char r.ucDateBegin 16)
  let szIdInfo := appendField szIdInfo byGetTrans
  let byGetTrans := strcpy (clear byGetTrans) (C.unicodeByte2Char r.ucDateEnd 16)
  let szIdInfo := appendField szIdInfo byGetTrans
  (true, ⟨byGetTrans, szIdInfo, strcpy szIDCard (cstr szIdInfo)⟩)

/-- What the caller sees. -/
def transIDCard (r : CardInfoCN) (szIDCard : Buffer) : Bool × Buffer :=
  let (accepted, b) := transIDCardBuffers C r szIDCard
  (accepted, b.szIDCard)

/-- `TransIDCard_Self` with its local buffer. -/
def transIDCardSelfBuffers (r : CardInfoCN) : Bool × CardInfoCN × Buffer :=
  let byGetTrans := zeros 256
  let byGetTrans := strcpy byGetTrans (C.unicodeByte2Char r.ucName 30)
  let byGetTrans := inPlace C.removSpace byGetTrans
  let r := { r with ucName := strcpy (clear r.ucName) (cstr byGetTrans) }
  let byGetTrans := strcpy (clear byGetTrans) (C.unicodeByte2Char r.ucGender 2)
  let sex := C.transSex (cstr byGetTrans)
  if !sex.1 then (false, r, byGetTrans) else
  let byGetTrans := strcpy byGetTrans sex.2
  let r := { r with ucGender := strcpy (clear r.ucGender) (cstr byGetTrans) }
  let byGetTrans := strcpy (clear byGetTrans) (C.unicodeByte2Char r.ucNation 4)
  let byGetTrans := inPlace C.transNation byGetTrans
  let r := { r with ucNation := strcpy (clear r.ucNation) (cstr byGetTrans) }
  let byGetTrans := strcpy (clear byGetTrans) (C.unicodeByte2Char r.ucBirth 16)
  let r := { r with ucBirth := strcpy (clear r.ucBirth) (cstr byGetTrans) }
  let byGetTrans := strcpy (clear byGetTrans) (C.unicodeByte2Char r.ucAddress 70)
  let byGetTrans := inPlace C.removSpace byGetTrans
  let r := { r with ucAddress := strcpy (clear r.ucAddress) (cstr byGetTrans) }
  let byGetTrans := strcpy (clear byGetTrans) (C.unicodeByte2Char r.ucIDNumber 36)
  let r := { r with ucIDNumber := strcpy (clear r.ucIDNumber) (cstr byGetTrans) }
  let byGetTrans := strcpy (clear byGetTrans) (C.unicodeByte2Char r.ucIssued 30)
  let byGetTrans := inPlace C.removSpace byGetTrans
  let r := { r with ucIssued := strcpy (clear r.ucIssued) (cstr byGetTrans) }
  let byGetTrans := strcpy (clear byGetTrans) (C.unicodeByte2Char r.ucDateBegin 16)
  let r := { r with ucDateBegin := strcpy (clear r.ucDateBegin) (cstr byGetTrans) }
  let byGetTrans := strcpy (clear byGetTrans) (C.unicodeByte2Char r.ucDateEnd 16)
  let r := { r with ucDateEnd := strcpy (clear r.ucDateEnd) (cstr byGetTrans) }
  (true, r, byGetTrans)

def transIDCardSelf (r : CardInfoCN) : Bool × CardInfoCN :=
  let (accepted, r, _) := transIDCardSelfBuffers C r
  (accepted, r)

def sexAccepted (r : CardInfoCN) : Bool := (C.transSex (C.unicodeByte2Char r.ucGender 2)).1

def translated (r : CardInfoCN) : List Text :=
  [C.removSpace (C.unicodeByte2Char r.ucName 30),
    (C.transSex (C.unicodeByte2Char r.ucGender 2)).2,
    C.transNation (C.unicodeByte2Char r.ucNation 4),
    C.unicodeByte2Char r.ucBirth 16,
    C.removSpace (C.unicodeByte2Char r.ucAddress 70),
    C.unicodeByte2Char r.ucIDNumber 36,
    C.removSpace (C.unicodeByte2Char r.ucIssued 30),
    C.unicodeByte2Char r.ucDateBegin 16,
    C.unicodeByte2Char r.ucDateEnd 16]

def CardInfoCN.texts (r : CardInfoCN) : List Text :=
  [cstr r.ucName, cstr r.ucGender, cstr r.ucNation, cstr r.ucBirth, cstr r.ucAddress,
    cstr r.ucIDNumber, cstr r.ucIssued, cstr r.ucDateBegin, cstr r.ucDateEnd]

def joined : List Text → Text
  | [] => CStr.empty
  | t :: ts => t ++ szSeparate ++ joined ts

theorem joined_chars (ts : List Text) :
    (joined ts).chars = Terminated.terminate 124 (ts.map CStr.chars) := by
  induction ts with
  | nil => rfl
  | cons t ts ih => simp [joined, ih, szSeparate, Terminated.terminate]

/-- The texts cut at every separator. -/
def cut (ts : List Text) : List Buffer := Terminated.pieces 124 (ts.map CStr.chars)

theorem joined_eq_iff (ts us : List Text) : joined ts = joined us ↔ cut ts = cut us := by
  rw [CStr.ext_iff, joined_chars, joined_chars, Terminated.terminate_eq_iff, cut, cut]

theorem cut_eq_iff_of_free {ts us : List Text} (same : ts.length = us.length)
    (free : ∀ t ∈ ts, 124 ∉ t.chars) : cut ts = cut us ↔ ts = us := by
  rw [cut, cut, Terminated.pieces_eq_iff_of_free (by simpa using same) (by simpa using free)]
  exact (List.map_injective_iff.mpr fun _ _ => CStr.ext).eq_iff

@[simp] theorem cstr_inPlace (f : Text → Text) (buf : Buffer) :
    cstr (inPlace f buf) = f (cstr buf) := by
  simp [inPlace]

@[simp] theorem cstr_appendField (szIdInfo byGetTrans : Buffer) :
    cstr (appendField szIdInfo byGetTrans) = cstr szIdInfo ++ cstr byGetTrans ++ szSeparate := by
  simp [appendField]

@[simp] theorem cstr_zeros (n : Nat) : cstr (zeros n) = CStr.empty := by
  have h := cstr_clear (zeros n)
  simpa [clear, zeros] using h

/-- `TransIDCard` copies the joined translations when the gender is known and
leaves the buffer alone otherwise. -/
theorem transIDCard_eq (r : CardInfoCN) (szIDCard : Buffer) :
    transIDCard C r szIDCard =
      if sexAccepted C r then (true, strcpy szIDCard (joined (translated C r)))
      else (false, szIDCard) := by
  simp only [transIDCard, transIDCardBuffers, cstr_strcpy, cstr_inPlace, cstr_appendField,
    cstr_zeros, sexAccepted]
  by_cases h : (C.transSex (C.unicodeByte2Char r.ucGender 2)).1 = true
  · simp only [h, Bool.not_true, Bool.false_eq_true, if_false, if_true]
    refine congrArg (fun t => (true, strcpy szIDCard t)) (CStr.ext ?_)
    simp [joined, translated]
  · simp [h]

theorem transIDCardSelf_texts (r : CardInfoCN) (h : sexAccepted C r = true) :
    (transIDCardSelf C r).2.texts = translated C r := by
  simp only [sexAccepted] at h
  simp [transIDCardSelf, transIDCardSelfBuffers, CardInfoCN.texts, translated, h]

/-- A record with the given name, a known gender and nation, and a birth date. -/
def sampleRecord (name : Buffer) : CardInfoCN where
  ucName := padded 60 name
  ucGender := padded 10 [49, 0]
  ucNation := padded 100 [48, 0, 49, 0]
  ucBirth := padded 16 [50, 0, 48, 0]
  ucAddress := zeros 100
  ucIDNumber := zeros 36
  ucIssued := zeros 80
  ucDateBegin := zeros 16
  ucDateEnd := zeros 16
  cHeadName := zeros 260
  cLeftName := zeros 260
  cRightName := zeros 260

end NdkThreadSample.TestIDS

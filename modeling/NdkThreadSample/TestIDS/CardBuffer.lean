import NdkThreadSample.TestIDS.CardBounds
import NdkThreadSample.TestIDS.Session

/-!
The card buffer that the loop of `test` passes to every `ScanAndReadIdCard`
call. A call that reads a card should succeed only with that card's text in the
buffer and leave the buffer alone when it fails. The result flag and the buffer
are decided by different steps: the read command, the move and the scan decide
the flag, the fetch that follows them decides the buffer.
-/

namespace NdkThreadSample.TestIDS
open CText LabelledRun

/-- The calls of the loop: scans share the buffer, the others do not see it. -/
inductive LoopCall
  | scan (bScanImage bReadRF : Bool) (reply : CardReplies)
  | other (c : Call)

def loopStep (C : Common) (s : Ids × Buffer) : LoopCall → Ids × Buffer
  | .scan bScanImage bReadRF reply =>
      let r := scanAndReadIdCard C bScanImage bReadRF s.2 reply s.1
      (r.state, r.szIDCard)
  | .other c => (step C s.1 c, s.2)

/-- The buffer is what `TransIDCard` leaves when it succeeds on the record. -/
def HoldsCard (C : Common) (r : CardInfoCN) (buf : Buffer) : Prop :=
  ∃ before, transIDCard C r before = (true, buf)

/-- `TransIDCard` runs whenever a record has arrived, and stays in its buffers. -/
def WritesInside (C : Common) (s : Ids) (bReadRF : Bool) (szIDCard : Buffer)
    (reply : CardReplies) : Prop :=
  s.pstPfnTab ≠ none → bReadRF = true → reply.readRF2.1 = .ok →
    InBounds szIDCard (transIDCardBuffers C reply.readRF2.2.cardInfoCN szIDCard).2

def ReportsOwnCard (C : Common) (s : Ids × Buffer) : LoopCall → Prop
  | .scan bScanImage bReadRF reply =>
      let r := scanAndReadIdCard C bScanImage bReadRF s.2 reply s.1
      (bReadRF = true → r.bRet = true →
        reply.readRF2.1 = .ok ∧ HoldsCard C reply.readRF2.2.cardInfoCN r.szIDCard) ∧
      (r.bRet = false → r.szIDCard = s.2) ∧
      WritesInside C s.1 bReadRF s.2 reply
  | .other _ => True

def earlierSteps (bScanImage : Bool) (reply : CardReplies) : Bool :=
  reply.readRF1 = .ok && reply.move = .ok && (!bScanImage || reply.scan = .ok)

def fetches (C : Common) (reply : CardReplies) : Bool :=
  reply.readRF2.1 = .ok && sexAccepted C reply.readRF2.2.cardInfoCN

/-- No record arrives, or its texts fit. -/
def RecordFits (C : Common) (s : Ids) (bReadRF : Bool) (room : Nat) (reply : CardReplies) : Prop :=
  s.pstPfnTab = none ∨ bReadRF = false ∨ reply.readRF2.1 ≠ .ok ∨
    CardFits C reply.readRF2.2.cardInfoCN room

/-- The read command, the move and the scan succeed exactly when the fetch
does; a fetch after a failure is harmless when the buffer holds its text already. -/
def StepsAgree (C : Common) (s : Ids × Buffer) : LoopCall → Prop
  | .scan bScanImage bReadRF reply =>
      RecordFits C s.1 bReadRF s.2.length reply ∧
        (s.1.pstPfnTab = none ∨ bReadRF = false ∨
          earlierSteps bScanImage reply = fetches C reply ∨
          (earlierSteps bScanImage reply = false ∧
            (joined (translated C reply.readRF2.2.cardInfoCN)).chars ++ [0] <+: s.2))
  | .other _ => True

section
variable (C : Common) (bScanImage : Bool) (szIDCard : Buffer) (reply : CardReplies) (s : Ids)

theorem scan_closed (bReadRF : Bool) (closed : s.pstPfnTab = none) :
    scanAndReadIdCard C bScanImage bReadRF szIDCard reply s = ⟨false, szIDCard, s⟩ := by
  simp [scanAndReadIdCard, closed]

theorem scan_without_read :
    (scanAndReadIdCard C bScanImage false szIDCard reply s).szIDCard = szIDCard := by
  simp only [scanAndReadIdCard]
  split <;> rfl

/-- The flag of a reading call is decided by the steps before the fetch. -/
theorem scan_bRet {tab : PfnTab} (open_ : s.pstPfnTab = some tab) :
    (scanAndReadIdCard C bScanImage true szIDCard reply s).bRet =
      earlierSteps bScanImage reply := by
  obtain ⟨readRF1, move, scan, ret, rf⟩ := reply
  simp only [scanAndReadIdCard, open_, earlierSteps, if_true]
  cases bScanImage with
  | false => cases ret <;> simp
  | true =>
      by_cases h1 : readRF1 = .ok <;> by_cases h2 : move = .ok <;>
        cases ret <;> simp [h1, h2]

/-- The buffer of a reading call is decided by the fetch. -/
theorem scan_szIDCard {tab : PfnTab} (open_ : s.pstPfnTab = some tab) :
    (scanAndReadIdCard C bScanImage true szIDCard reply s).szIDCard =
      if fetches C reply then
        strcpy szIDCard (joined (translated C reply.readRF2.2.cardInfoCN))
      else szIDCard := by
  obtain ⟨readRF1, move, scan, ret, rf⟩ := reply
  cases ret with
  | ok =>
      by_cases h : sexAccepted C rf.cardInfoCN = true <;>
        simp [scanAndReadIdCard, open_, fetches, transIDCard_eq, h]
  | err | errRf | errJam | other code => simp [scanAndReadIdCard, open_, fetches]

end

theorem writesInside_iff (C : Common) (s : Ids) (bReadRF : Bool) (szIDCard : Buffer)
    (reply : CardReplies) :
    WritesInside C s bReadRF szIDCard reply ↔ RecordFits C s bReadRF szIDCard.length reply := by
  rw [WritesInside, RecordFits, inBounds_iff]
  cases s.pstPfnTab with
  | none => simp
  | some tab => cases bReadRF <;> by_cases arrived : reply.readRF2.1 = .ok <;> simp [arrived]

theorem holdsCard_iff (C : Common) (r : CardInfoCN) (buf : Buffer) :
    HoldsCard C r buf ↔
      sexAccepted C r = true ∧ ∃ before, strcpy before (joined (translated C r)) = buf := by
  simp only [HoldsCard, transIDCard_eq]
  by_cases h : sexAccepted C r = true <;> simp [h]

theorem reportsOwnCard_iff (C : Common) (s : Ids × Buffer) (c : LoopCall) :
    ReportsOwnCard C s c ↔ StepsAgree C s c := by
  cases c with
  | other c => rfl
  | scan bScanImage bReadRF reply =>
      obtain ⟨ids, buf⟩ := s
      rw [ReportsOwnCard, StepsAgree, ← and_assoc, and_comm, writesInside_iff]
      refine and_congr_right fun _ => ?_
      cases open_ : ids.pstPfnTab with
      | none => simp [scan_closed, open_]
      | some tab =>
          cases bReadRF with
          | false => simp [scan_without_read]
          | true =>
              simp only [scan_bRet C _ _ _ _ open_, scan_szIDCard C _ _ _ _ open_, holdsCard_iff]
              -- the flag on the left of each case, the fetch on the right
              cases he : earlierSteps bScanImage reply <;> cases hf : fetches C reply
              · simp
              · simp [strcpy_eq_self_iff]
              · have missed : reply.readRF2.1 = .ok →
                    sexAccepted C reply.readRF2.2.cardInfoCN = false := by
                  simpa [fetches] using hf
                simp only [reduceCtorEq, Bool.true_eq_false, false_and, or_self, iff_false]
                intro h
                obtain ⟨hok, hsex, _⟩ := h.1 trivial trivial
                simp [missed hok] at hsex
              · have fetched : reply.readRF2.1 = .ok ∧
                    sexAccepted C reply.readRF2.2.cardInfoCN = true := by
                  simpa [fetches] using hf
                simp [fetched.1, fetched.2]

/-- In every run of the loop each call reports its own card, and writes inside
its buffers, exactly when in each of its calls the earlier steps and the fetch
agree and the texts of a record that arrives fit. -/
theorem loop_reports_own_card_iff (C : Common) (s : Ids × Buffer) (calls : List LoopCall) :
    EachStep (ofFn (loopStep C)) s calls (fun _ s c _ => ReportsOwnCard C s c) ↔
      EachStep (ofFn (loopStep C)) s calls (fun _ s c _ => StepsAgree C s c) :=
  EachStep.congr (I := fun _ _ => True) (fun _ _ _ _ _ _ => trivial) trivial
    (fun _ s c _ _ _ => reportsOwnCard_iff C s c)

/-! Two cards are scanned and the fetch of the second one fails. -/

def cardReplies (name : Buffer) (fetch : IdsRet) : CardReplies :=
  ⟨.ok, .ok, .ok, (fetch, ⟨0, sampleRecord name⟩)⟩

def readCard (name : Buffer) (fetch : IdsRet) : LoopCall := .scan true true (cardReplies name fetch)

def openIds : Ids := { Ids.init with pstPfnTab := some ⟨1⟩ }

def afterFirstCard : Ids × Buffer := loopStep latinCommon (openIds, zeros 64) (readCard [65, 0] .ok)

/-- `ScanAndReadIdCard` of the second card. -/
def secondCard : CardResult :=
  scanAndReadIdCard latinCommon true true afterFirstCard.2 (cardReplies [66, 0] .errRf)
    afterFirstCard.1

def firstText : Text := joined (translated latinCommon (sampleRecord [65, 0]))

/-- The second call answers true over the text of the first card. -/
theorem second_card_reported_with_first_text :
    (secondCard.bRet = true ∧ cstr secondCard.szIDCard = firstText ∧
      ¬ HoldsCard latinCommon (sampleRecord [66, 0]) secondCard.szIDCard) ∧
    ¬ EachStep (ofFn (loopStep latinCommon)) (openIds, zeros 64)
      [readCard [65, 0] .ok, readCard [66, 0] .errRf]
      (fun _ s c _ => ReportsOwnCard latinCommon s c) := by
  have text : cstr secondCard.szIDCard = firstText := by
    have first : afterFirstCard.2 = strcpy (zeros 64) firstText :=
      scan_szIDCard latinCommon true (zeros 64) (cardReplies [65, 0] .ok) openIds rfl
    have second : secondCard.szIDCard = afterFirstCard.2 :=
      scan_szIDCard latinCommon true afterFirstCard.2 (cardReplies [66, 0] .errRf) _ rfl
    rw [second, first, cstr_strcpy]
  refine ⟨⟨rfl, text, ?_⟩, ?_⟩
  · rw [holdsCard_iff]
    rintro ⟨_, before, held⟩
    rw [← held, cstr_strcpy] at text
    exact absurd text (by decide)
  · intro h
    have second := h [readCard [65, 0] .ok] (readCard [66, 0] .errRf) [] _ _ rfl
      (.cons rfl (.nil _)) rfl
    exact absurd (second.1 rfl rfl).1 (by decide)

end NdkThreadSample.TestIDS

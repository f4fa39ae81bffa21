import NdkThreadSample.TestIDS.Polls
import NdkThreadSample.TestIDS.CardBuffer

/-!
`test`, the program that the Java side starts: it opens the driver and then
waits for cards, scans each and moves it back, in a loop that nothing leaves.
What is said here about the loop holds after any number of its rounds, whatever
the driver answers in them.
-/

namespace NdkThreadSample.TestIDS
open CText LabelledRun Custody
variable (C : Common) {s : Ids} {tab : PfnTab}

/-- What the driver answers in one round of the loop. -/
structure Round where
  cover : Poll
  blocked : Poll
  inserted : Poll
  card : CardReplies
  back : IdsRet

/-- The body of the loop; the buffer is `szIDCard`. -/
def testRound (st : Ids × Buffer) (r : Round) : Ids × Buffer :=
  let (found, s) := waitForCard C r.cover r.blocked r.inserted st.1
  if found then
    let scanned := scanAndReadIdCard C true true st.2 r.card s
    if scanned.bRet then ((backIdCard C r.back scanned.state).2, scanned.szIDCard)
    else (scanned.state, scanned.szIDCard)
  else (s, st.2)

/-- `"/sdcard/android"` -/
def imgPath : Text :=
  ⟨[47, 115, 100, 99, 97, 114, 100, 47, 97, 110, 100, 114, 111, 105, 100], by decide⟩

/-- `test` after as many rounds of its loop as there are answers. The local
`pstPfnTab` is not used, and the `CloseDevice` behind the loop is not reached. -/
def test (fd : Int) (entry : Option PfnTab) (init : IdsRet) (rounds : List Round) (s : Ids) :
    Ids × Buffer :=
  let szIDCard := zeros 1024
  let (opened, s) := openDevice C imgPath fd entry init s
  if opened then rounds.foldl (testRound C) (s, szIDCard) else (s, szIDCard)

/-! One round. -/

def Round.found (r : Round) : Bool :=
  !r.cover.coverLow C && !r.blocked.passageLow C && r.inserted.cardLow C

def Round.scanned (r : Round) : Bool := earlierSteps true r.card

/-- The settings that `OpenDevice` leaves. -/
def openConf : ScanConf :=
  { ScanConf.zero with
    dpi := C.scanDpi300, mode := C.scanModeColor, side := C.scanSideDup, type := C.cardTypeIdCn }

def Round.calls (tab : PfnTab) (conf : ScanConf) (r : Round) : List Issued :=
  waitCalls C tab r.cover r.blocked r.inserted ++
    if r.found C then
      cardCalls C tab conf true true r.card ++
        if r.scanned then [⟨tab, .pMove C.movePosInsert 10000⟩] else []
    else []

theorem waitForCard_round (r : Round) (open_ : s.pstPfnTab = some tab) :
    waitForCard C r.cover r.blocked r.inserted s =
      (r.found C, s.waited C tab r.cover r.blocked r.inserted) :=
  waitForCard_eq C r.cover r.blocked r.inserted open_

theorem scan_round (r : Round) (szIDCard : Buffer) (open_ : s.pstPfnTab = some tab) :
    (scanAndReadIdCard C true true szIDCard r.card s).bRet = r.scanned :=
  scan_bRet C true szIDCard r.card s open_

theorem testRound_state (r : Round) (szIDCard : Buffer) (open_ : s.pstPfnTab = some tab) :
    (testRound C (s, szIDCard) r).1.pstPfnTab = some tab ∧
      (testRound C (s, szIDCard) r).1.gScanConf = s.gScanConf ∧
      (testRound C (s, szIDCard) r).1.issued = s.issued ++ r.calls C tab s.gScanConf := by
  have open' : (s.waited C tab r.cover r.blocked r.inserted).pstPfnTab = some tab := open_
  simp only [testRound, waitForCard_round C r open_, scan_round C r szIDCard open',
    scanAndReadIdCard_state C _ _ _ _ open', Round.calls]
  by_cases found : r.found C = true
  · by_cases scanned : r.scanned = true
    · simp [found, scanned, backIdCard, open_, Ids.issue, Ids.waited]
    · simp [found, scanned, open_, Ids.waited]
  · simp [found, open_, Ids.waited]

theorem testRound_szIDCard (r : Round) (szIDCard : Buffer) (open_ : s.pstPfnTab = some tab) :
    (testRound C (s, szIDCard) r).2 =
      if r.found C && fetches C r.card then
        strcpy szIDCard (joined (translated C r.card.readRF2.2.cardInfoCN))
      else szIDCard := by
  have open' : (s.waited C tab r.cover r.blocked r.inserted).pstPfnTab = some tab := open_
  simp only [testRound, waitForCard_round C r open_, scan_szIDCard C _ _ _ _ open']
  by_cases found : r.found C = true
  · simp [found, apply_ite Prod.snd]
  · simp [found]

/-! Any number of rounds. -/

theorem rounds_state (rounds : List Round) (szIDCard : Buffer) (open_ : s.pstPfnTab = some tab) :
    (rounds.foldl (testRound C) (s, szIDCard)).1.pstPfnTab = some tab ∧
      (rounds.foldl (testRound C) (s, szIDCard)).1.gScanConf = s.gScanConf ∧
      (rounds.foldl (testRound C) (s, szIDCard)).1.issued =
        s.issued ++ rounds.flatMap (Round.calls C tab s.gScanConf) := by
  induction rounds generalizing s szIDCard with
  | nil => simp [open_]
  | cons r rounds ih =>
      obtain ⟨open', conf, issued⟩ := testRound_state C r szIDCard open_
      obtain ⟨last, lastConf, lastIssued⟩ := ih (testRound C (s, szIDCard) r).2 open'
      refine ⟨last, lastConf.trans conf, ?_⟩
      rw [List.foldl_cons, lastIssued, conf, issued, List.append_assoc, List.flatMap_cons]

/-- In a round that finds a card the texts of a record that arrives fit. -/
def Round.Fits (room : Nat) (r : Round) : Prop :=
  r.found C = true → r.card.readRF2.1 = .ok → CardFits C r.card.readRF2.2.cardInfoCN room

instance (room : Nat) (r : Round) : Decidable (r.Fits C room) :=
  inferInstanceAs (Decidable (_ → _ → _))

/-- A round in which the texts fit keeps the size of the buffer. -/
theorem testRound_length (r : Round) (szIDCard : Buffer) (open_ : s.pstPfnTab = some tab)
    (fits : r.Fits C szIDCard.length) :
    (testRound C (s, szIDCard) r).2.length = szIDCard.length := by
  rw [testRound_szIDCard C r szIDCard open_]
  split
  · next fetched =>
      simp only [fetches, Bool.and_eq_true, decide_eq_true_eq] at fetched
      obtain ⟨found, arrived, accepted⟩ := fetched
      exact (length_strcpy_iff _ _).mpr ((fits found arrived).short C accepted)
  · rfl

theorem rounds_length (rounds : List Round) (szIDCard : Buffer) (open_ : s.pstPfnTab = some tab)
    (fits : ∀ r ∈ rounds, r.Fits C szIDCard.length) :
    (rounds.foldl (testRound C) (s, szIDCard)).2.length = szIDCard.length := by
  induction rounds generalizing s szIDCard with
  | nil => rfl
  | cons r rounds ih =>
      obtain ⟨open', _⟩ := testRound_state C r szIDCard open_
      have kept := testRound_length C r szIDCard open_ (fits r List.mem_cons_self)
      rw [List.foldl_cons, ih _ open', kept]
      intro later hmem
      rw [kept]
      exact fits later (List.mem_cons_of_mem r hmem)

/-- The record that was fetched last. -/
def lastFetched (rounds : List Round) : Option CardInfoCN :=
  (rounds.filter fun r => r.found C && fetches C r.card).getLast?.map
    fun r => r.card.readRF2.2.cardInfoCN

def lastText (rounds : List Round) (before : Text) : Text :=
  (lastFetched C rounds).elim before fun r => joined (translated C r)

theorem lastText_cons (r : Round) (rounds : List Round) (before : Text) :
    lastText C (r :: rounds) before =
      lastText C rounds
        (if r.found C && fetches C r.card then joined (translated C r.card.readRF2.2.cardInfoCN)
          else before) := by
  simp only [lastText, lastFetched, List.filter_cons]
  split
  · cases rounds.filter fun r => r.found C && fetches C r.card <;>
      simp [List.getLast?_cons]
  · rfl

theorem rounds_text (rounds : List Round) (szIDCard : Buffer) (open_ : s.pstPfnTab = some tab) :
    cstr (rounds.foldl (testRound C) (s, szIDCard)).2 = lastText C rounds (cstr szIDCard) := by
  induction rounds generalizing s szIDCard with
  | nil => rfl
  | cons r rounds ih =>
      obtain ⟨open', _⟩ := testRound_state C r szIDCard open_
      rw [List.foldl_cons, ih _ open', lastText_cons, testRound_szIDCard C r szIDCard open_]
      split <;> simp

/-! The movements of the cards. -/

def Issued.isMove (i : Issued) : Bool :=
  match i.call with
  | .pMove _ _ => true
  | _ => false

/-- A card that was found is drawn in, and moved back once it has been scanned. -/
def Round.moves (tab : PfnTab) (r : Round) : List Issued :=
  if r.found C then
    ⟨tab, .pMove C.movePosScan 10000⟩ ::
      if r.scanned then [⟨tab, .pMove C.movePosInsert 10000⟩] else []
  else []

/-- A call that keeps the session, passes no user data and scans with the given
settings only. -/
def Issued.plain (tab : PfnTab) (conf : ScanConf) (i : Issued) : Prop :=
  i.act = .use tab ∧ (∀ data, i.call ≠ .pSetUserData data) ∧
    ∀ other, i.call = .pScan other → other = conf

theorem waitCalls_plain (conf : ScanConf) (cover blocked inserted : Poll) :
    ∀ i ∈ waitCalls C tab cover blocked inserted, i.plain tab conf ∧ i.isMove = false := by
  have poll (p : Poll) : ∀ i ∈ pollCalls C tab p, i.plain tab conf ∧ i.isMove = false := by
    intro i hi
    simp only [pollCalls, List.mem_cons, List.mem_ite_nil_right, List.not_mem_nil, or_false] at hi
    cases hi with
    | inl connect => simp [connect, Issued.plain, Issued.act, Issued.isMove]
    | inr status => simp [status.2, Issued.plain, Issued.act, Issued.isMove]
  intro i hi
  simp only [waitCalls, List.mem_append, List.mem_ite_nil_left] at hi
  cases hi with
  | inl first => exact poll cover i first
  | inr later =>
      cases later.2 with
      | inl second => exact poll blocked i second
      | inr third => exact poll inserted i third.2

theorem cardCalls_plain (conf : ScanConf) (reply : CardReplies) :
    ∀ i ∈ cardCalls C tab conf true true reply, i.plain tab conf := by
  intro i hi
  simp only [cardCalls, if_true, List.mem_append, List.mem_ite_nil_right, List.mem_singleton] at hi
  cases hi with
  | inl early =>
      cases early with
      | inl first => cases first <;> simp [*, Issued.plain, Issued.act]
      | inr scanned => simp [scanned.2, Issued.plain, Issued.act]
  | inr fetched => simp [fetched, Issued.plain, Issued.act]

theorem cardCalls_moves (conf : ScanConf) (reply : CardReplies) :
    (cardCalls C tab conf true true reply).filter Issued.isMove =
      [⟨tab, .pMove C.movePosScan 10000⟩] := by
  simp only [cardCalls, if_true]
  split <;> simp [Issued.isMove, List.filter_cons]

theorem calls_plain (conf : ScanConf) (r : Round) : ∀ i ∈ r.calls C tab conf, i.plain tab conf := by
  intro i hi
  simp only [Round.calls, List.mem_append, List.mem_ite_nil_right, List.mem_singleton] at hi
  cases hi with
  | inl waited => exact (waitCalls_plain C conf _ _ _ i waited).1
  | inr carried =>
      cases carried.2 with
      | inl scanned => exact cardCalls_plain C conf r.card i scanned
      | inr back => simp [back.2, Issued.plain, Issued.act]

theorem calls_moves (conf : ScanConf) (r : Round) :
    (r.calls C tab conf).filter Issued.isMove = r.moves C tab := by
  have waited : (waitCalls C tab r.cover r.blocked r.inserted).filter Issued.isMove = [] := by
    apply List.filter_eq_nil_iff.mpr
    intro i hi
    simp [(waitCalls_plain C conf _ _ _ i hi).2]
  simp only [Round.calls, Round.moves, List.filter_append, waited, List.nil_append]
  by_cases found : r.found C = true
  · by_cases scanned : r.scanned = true <;>
      simp [found, scanned, cardCalls_moves, Issued.isMove]
  · simp [found]

/-- Once the driver is open the loop keeps its session without ever passing user
data, scans with the settings of `OpenDevice`, and moves the cards round by
round: a card is drawn in when it is found and moved back when it is scanned. -/
theorem test_moves_cards (C : Common) (fd : Int) (tab : PfnTab) (rounds : List Round) (s : Ids) :
    (test C fd (some tab) .ok rounds s).1.pstPfnTab = some tab ∧
      ∃ asked, (test C fd (some tab) .ok rounds s).1.issued =
          (closeDevice s).2.issued ++ ⟨tab, .pInit imgPath ⟨0x05e3, 0x0102, fd⟩ .ok⟩ :: asked ∧
        (∀ i ∈ asked, i.plain tab (openConf C)) ∧
        asked.filter Issued.isMove = rounds.flatMap (Round.moves C tab) := by
  have opened : openDevice C imgPath fd (some tab) .ok s =
      (true, (openDevice C imgPath fd (some tab) .ok s).2) := rfl
  have open_ : (openDevice C imgPath fd (some tab) .ok s).2.pstPfnTab = some tab := rfl
  obtain ⟨held, _, issued⟩ := rounds_state C rounds (zeros 1024) open_
  rw [test, opened]
  refine ⟨held, rounds.flatMap (Round.calls C tab (openConf C)), ?_, ?_, ?_⟩
  · refine issued.trans ?_
    simp [openDevice, Ids.issue, openConf]
  · intro i hi
    obtain ⟨r, _, asked⟩ := List.mem_flatMap.mp hi
    exact calls_plain C (openConf C) r i asked
  · rw [List.filter_flatMap]
    exact congrArg rounds.flatMap (funext (calls_moves C (openConf C)))

/-- As long as the texts of the fetched records fit, the buffer keeps its size
and holds the text of the one that was fetched last, whatever became of the
other rounds. -/
theorem test_keeps_last_text (C : Common) (fd : Int) (entry : Option PfnTab) (init : IdsRet)
    (rounds : List Round) (s : Ids) (fits : ∀ r ∈ rounds, r.Fits C 1024) :
    (test C fd entry init rounds s).2.length = 1024 ∧
      cstr (test C fd entry init rounds s).2 =
        if entry.isSome ∧ init = .ok then lastText C rounds CStr.empty else CStr.empty := by
  have empty : cstr (zeros 1024) = CStr.empty := cstr_zeros 1024
  have size : (zeros 1024).length = 1024 := length_zeros 1024
  cases entry with
  | none => simp [test, openDevice, size]
  | some tab =>
      by_cases accepted : init = .ok
      · subst accepted
        have opened : openDevice C imgPath fd (some tab) .ok s =
            (true, (openDevice C imgPath fd (some tab) .ok s).2) := rfl
        have open_ : (openDevice C imgPath fd (some tab) .ok s).2.pstPfnTab = some tab := rfl
        rw [test, opened]
        refine ⟨?_, by simpa [empty] using rounds_text C rounds (zeros 1024) open_⟩
        exact (rounds_length C rounds (zeros 1024) open_ (by rwa [size])).trans size
      · simp [test, openDevice, accepted, empty, size]

/-- One card is found and read. -/
def cardRound : Round where
  cover := ⟨.ok, .ok, ⟨1, 0, 1, 1, 1⟩⟩
  blocked := ⟨.ok, .ok, ⟨1, 0, 1, 1, 1⟩⟩
  inserted := ⟨.ok, .ok, ⟨1, 0, 1, 1, 1⟩⟩
  card := cardReplies [65, 0] .ok
  back := .ok

theorem test_keeps_last_text_card :
    (∀ r ∈ [cardRound], r.Fits latinCommon 1024) ∧ lastFetched latinCommon [cardRound] ≠ none ∧
      (test latinCommon 7 (some ⟨1⟩) .ok [cardRound] Ids.init).2.length = 1024 ∧
      cstr (test latinCommon 7 (some ⟨1⟩) .ok [cardRound] Ids.init).2 =
        lastText latinCommon [cardRound] CStr.empty := by
  have fits : ∀ r ∈ [cardRound], r.Fits latinCommon 1024 := by decide
  have kept := test_keeps_last_text latinCommon 7 (some ⟨1⟩) .ok [cardRound] Ids.init fits
  exact ⟨fits, by decide, kept⟩

end NdkThreadSample.TestIDS

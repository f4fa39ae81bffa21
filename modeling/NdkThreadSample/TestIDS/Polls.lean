import NdkThreadSample.TestIDS.CardWait
import NdkThreadSample.Library.Preceded

/-!
What each operation asks of an open driver, call by call. The driver is asked
for its status or its versions right after it has accepted a `pConnect`.
`GetDevStatus` remembers the last `pConnect` in a static flag, which every poll
sets before it reads it, so that a poll never goes by an old answer.
-/

namespace NdkThreadSample.TestIDS
open CText LabelledRun Preceded
variable (C : Common) {s t : Ids} {tab : PfnTab}

/-! The calls of a poll and of the three polls of `WaitForCard`. -/

def pollCalls (tab : PfnTab) (poll : Poll) : List Issued :=
  ⟨tab, .pConnect⟩ :: if poll.connect = .ok then [⟨tab, .pGetStatus C.statusTypeDs⟩] else []

def Poll.coverLow (poll : Poll) : Bool :=
  poll.read ∧ C.statusDsFlagLow = poll.stResult.ulCOVER

def Poll.passageLow (poll : Poll) : Bool :=
  poll.read ∧ C.statusDsFlagLow = poll.stResult.ulSensor2 ∧
    C.statusDsFlagLow = poll.stResult.ulSensor3 ∧ C.statusDsFlagLow = poll.stResult.ulSensor4

def Poll.cardLow (poll : Poll) : Bool :=
  poll.read ∧ C.statusDsFlagLow = poll.stResult.ulSensor1

def waitCalls (tab : PfnTab) (cover blocked inserted : Poll) : List Issued :=
  pollCalls C tab cover ++
    if cover.coverLow C then []
    else pollCalls C tab blocked ++
      if blocked.passageLow C then [] else pollCalls C tab inserted

/-- The poll that sets the flag last. -/
def lastPoll (cover blocked inserted : Poll) : Poll :=
  if cover.coverLow C then cover
  else if blocked.passageLow C then blocked else inserted

/-- The state that a poll leaves. -/
def Ids.polled (s : Ids) (C : Common) (tab : PfnTab) (poll : Poll) : Ids :=
  { s with
    issued := s.issued ++ pollCalls C tab poll
    s_bDevOnLine := poll.connect = .ok }

/-- A poll reads the flag that its own `pConnect` has set. -/
theorem getDevStatus_eq (stResult : StatusResult) (poll : Poll) (open_ : s.pstPfnTab = some tab) :
    getDevStatus C stResult poll s =
      (decide poll.read, if poll.connect = .ok then poll.stResult else stResult,
        s.polled C tab poll) := by
  simp only [getDevStatus, open_, pollCalls, Poll.read, Ids.issue, Ids.polled]
  by_cases connected : poll.connect = .ok
  · cases online : s.s_bDevOnLine <;> simp [connected]
  · simp [connected]

theorem coverFlagIs_eq (poll : Poll) (open_ : s.pstPfnTab = some tab) :
    coverFlagIs C C.statusDsFlagLow poll s = (poll.coverLow C, s.polled C tab poll) := by
  apply Prod.ext
  · apply Bool.eq_iff_iff.mpr
    rw [coverFlagIs_iff C _ poll open_]
    simp [Poll.coverLow]
  · simp [coverFlagIs, open_, getDevStatus_eq C _ poll open_]

theorem sensorFlagIs_state (enSensorFlag enFlag : Nat) (poll : Poll)
    (open_ : s.pstPfnTab = some tab) :
    (sensorFlagIs C enSensorFlag enFlag poll s).2 = s.polled C tab poll := by
  simp [sensorFlagIs, open_, getDevStatus_eq C _ poll open_]

theorem passageLow_eq (poll : Poll) (open_ : s.pstPfnTab = some tab) :
    sensorFlagIs C (C.sensors.sensor2 ||| C.sensors.sensor3 ||| C.sensors.sensor4)
      C.statusDsFlagLow poll s = (poll.passageLow C, s.polled C tab poll) := by
  obtain ⟨m1, m2, m3, m4⟩ := blocked_mask C
  apply Prod.ext
  · apply Bool.eq_iff_iff.mpr
    rw [sensorFlagIs_iff C _ _ poll open_]
    simp [Poll.passageLow, m1, m2, m3, m4]
  · exact sensorFlagIs_state C _ _ poll open_

theorem cardLow_eq (poll : Poll) (open_ : s.pstPfnTab = some tab) :
    sensorFlagIs C C.sensors.sensor1 C.statusDsFlagLow poll s =
      (poll.cardLow C, s.polled C tab poll) := by
  obtain ⟨h1, _⟩ := C.sensors.nonzero
  obtain ⟨d12, d13, d14, _⟩ := C.sensors.disjoint
  apply Prod.ext
  · apply Bool.eq_iff_iff.mpr
    rw [sensorFlagIs_iff C _ _ poll open_]
    simp [Poll.cardLow, h1, d12, d13, d14]
  · exact sensorFlagIs_state C _ _ poll open_

/-- The state that the polls of `WaitForCard` leave. -/
def Ids.waited (s : Ids) (C : Common) (tab : PfnTab) (cover blocked inserted : Poll) : Ids :=
  { s with
    issued := s.issued ++ waitCalls C tab cover blocked inserted
    s_bDevOnLine := (lastPoll C cover blocked inserted).connect = .ok }

theorem waitForCard_eq (cover blocked inserted : Poll) (open_ : s.pstPfnTab = some tab) :
    waitForCard C cover blocked inserted s =
      (!cover.coverLow C && !blocked.passageLow C && inserted.cardLow C,
        s.waited C tab cover blocked inserted) := by
  have once : (s.polled C tab cover).pstPfnTab = some tab := open_
  have twice : ((s.polled C tab cover).polled C tab blocked).pstPfnTab = some tab := open_
  simp only [waitForCard, open_, coverFlagIs_eq C cover open_, passageLow_eq C blocked once,
    cardLow_eq C inserted twice, Ids.waited, waitCalls, lastPoll]
  by_cases coverLow : cover.coverLow C = true
  · simp [coverLow, Ids.polled, open_]
  · by_cases passageLow : blocked.passageLow C = true
    · simp [coverLow, passageLow, Ids.polled, open_]
    · simp [coverLow, passageLow, Ids.polled, open_]

/-- The calls of an operation that finds the table `tab` open and `gScanConf`
set to `conf`; the two operations that open and close are not described here. -/
def Op.calls (tab : PfnTab) (conf : ScanConf) : Op → List Issued
  | .openDevice _ _ _ _ | .closeDevice => []
  | .setUserData iUserDataPtr _ => [⟨tab, .pSetUserData iUserDataPtr⟩]
  | .calibrate _ => [⟨tab, .pCalibrate⟩]
  | .getDevInfo _ conn _ =>
      ⟨tab, .pConnect⟩ :: if conn = .ok then [⟨tab, .pGetDevInfo⟩] else []
  | .reset _ => [⟨tab, .pReset⟩]
  | .connect _ => [⟨tab, .pConnect⟩]
  | .getStatus iType _ conn _ =>
      ⟨tab, .pConnect⟩ :: if conn = .ok then [⟨tab, .pGetStatus iType⟩] else []
  | .move pos ulTimeout _ => [⟨tab, .pMove pos ulTimeout⟩]
  | .scan conf _ _ => [⟨tab, .pScan conf⟩]
  | .readRF cardType _ ulTimeout _ => [⟨tab, .pReadRF cardType true ulTimeout⟩]
  | .coverFlagIs _ poll | .sensorFlagIs _ _ poll => pollCalls C tab poll
  | .waitForCard cover blocked inserted => waitCalls C tab cover blocked inserted
  | .scanAndReadIdCard bScanImage bReadRF _ reply => cardCalls C tab conf bScanImage bReadRF reply
  | .backIdCard _ => [⟨tab, .pMove C.movePosInsert 10000⟩]

theorem op_issues (o : Op) (open_ : s.pstPfnTab = some tab) (talk : o.isTalk = true) :
    (o.run C s).state.issued = s.issued ++ o.calls C tab s.gScanConf := by
  cases o with
  | openDevice _ _ _ _ | closeDevice => cases talk
  | setUserData ptr reply | calibrate reply | reset reply | connect reply
  | move pos ulTimeout reply =>
      simp [Op.run, Op.calls, ofCode, idsCsSetUserData, idsCsCalibrate, idsCsReset, idsCsConnect,
        idsCsMove, forward, open_, Ids.issue]
  | getDevInfo bufs conn devInfo =>
      simp only [Op.run, Op.calls, idsCsGetDevInfo, open_, Ids.issue]
      by_cases connected : conn = .ok
      · simp only [connected, ne_eq, not_true_eq_false, if_false, if_true]
        split
        · split <;> simp
        · simp
      · simp [connected]
  | getStatus iType szStatus conn status =>
      simp only [Op.run, Op.calls, idsCsGetStatus, open_, Ids.issue]
      by_cases connected : conn = .ok
      · simp only [connected, ne_eq, not_true_eq_false, if_false, if_true]
        split <;> simp
      · simp [connected]
  | scan conf bufs reply =>
      simp only [Op.run, Op.calls, idsCsScan, open_, Ids.issue]
      split <;> rfl
  | readRF cardType bufs ulTimeout reply =>
      simp only [Op.run, Op.calls, idsCsReadRF, open_, Ids.issue]
      split <;> rfl
  | coverFlagIs enFlag poll =>
      simp [Op.run, Op.calls, ofFlag, coverFlagIs, open_, getDevStatus_eq C _ poll open_,
        Ids.polled]
  | sensorFlagIs mask enFlag poll =>
      simp [Op.run, Op.calls, ofFlag, sensorFlagIs_state C mask enFlag poll open_, Ids.polled]
  | waitForCard cover blocked inserted =>
      simp [Op.run, Op.calls, ofFlag, waitForCard_eq C cover blocked inserted open_,
        Ids.waited]
  | scanAndReadIdCard bScanImage bReadRF szIDCard reply =>
      simp [Op.run, Op.calls, scanAndReadIdCard_state C bScanImage bReadRF szIDCard reply open_]
  | backIdCard reply => simp [Op.run, Op.calls, ofFlag, backIdCard, open_, Ids.issue]

/-! Queries follow a `pConnect`. -/

def Issued.isQuery (i : Issued) : Prop := i.call = .pGetDevInfo ∨ ∃ type, i.call = .pGetStatus type

def Issued.connects (i j : Issued) : Prop := i = ⟨j.tab, .pConnect⟩

theorem not_isQuery_connect (tab : PfnTab) : ¬ (⟨tab, .pConnect⟩ : Issued).isQuery := by
  simp [Issued.isQuery]

theorem follows_asked (query : TabCall) (reply : IdsRet) :
    Follows Issued.isQuery Issued.connects
      (⟨tab, .pConnect⟩ :: if reply = .ok then [⟨tab, query⟩] else []) := by
  split
  · exact .pair (not_isQuery_connect tab) rfl
  · exact .single (not_isQuery_connect tab)

theorem follows_waitCalls (cover blocked inserted : Poll) :
    Follows Issued.isQuery Issued.connects (waitCalls C tab cover blocked inserted) := by
  have poll (p : Poll) : Follows Issued.isQuery Issued.connects (pollCalls C tab p) :=
    follows_asked _ _
  unfold waitCalls
  apply (poll cover).append
  split
  · exact .nil
  · apply (poll blocked).append
    split
    · exact .nil
    · exact poll inserted

theorem follows_calls (conf : ScanConf) (o : Op) :
    Follows Issued.isQuery Issued.connects (o.calls C tab conf) := by
  cases o with
  | openDevice _ _ _ _ | closeDevice => exact .nil
  | getDevInfo bufs connect devInfo => exact follows_asked _ _
  | getStatus iType szStatus connect status => exact follows_asked _ _
  | coverFlagIs enFlag poll | sensorFlagIs mask enFlag poll => exact follows_asked _ _
  | waitForCard cover blocked inserted => exact follows_waitCalls C cover blocked inserted
  | scanAndReadIdCard bScanImage bReadRF szIDCard reply =>
      apply Follows.of_free
      intro i hi
      simp only [Op.calls, cardCalls, List.mem_append, List.mem_ite_nil_right,
        List.mem_singleton] at hi
      cases hi with
      | inl early =>
          cases early with
          | inl first =>
              cases first with
              | inl read => simp [read.2, Issued.isQuery]
              | inr moved => simp [moved, Issued.isQuery]
          | inr scanned => simp [scanned.2, Issued.isQuery]
      | inr fetched => simp [fetched.2, Issued.isQuery]
  | _ => exact .single (by simp [Issued.isQuery])

/-- What the operations that open and close the driver add is no query. -/
theorem session_adds (c : Call) (s : Ids) (other : ∀ o, c = .op o → o.isTalk = false) :
    ∃ new, (step C s c).issued = s.issued ++ new ∧ ∀ i ∈ new, ¬ i.isQuery := by
  have closing : ∃ new, (closeDevice s).2.issued = s.issued ++ new ∧ ∀ i ∈ new, ¬ i.isQuery := by
    cases open_ : s.pstPfnTab with
    | none => exact ⟨[], by simp [closeDevice, open_]⟩
    | some tab =>
        exact ⟨[⟨tab, .pUninit⟩], by simp [closeDevice, open_, Ids.issue, Issued.isQuery]⟩
  cases c with
  | setScan iDpi iMode iSize iType =>
      refine ⟨[], ?_, by simp⟩
      simp only [step, setScan]
      split_ifs <;> simp
  | op o =>
      cases o using Op.byEffect with
      | talk o talk => exact absurd talk (by simp [other o rfl])
      | closeDevice => exact closing
      | openDevice imgPath fd entry init =>
          obtain ⟨new, closed, free⟩ := closing
          cases entry with
          | none => exact ⟨new, closed, free⟩
          | some tab =>
              refine ⟨new ++ [⟨tab, .pInit imgPath ⟨0x05e3, 0x0102, fd⟩ init⟩], ?_, ?_⟩
              · simp only [step, Op.run, ofFlag, openDevice]
                split <;> simp [Ids.issue, closed]
              · intro i hi
                cases List.mem_append.mp hi with
                | inl old => exact free i old
                | inr last => simp [List.mem_singleton.mp last, Issued.isQuery]

theorem step_follows (c : Call) (s : Ids) :
    ∃ new, (step C s c).issued = s.issued ++ new ∧
      Follows Issued.isQuery Issued.connects new := by
  by_cases other : ∀ o, c = .op o → o.isTalk = false
  · obtain ⟨new, grown, free⟩ := session_adds C c s other
    exact ⟨new, grown, .of_free free⟩
  · simp only [not_forall, Bool.not_eq_false] at other
    obtain ⟨o, rfl, talk⟩ := other
    cases open_ : s.pstPfnTab with
    | some tab => exact ⟨_, op_issues C o open_ talk, follows_calls C s.gScanConf o⟩
    | none =>
        obtain ⟨calls, online, hs, used⟩ := op_talks C o s talk
        refine ⟨calls, by rw [step, hs], .of_free ?_⟩
        intro i hi
        exact absurd (used i hi).1 (by simp [open_])

/-- In every run the driver is asked for its status or its versions only right
after a `pConnect` through the same table. -/
theorem queries_follow_connect (C : Common) {calls : List Call} {s : Ids}
    (run : Run (ofFn (step C)) Ids.init calls s) (pre post : List Issued) (i : Issued)
    (issued : s.issued = pre ++ i :: post) (query : i.isQuery) :
    ∃ before, pre = before ++ [⟨i.tab, .pConnect⟩] := by
  have follows : Follows Issued.isQuery Issued.connects s.issued := by
    apply Follows.run Ids.issued _ .nil run
    rintro s c s' rfl
    exact step_follows C c s
  rw [issued] at follows
  obtain ⟨before, b, rfl, rfl⟩ := follows.at_split query
  exact ⟨before, rfl⟩

def asking : List Call :=
  [.op (.openDevice CStr.empty 5 (some ⟨1⟩) .ok), .op (.getStatus 0 (zeros 5) .ok (.ok, .zero))]

theorem queries_follow_connect_asking :
    ∃ before, (asking.foldl (step latinCommon) Ids.init).issued.take 2 =
      before ++ [⟨⟨1⟩, .pConnect⟩] :=
  queries_follow_connect latinCommon
    ((Run.ofFn_iff _).mpr rfl : Run (ofFn (step latinCommon)) Ids.init asking _) _ []
    ⟨⟨1⟩, .pGetStatus 0⟩ (by decide) (.inr ⟨0, rfl⟩)

/-! The static flag. -/

/-- States that differ in the flag at most. -/
structure Alike (s t : Ids) : Prop where
  pstPfnTab : t.pstPfnTab = s.pstPfnTab
  gScanConf : t.gScanConf = s.gScanConf
  issued : t.issued = s.issued

theorem Alike.refl (s : Ids) : Alike s s := ⟨rfl, rfl, rfl⟩

theorem Alike.issue (alike : Alike s t) (tab : PfnTab) (call : TabCall) :
    Alike (s.issue tab call) (t.issue tab call) :=
  ⟨alike.pstPfnTab, alike.gScanConf, by simp [Ids.issue, alike.issued]⟩

theorem Alike.close (alike : Alike s t) :
    Alike { s with pstPfnTab := none } { t with pstPfnTab := none } :=
  ⟨rfl, alike.gScanConf, alike.issued⟩

theorem Alike.polled (alike : Alike s t) (tab : PfnTab) (poll : Poll) :
    t.polled C tab poll = s.polled C tab poll := by
  simp [Ids.polled, alike.pstPfnTab, alike.gScanConf, alike.issued]

def Outcome.alike (r q : Outcome) : Prop :=
  r.report = q.report ∧ r.buffers = q.buffers ∧ Alike r.state q.state

theorem Outcome.alike_of_eq {r q : Outcome} (same : q = r) : r.alike q :=
  ⟨by rw [same], by rw [same], same ▸ .refl _⟩

theorem forward_alike (call : TabCall) (reply : IdsRet) (alike : Alike s t) :
    (ofCode (forward call reply s)).alike (ofCode (forward call reply t)) := by
  cases open_ : s.pstPfnTab with
  | none =>
      have closed := alike.pstPfnTab.trans open_
      simp only [forward, open_, closed]
      exact ⟨rfl, rfl, alike⟩
  | some tab =>
      have open' := alike.pstPfnTab.trans open_
      simp only [forward, open_, open']
      exact ⟨rfl, rfl, alike.issue tab call⟩

theorem closeDevice_alike (alike : Alike s t) : Alike (closeDevice s).2 (closeDevice t).2 := by
  have same := alike.pstPfnTab
  cases open_ : s.pstPfnTab with
  | none =>
      rw [open_] at same
      simp only [closeDevice, open_, same]
      exact alike
  | some tab =>
      rw [open_] at same
      simp only [closeDevice, open_, same]
      exact (alike.issue tab .pUninit).close

theorem openDevice_alike (imgPath : Text) (fd : Int) (entry : Option PfnTab) (init : IdsRet)
    (alike : Alike s t) :
    (ofFlag (openDevice C imgPath fd entry init s)).alike
      (ofFlag (openDevice C imgPath fd entry init t)) := by
  have closed := closeDevice_alike alike
  cases entry with
  | none => exact ⟨rfl, rfl, rfl, rfl, closed.issued⟩
  | some tab =>
      simp only [openDevice]
      split <;> exact ⟨rfl, rfl, rfl, rfl, by simp [ofFlag, Ids.issue, closed.issued]⟩

theorem scanAndReadIdCard_alike (bScanImage bReadRF : Bool) (szIDCard : Buffer)
    (reply : CardReplies) {tab : PfnTab} (open_ : s.pstPfnTab = some tab)
    (open' : t.pstPfnTab = some tab) :
    (scanAndReadIdCard C bScanImage bReadRF szIDCard reply s).bRet =
        (scanAndReadIdCard C bScanImage bReadRF szIDCard reply t).bRet ∧
      (scanAndReadIdCard C bScanImage bReadRF szIDCard reply s).szIDCard =
        (scanAndReadIdCard C bScanImage bReadRF szIDCard reply t).szIDCard := by
  obtain ⟨readRF1, move, scan, ret, rf⟩ := reply
  simp only [scanAndReadIdCard, open_, open']
  cases bReadRF with
  | false => by_cases h : (decide (move = .ok) && bScanImage) = true <;> simp [h]
  | true =>
      by_cases h : (decide (readRF1 = .ok) && decide (move = .ok) && bScanImage) = true <;>
        cases ret <;> simp [h]

theorem op_alike (o : Op) (alike : Alike s t) : (o.run C s).alike (o.run C t) := by
  have same := alike.pstPfnTab
  cases open_ : s.pstPfnTab with
  | none =>
      rw [open_] at same
      cases o with
      | openDevice imgPath fd entry init => exact openDevice_alike C imgPath fd entry init alike
      | _ =>
          simp only [Op.run, closeDevice, idsCsSetUserData, idsCsCalibrate, idsCsReset,
            idsCsConnect, idsCsMove, forward, idsCsGetDevInfo, idsCsGetStatus, idsCsScan,
            idsCsReadRF, coverFlagIs, sensorFlagIs, waitForCard, scanAndReadIdCard, backIdCard,
            open_, same]
          exact ⟨rfl, rfl, alike⟩
  | some tab =>
      rw [open_] at same
      cases o with
      | openDevice imgPath fd entry init => exact openDevice_alike C imgPath fd entry init alike
      | closeDevice =>
          simp only [Op.run, closeDevice, open_, same]
          exact ⟨rfl, rfl, (alike.issue tab .pUninit).close⟩
      | setUserData ptr reply | calibrate reply | reset reply | connect reply
      | move pos ulTimeout reply => exact forward_alike _ reply alike
      | getDevInfo bufs conn devInfo =>
          simp only [Op.run, idsCsGetDevInfo, open_, same]
          split
          · exact ⟨rfl, rfl, alike.issue tab _⟩
          · split
            · split <;> exact ⟨rfl, rfl, (alike.issue tab _).issue tab _⟩
            · exact ⟨rfl, rfl, (alike.issue tab _).issue tab _⟩
      | getStatus iType szStatus conn status =>
          simp only [Op.run, idsCsGetStatus, open_, same]
          split
          · exact ⟨rfl, rfl, alike.issue tab _⟩
          · split <;> exact ⟨rfl, rfl, (alike.issue tab _).issue tab _⟩
      | scan conf bufs reply =>
          simp only [Op.run, idsCsScan, open_, same]
          split <;> exact ⟨rfl, rfl, alike.issue tab _⟩
      | readRF cardType bufs ulTimeout reply =>
          simp only [Op.run, idsCsReadRF, open_, same]
          split <;> exact ⟨rfl, rfl, alike.issue tab _⟩
      | coverFlagIs enFlag poll =>
          apply Outcome.alike_of_eq
          simp [Op.run, coverFlagIs, open_, same, getDevStatus_eq C _ poll open_,
            getDevStatus_eq C _ poll same, alike.polled]
      | sensorFlagIs mask enFlag poll =>
          apply Outcome.alike_of_eq
          simp [Op.run, sensorFlagIs, open_, same, getDevStatus_eq C _ poll open_,
            getDevStatus_eq C _ poll same, alike.polled]
      | waitForCard cover blocked inserted =>
          apply Outcome.alike_of_eq
          simp [Op.run, waitForCard_eq C _ _ _ open_, waitForCard_eq C _ _ _ same, Ids.waited,
            alike.issued, alike.gScanConf, open_, same]
      | scanAndReadIdCard bScanImage bReadRF szIDCard reply =>
          obtain ⟨bRet, card⟩ :=
            scanAndReadIdCard_alike C bScanImage bReadRF szIDCard reply open_ same
          refine ⟨by simp [Op.run, bRet], by simp [Op.run, card], ?_⟩
          simp only [Op.run, scanAndReadIdCard_state C _ _ _ _ open_,
            scanAndReadIdCard_state C _ _ _ _ same, alike.gScanConf, alike.issued]
          exact ⟨alike.pstPfnTab, rfl, rfl⟩
      | backIdCard reply =>
          simp only [Op.run, backIdCard, open_, same]
          exact ⟨rfl, rfl, alike.issue tab _⟩

theorem step_alike (c : Call) (alike : Alike s t) : Alike (step C s c) (step C t c) := by
  cases c with
  | op o => exact (op_alike C o alike).2.2
  | setScan iDpi iMode iSize iType =>
      simp only [step, setScan]
      split_ifs
      all_goals first
        | exact alike
        | exact ⟨alike.pstPfnTab, by simp [alike.gScanConf], alike.issued⟩

theorem run_alike (calls : List Call) (alike : Alike s t) :
    Alike (calls.foldl (step C) s) (calls.foldl (step C) t) := by
  induction calls generalizing s t with
  | nil => exact alike
  | cons c calls ih => exact ih (step_alike C c alike)

/-- Whatever the static flag was at the start, a run issues the same calls and
every operation after it gives the same report and buffers. -/
theorem online_flag_decides_nothing (C : Common) (s : Ids) (online : Bool) (calls : List Call)
    (o : Op) :
    Alike (calls.foldl (step C) s) (calls.foldl (step C) { s with s_bDevOnLine := online }) ∧
      (o.run C (calls.foldl (step C) s)).alike
        (o.run C (calls.foldl (step C) { s with s_bDevOnLine := online })) := by
  have start : Alike s { s with s_bDevOnLine := online } := ⟨rfl, rfl, rfl⟩
  have alike := run_alike C calls start
  exact ⟨alike, op_alike C o alike⟩

end NdkThreadSample.TestIDS

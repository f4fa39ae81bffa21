import NdkThreadSample.TestIDS.Device
import NdkThreadSample.Library.Custody
import NdkThreadSample.Library.LabelledRun

/-!
Sessions with the driver. The operations of the test program are put together
as one transition function, and the calls it issues through the function table
are read as a custody trace: a successful `pInit` acquires the table, `pUninit`
releases it and every other call uses it. `pstPfnTab` is what the slot holds.
-/

namespace NdkThreadSample.TestIDS
open CText Custody LabelledRun

inductive Op
  | openDevice (imgPath : Text) (fd : Int) (entry : Option PfnTab) (init : IdsRet)
  | closeDevice
  | setUserData (iUserDataPtr : Int) (reply : IdsRet)
  | calibrate (reply : IdsRet)
  | getDevInfo (bufs : VersionBuffers) (connect : IdsRet) (devInfo : IdsRet × DevInfo)
  | reset (reply : IdsRet)
  | connect (reply : IdsRet)
  | getStatus (iType : Int) (szStatus : Buffer) (connect : IdsRet) (status : IdsRet × StatusResult)
  | move (pos : Int) (ulTimeout : Nat) (reply : IdsRet)
  | scan (conf : ScanConf) (bufs : ScanBuffers) (reply : IdsRet × ScanResult)
  | readRF (cardType : Int) (bufs : ReadRFBuffers) (ulTimeout : Nat) (reply : IdsRet × CardInfoRF)
  | coverFlagIs (enFlag : Nat) (poll : Poll)
  | sensorFlagIs (enSensorFlag enFlag : Nat) (poll : Poll)
  | waitForCard (cover blocked inserted : Poll)
  | scanAndReadIdCard (bScanImage bReadRF : Bool) (szIDCard : Buffer) (reply : CardReplies)
  | backIdCard (reply : IdsRet)

inductive Report
  | code (ret : IdsRet)
  | flag (ret : Bool)
  deriving DecidableEq

def Report.failure : Report → Prop
  | .code ret => ret = .err
  | .flag ret => ret = false

inductive OutBuffers
  | none
  | versions (bufs : VersionBuffers)
  | status (szStatus : Buffer)
  | scan (bufs : ScanBuffers)
  | readRF (bufs : ReadRFBuffers)
  | card (szIDCard : Buffer)
  deriving DecidableEq

/-- The output buffers that an operation is given. -/
def Op.buffers : Op → OutBuffers
  | .getDevInfo bufs _ _ => .versions bufs
  | .getStatus _ szStatus _ _ => .status szStatus
  | .scan _ bufs _ => .scan bufs
  | .readRF _ bufs _ _ => .readRF bufs
  | .scanAndReadIdCard _ _ szIDCard _ => .card szIDCard
  | _ => .none

structure Outcome where
  report : Report
  buffers : OutBuffers
  state : Ids
  deriving DecidableEq

def ofCode (r : IdsRet × Ids) : Outcome := ⟨.code r.1, .none, r.2⟩

def ofFlag (r : Bool × Ids) : Outcome := ⟨.flag r.1, .none, r.2⟩

def Op.run (C : Common) (s : Ids) : Op → Outcome
  | .openDevice imgPath fd entry init => ofFlag (TestIDS.openDevice C imgPath fd entry init s)
  | .closeDevice => ofFlag (TestIDS.closeDevice s)
  | .setUserData iUserDataPtr reply => ofCode (idsCsSetUserData iUserDataPtr reply s)
  | .calibrate reply => ofCode (idsCsCalibrate reply s)
  | .getDevInfo bufs conn devInfo =>
      let r := idsCsGetDevInfo bufs conn devInfo s
      ⟨.code r.1, .versions r.2.1, r.2.2⟩
  | .reset reply => ofCode (idsCsReset reply s)
  | .connect reply => ofCode (idsCsConnect reply s)
  | .getStatus iType szStatus conn status =>
      let r := idsCsGetStatus iType szStatus conn status s
      ⟨.code r.1, .status r.2.1, r.2.2⟩
  | .move pos ulTimeout reply => ofCode (idsCsMove pos ulTimeout reply s)
  | .scan conf bufs reply =>
      let r := idsCsScan conf bufs reply s
      ⟨.code r.1, .scan r.2.1, r.2.2⟩
  | .readRF cardType bufs ulTimeout reply =>
      let r := idsCsReadRF C cardType bufs ulTimeout reply s
      ⟨.code r.1, .readRF r.2.1, r.2.2⟩
  | .coverFlagIs enFlag poll => ofFlag (TestIDS.coverFlagIs C enFlag poll s)
  | .sensorFlagIs enSensorFlag enFlag poll =>
      ofFlag (TestIDS.sensorFlagIs C enSensorFlag enFlag poll s)
  | .waitForCard cover blocked inserted => ofFlag (TestIDS.waitForCard C cover blocked inserted s)
  | .scanAndReadIdCard bScanImage bReadRF szIDCard reply =>
      let r := TestIDS.scanAndReadIdCard C bScanImage bReadRF szIDCard reply s
      ⟨.flag r.bRet, .card r.szIDCard, r.state⟩
  | .backIdCard reply => ofFlag (TestIDS.backIdCard C reply s)

/-- The operations together with `SetScan`, which does not touch the driver. -/
inductive Call
  | op (o : Op)
  | setScan (iDpi iMode iSize iType : Int)

def step (C : Common) (s : Ids) : Call → Ids
  | .op o => (o.run C s).state
  | .setScan iDpi iMode iSize iType => (setScan iDpi iMode iSize iType s).2

/-! The issued calls as a custody trace. -/

def Issued.act (i : Issued) : Act PfnTab :=
  match i.call with
  | .pInit _ _ ret => if ret = .ok then .acquire i.tab else .attempt
  | .pUninit => .release i.tab
  | _ => .use i.tab

/-- `s'` comes from `s` by calls that use the open table; besides the trace
they may change the online flag and nothing else. -/
def Talks (s s' : Ids) : Prop :=
  ∃ calls online, s' = { s with issued := s.issued ++ calls, s_bDevOnLine := online } ∧
    ∀ i ∈ calls, s.pstPfnTab = some i.tab ∧ i.act = .use i.tab

theorem Talks.refl (s : Ids) : Talks s s := ⟨[], s.s_bDevOnLine, by simp, by simp⟩

theorem Talks.trans {s s' s'' : Ids} (h : Talks s s') (k : Talks s' s'') : Talks s s'' := by
  obtain ⟨calls, online, rfl, hc⟩ := h
  obtain ⟨more, online', rfl, km⟩ := k
  refine ⟨calls ++ more, online', by simp, ?_⟩
  intro i hi
  rcases List.mem_append.mp hi with hi | hi
  · exact hc i hi
  · exact km i hi

theorem Talks.gScanConf {s s' : Ids} (h : Talks s s') :
    s'.gScanConf = s.gScanConf ∧ s'.pstPfnTab = s.pstPfnTab := by
  obtain ⟨calls, online, rfl, _⟩ := h
  exact ⟨rfl, rfl⟩

theorem talks_issue {s : Ids} {tab : PfnTab} {call : TabCall} (open_ : s.pstPfnTab = some tab)
    (used : (⟨tab, call⟩ : Issued).act = .use tab) : Talks s (s.issue tab call) :=
  ⟨[⟨tab, call⟩], s.s_bDevOnLine, rfl, by simp [open_, used]⟩

theorem talks_online (s : Ids) (online : Bool) : Talks s { s with s_bDevOnLine := online } :=
  ⟨[], online, by simp, by simp⟩

theorem forward_talks (call : TabCall) (reply : IdsRet) (s : Ids)
    (used : ∀ tab, (⟨tab, call⟩ : Issued).act = .use tab) :
    Talks s (forward call reply s).2 := by
  cases open_ : s.pstPfnTab with
  | none => simpa [forward, open_] using Talks.refl s
  | some tab => simpa [forward, open_] using talks_issue open_ (used tab)

theorem getDevInfo_talks (bufs : VersionBuffers) (connect : IdsRet)
    (devInfo : IdsRet × DevInfo) (s : Ids) :
    Talks s (idsCsGetDevInfo bufs connect devInfo s).2.2 := by
  cases open_ : s.pstPfnTab with
  | none => simpa [idsCsGetDevInfo, open_] using Talks.refl s
  | some tab =>
      have h0 : Talks s (s.issue tab .pConnect) := talks_issue open_ rfl
      have h1 : Talks s ((s.issue tab .pConnect).issue tab .pGetDevInfo) :=
        h0.trans (talks_issue open_ rfl)
      simp only [idsCsGetDevInfo, open_]
      split
      · exact h0
      · split
        · split <;> exact h1
        · exact h1

theorem getStatus_talks (iType : Int) (szStatus : Buffer) (connect : IdsRet)
    (status : IdsRet × StatusResult) (s : Ids) :
    Talks s (idsCsGetStatus iType szStatus connect status s).2.2 := by
  cases open_ : s.pstPfnTab with
  | none => simpa [idsCsGetStatus, open_] using Talks.refl s
  | some tab =>
      have h0 : Talks s (s.issue tab .pConnect) := talks_issue open_ rfl
      have h1 : Talks s ((s.issue tab .pConnect).issue tab (.pGetStatus iType)) :=
        h0.trans (talks_issue open_ rfl)
      simp only [idsCsGetStatus, open_]
      split
      · exact h0
      · split <;> exact h1

theorem scan_talks (conf : ScanConf) (bufs : ScanBuffers) (reply : IdsRet × ScanResult)
    (s : Ids) : Talks s (idsCsScan conf bufs reply s).2.2 := by
  cases open_ : s.pstPfnTab with
  | none => simpa [idsCsScan, open_] using Talks.refl s
  | some tab =>
      simp only [idsCsScan, open_]
      split <;> exact talks_issue open_ rfl

theorem readRF_talks (C : Common) (cardType : Int) (bufs : ReadRFBuffers) (ulTimeout : Nat)
    (reply : IdsRet × CardInfoRF) (s : Ids) :
    Talks s (idsCsReadRF C cardType bufs ulTimeout reply s).2.2 := by
  cases open_ : s.pstPfnTab with
  | none => simpa [idsCsReadRF, open_] using Talks.refl s
  | some tab =>
      simp only [idsCsReadRF, open_]
      split <;> exact talks_issue open_ rfl

theorem getDevStatus_talks (C : Common) (stResult : StatusResult) (poll : Poll) (s : Ids) :
    Talks s (getDevStatus C stResult poll s).2.2 := by
  cases open_ : s.pstPfnTab with
  | none => simpa [getDevStatus, open_] using Talks.refl s
  | some tab =>
      -- `pConnect` sets the flag, and `pGetStatus` is called when it is set
      have connected (online : Bool) :
          Talks s { s.issue tab .pConnect with s_bDevOnLine := online } :=
        (talks_issue open_ rfl).trans (talks_online _ online)
      have asked : Talks s
          (({ s.issue tab .pConnect with s_bDevOnLine := true } : Ids).issue tab
            (.pGetStatus C.statusTypeDs)) :=
        (connected true).trans (talks_issue open_ rfl)
      simp only [getDevStatus, open_]
      by_cases hc : poll.connect = .ok
      · by_cases ho : s.s_bDevOnLine = false <;> simpa [hc, ho, Ids.issue] using asked
      · simpa [hc] using connected false

theorem coverFlagIs_talks (C : Common) (enFlag : Nat) (poll : Poll) (s : Ids) :
    Talks s (coverFlagIs C enFlag poll s).2 := by
  cases open_ : s.pstPfnTab with
  | none => simpa [coverFlagIs, open_] using Talks.refl s
  | some tab => simpa [coverFlagIs, open_] using getDevStatus_talks C .zero poll s

theorem sensorFlagIs_talks (C : Common) (enSensorFlag enFlag : Nat) (poll : Poll) (s : Ids) :
    Talks s (sensorFlagIs C enSensorFlag enFlag poll s).2 := by
  cases open_ : s.pstPfnTab with
  | none => simpa [sensorFlagIs, open_] using Talks.refl s
  | some tab => simpa [sensorFlagIs, open_] using getDevStatus_talks C .zero poll s

theorem waitForCard_talks (C : Common) (cover blocked inserted : Poll) (s : Ids) :
    Talks s (waitForCard C cover blocked inserted s).2 := by
  cases open_ : s.pstPfnTab with
  | none => simpa [waitForCard, open_] using Talks.refl s
  | some tab =>
      have hc := coverFlagIs_talks C C.statusDsFlagLow cover s
      have hb := sensorFlagIs_talks C
        (C.sensors.sensor2 ||| C.sensors.sensor3 ||| C.sensors.sensor4) C.statusDsFlagLow blocked
        (coverFlagIs C C.statusDsFlagLow cover s).2
      simp only [waitForCard, open_]
      split
      · exact hc
      · split
        · exact hc.trans hb
        · exact (hc.trans hb).trans (sensorFlagIs_talks C _ _ inserted _)

/-- The calls of one `ScanAndReadIdCard`, in order. -/
def cardCalls (C : Common) (tab : PfnTab) (conf : ScanConf) (bScanImage bReadRF : Bool)
    (reply : CardReplies) : List Issued :=
  (if bReadRF then [⟨tab, .pReadRF C.cardTypeIdCn false 0⟩] else []) ++
  [⟨tab, .pMove C.movePosScan 10000⟩] ++
  (if (!bReadRF || reply.readRF1 = .ok) && reply.move = .ok && bScanImage then
    [⟨tab, .pScan conf⟩] else []) ++
  (if bReadRF then [⟨tab, .pReadRF C.cardTypeIdCn true 0⟩] else [])

theorem scanAndReadIdCard_state (C : Common) (bScanImage bReadRF : Bool) (szIDCard : Buffer)
    (reply : CardReplies) {s : Ids} {tab : PfnTab} (open_ : s.pstPfnTab = some tab) :
    (scanAndReadIdCard C bScanImage bReadRF szIDCard reply s).state =
      { s with issued :=
          s.issued ++ cardCalls C tab s.gScanConf bScanImage bReadRF reply } := by
  obtain ⟨readRF1, move, scan, ret, rf⟩ := reply
  simp only [scanAndReadIdCard, open_, cardCalls, Ids.issue]
  cases bReadRF with
  | false => by_cases h : (decide (move = .ok) && bScanImage) = true <;> simp [h, open_]
  | true =>
      by_cases h : (decide (readRF1 = .ok) && decide (move = .ok) && bScanImage) = true <;>
        cases ret <;> simp [h]

theorem scanAndReadIdCard_talks (C : Common) (bScanImage bReadRF : Bool) (szIDCard : Buffer)
    (reply : CardReplies) (s : Ids) :
    Talks s (scanAndReadIdCard C bScanImage bReadRF szIDCard reply s).state := by
  cases open_ : s.pstPfnTab with
  | none => simpa [scanAndReadIdCard, open_] using Talks.refl s
  | some tab =>
      refine ⟨_, s.s_bDevOnLine, scanAndReadIdCard_state C bScanImage bReadRF szIDCard reply open_,
        ?_⟩
      intro i hi
      simp only [cardCalls, List.mem_append, List.mem_ite_nil_right, List.mem_singleton] at hi
      rcases hi with ((⟨_, rfl⟩ | rfl) | ⟨_, rfl⟩) | ⟨_, rfl⟩ <;> exact ⟨open_, rfl⟩

theorem backIdCard_talks (C : Common) (move : IdsRet) (s : Ids) :
    Talks s (backIdCard C move s).2 := by
  cases open_ : s.pstPfnTab with
  | none => simpa [backIdCard, open_] using Talks.refl s
  | some tab => simpa [backIdCard, open_] using talks_issue open_ rfl

/-- The operations that neither open nor close the driver. -/
def Op.isTalk : Op → Bool
  | .openDevice _ _ _ _ | .closeDevice => false
  | _ => true

theorem op_talks (C : Common) (o : Op) (s : Ids) (talk : o.isTalk = true) :
    Talks s (o.run C s).state := by
  cases o with
  | openDevice _ _ _ _ | closeDevice => cases talk
  | setUserData ptr reply => exact forward_talks _ reply s (fun _ => rfl)
  | calibrate reply => exact forward_talks _ reply s (fun _ => rfl)
  | getDevInfo bufs conn devInfo => exact getDevInfo_talks bufs conn devInfo s
  | reset reply => exact forward_talks _ reply s (fun _ => rfl)
  | connect reply => exact forward_talks _ reply s (fun _ => rfl)
  | getStatus iType szStatus conn status => exact getStatus_talks iType szStatus conn status s
  | move pos ulTimeout reply => exact forward_talks _ reply s (fun _ => rfl)
  | scan conf bufs reply => exact scan_talks conf bufs reply s
  | readRF cardType bufs ulTimeout reply => exact readRF_talks C cardType bufs ulTimeout reply s
  | coverFlagIs enFlag poll => exact coverFlagIs_talks C enFlag poll s
  | sensorFlagIs mask enFlag poll => exact sensorFlagIs_talks C mask enFlag poll s
  | waitForCard cover blocked inserted => exact waitForCard_talks C cover blocked inserted s
  | scanAndReadIdCard bScanImage bReadRF szIDCard reply =>
      exact scanAndReadIdCard_talks C bScanImage bReadRF szIDCard reply s
  | backIdCard reply => exact backIdCard_talks C reply s

/-- The operations by what they can do to the session. -/
theorem Op.byEffect {motive : Op → Prop}
    (openDevice : ∀ imgPath fd entry init, motive (.openDevice imgPath fd entry init))
    (closeDevice : motive .closeDevice) (talk : ∀ o, o.isTalk = true → motive o) (o : Op) :
    motive o := by
  cases o with
  | openDevice imgPath fd entry init => exact openDevice imgPath fd entry init
  | closeDevice => exact closeDevice
  | _ => exact talk _ rfl

/-! Custody of the function table. -/

/-- `s'` comes from `s` by issuing calls that are legal for the table it holds. -/
def Extends (s s' : Ids) : Prop :=
  ∃ new, s'.issued = s.issued ++ new ∧
    Legal s.pstPfnTab (new.map Issued.act) s'.pstPfnTab

theorem Extends.trans {s s' s'' : Ids} (h : Extends s s') (k : Extends s' s'') :
    Extends s s'' := by
  obtain ⟨new, hi, hl⟩ := h
  obtain ⟨more, ki, kl⟩ := k
  refine ⟨new ++ more, by rw [ki, hi, List.append_assoc], ?_⟩
  rw [List.map_append]
  exact hl.append kl

theorem Extends.of_same {s s' : Ids} (hi : s'.issued = s.issued)
    (ht : s'.pstPfnTab = s.pstPfnTab) : Extends s s' :=
  ⟨[], by simp [hi], by rw [ht]; exact .nil _⟩

theorem Talks.extends {s s' : Ids} (h : Talks s s') : Extends s s' := by
  obtain ⟨calls, online, rfl, hc⟩ := h
  refine ⟨calls, rfl, ?_⟩
  cases open_ : s.pstPfnTab with
  | none =>
      -- no call can have been made
      cases calls with
      | nil => exact .nil none
      | cons i calls =>
          have := (hc i List.mem_cons_self).1
          rw [open_] at this
          cases this
  | some tab =>
      refine Legal.of_uses ?_
      intro a ha
      obtain ⟨i, hi, rfl⟩ := List.mem_map.mp ha
      obtain ⟨htab, hact⟩ := hc i hi
      rw [open_] at htab
      cases htab
      exact hact

theorem closeDevice_extends (s : Ids) : Extends s (closeDevice s).2 := by
  cases open_ : s.pstPfnTab with
  | none => simpa [closeDevice, open_] using Extends.of_same (s := s) rfl rfl
  | some tab =>
      refine ⟨[⟨tab, .pUninit⟩], by simp [closeDevice, open_, Ids.issue], ?_⟩
      simpa [closeDevice, open_, Issued.act] using Legal.cons (.release tab) (.nil none)

@[simp] theorem closeDevice_closes (s : Ids) : (closeDevice s).2.pstPfnTab = none := by
  cases open_ : s.pstPfnTab <;> simp [closeDevice, open_]

/-- `OpenDevice` closes first, so the slot is empty when it tries to acquire. -/
theorem openDevice_extends (C : Common) (imgPath : Text) (fd : Int) (entry : Option PfnTab)
    (init : IdsRet) (s : Ids) : Extends s (openDevice C imgPath fd entry init s).2 := by
  refine (closeDevice_extends s).trans ?_
  cases entry with
  | none => exact .of_same rfl (closeDevice_closes s).symm
  | some tab =>
      refine ⟨[⟨tab, .pInit imgPath ⟨0x05e3, 0x0102, fd⟩ init⟩], ?_, ?_⟩
      · simp only [openDevice]
        split <;> rfl
      · by_cases h : init = .ok
        · simpa [openDevice, h, Issued.act, Ids.issue] using Legal.cons (.acquire tab) (.nil _)
        · simpa [openDevice, h, Issued.act, Ids.issue] using Legal.cons .attempt (.nil _)

theorem setScan_extends (iDpi iMode iSize iType : Int) (s : Ids) :
    Extends s (setScan iDpi iMode iSize iType s).2 := by
  simp only [setScan]
  split
  · exact .of_same rfl rfl
  split
  · exact .of_same rfl rfl
  split
  · exact .of_same rfl rfl
  split <;> exact .of_same rfl rfl

theorem step_extends (C : Common) (s : Ids) (c : Call) : Extends s (step C s c) := by
  cases c with
  | setScan iDpi iMode iSize iType => exact setScan_extends iDpi iMode iSize iType s
  | op o =>
      cases o using Op.byEffect with
      | openDevice imgPath fd entry init => exact openDevice_extends C imgPath fd entry init s
      | closeDevice => exact closeDevice_extends s
      | talk o talk => exact (op_talks C o s talk).extends

/-- Over any run the issued calls are a legal custody trace whose slot is `pstPfnTab`. -/
theorem run_custody (C : Common) {calls : List Call} {s : Ids}
    (run : Run (ofFn (step C)) Ids.init calls s) :
    Legal none (s.issued.map Issued.act) s.pstPfnTab := by
  refine run.invariant (I := fun s => Legal none (s.issued.map Issued.act) s.pstPfnTab) ?_ (.nil none)
  rintro s c s' legal rfl
  obtain ⟨new, hi, hl⟩ := step_extends C s c
  rw [hi, List.map_append]
  exact legal.append hl

end NdkThreadSample.TestIDS

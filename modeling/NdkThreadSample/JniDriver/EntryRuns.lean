import NdkThreadSample.JniDriver.ReadRF
import NdkThreadSample.TestIDS.Polls
import NdkThreadSample.TestIDS.SessionProtocol

/-!
Runs of the Java entries. An entry is one or two operations of the test
program, of which one hands the VM to the driver: `init` does so after it has
opened the driver, the others before they do anything else. `testIDS` is not
among them; it does not return once the driver is open, and never hands over
the VM.
-/

namespace NdkThreadSample.JniDriver
open CText ManagedArray TestIDS LabelledRun Custody Preceded

inductive Entry
  | init (env : Int) (imgPath : JavaArray JChar) (fd : Int) (entry : Option PfnTab)
      (reply : IdsRet)
  | uninit
  | calibrate (reply : IdsRet)
  | getDevInfo (szDrvVer szFWVer szHWVer : JavaArray JChar) (connect : IdsRet)
      (devInfo : IdsRet × DevInfo)
  | reset (reply : IdsRet)
  | connect (reply : IdsRet)
  | getStatus (iType : Int) (szStatus : JavaArray JChar) (connect : IdsRet)
      (status : IdsRet × StatusResult)
  | move (iPos : Int) (iTimeOut : Nat) (reply : IdsRet)
  | scan (conf : ScanConf) (cFileNameFront cFileNameBack : JavaArray JChar)
      (penCardDir : JavaArray Int) (reply : IdsRet × ScanResult)
  | readRF (cardType : Int) (pucType : JavaArray JChar) (arrays : CardField → JavaArray JChar)
      (ulTimeout : Nat) (reply : IdsRet × CardInfoRF)
  | waitForCard (cover blocked inserted : Poll)
  | scanAndReadIdCard (bScanImage bReadRF : Int) (szIDCard : JavaArray JChar)
      (pucData : Fresh (3000 * 1000 * 2 * 3)) (reply : CardReplies)
  | backIdCard (reply : IdsRet)
  | setScan (iDpi iMode iSize iType : Int)

/-- A call of an entry with what `pSetUserData` answers in it. -/
structure Invocation where
  entry : Entry
  userData : IdsRet

section
variable (H : Header) (javaVM : Int)

def Invocation.run (s : Ids) (e : Invocation) : Ids :=
  match e.entry with
  | .init env imgPath fd entry reply =>
      (init H javaVM e.userData env imgPath fd entry reply s).state
  | .uninit => (uninit javaVM e.userData s).2
  | .calibrate reply => (calibrate H javaVM e.userData reply s).2
  | .getDevInfo szDrvVer szFWVer szHWVer conn devInfo =>
      (getDevInfo H javaVM e.userData szDrvVer szFWVer szHWVer conn devInfo s).state
  | .reset reply => (reset H javaVM e.userData reply s).2
  | .connect reply => (connect H javaVM e.userData reply s).2
  | .getStatus iType szStatus conn status =>
      (getStatus H javaVM e.userData iType szStatus conn status s).state
  | .move iPos iTimeOut reply => (move H javaVM e.userData iPos iTimeOut reply s).2
  | .scan conf cFileNameFront cFileNameBack penCardDir reply =>
      (scan H javaVM e.userData conf cFileNameFront cFileNameBack penCardDir reply s).state
  | .readRF cardType pucType arrays ulTimeout reply =>
      (readRF H javaVM e.userData cardType pucType arrays ulTimeout reply s).state
  | .waitForCard cover blocked inserted =>
      (waitForCard H javaVM e.userData cover blocked inserted s).2
  | .scanAndReadIdCard bScanImage bReadRF szIDCard pucData reply =>
      (scanAndReadIdCard H javaVM e.userData bScanImage bReadRF szIDCard pucData reply s).state
  | .backIdCard reply => (backIdCard H javaVM e.userData reply s).2
  | .setScan iDpi iMode iSize iType =>
      (setScan javaVM e.userData iDpi iMode iSize iType s).2

/-- The operation of an entry besides `IDS_CS_SetUserData`, with the buffers that
the entry passes on; `init` passes its environment as the descriptor. -/
def Entry.does : Entry → Call
  | .init env imgPath _ entry reply =>
      .op (.openDevice
        (cstr (jni2cString imgPath.elements imgPath.content.length (zeros 256))) env entry reply)
  | .uninit => .op .closeDevice
  | .calibrate reply => .op (.calibrate reply)
  | .getDevInfo _ _ _ conn devInfo =>
      .op (.getDevInfo ⟨some (zeros 256), some (zeros 256), some (zeros 256)⟩ conn devInfo)
  | .reset reply => .op (.reset reply)
  | .connect reply => .op (.connect reply)
  | .getStatus iType _ conn status => .op (.getStatus iType (zeros 256) conn status)
  | .move iPos iTimeOut reply => .op (.move iPos iTimeOut reply)
  | .scan conf _ _ penCardDir reply =>
      .op (.scan conf ⟨zeros 256, zeros 256, (release penCardDir.elements).headD 0⟩ reply)
  | .readRF cardType pucType arrays ulTimeout reply =>
      .op (.readRF cardType
        ⟨(chars pucType.elements).headD 0, ofFields fun f => chars (arrays f).elements⟩ ulTimeout
        reply)
  | .waitForCard cover blocked inserted => .op (.waitForCard cover blocked inserted)
  | .scanAndReadIdCard bScanImage bReadRF _ pucData reply =>
      .op (.scanAndReadIdCard (bScanImage ≠ 0) (bReadRF ≠ 0) pucData.bytes reply)
  | .backIdCard reply => .op (.backIdCard reply)
  | .setScan iDpi iMode iSize iType => .setScan iDpi iMode iSize iType

def Entry.isInit : Entry → Bool
  | .init _ _ _ _ _ => true
  | _ => false

def Invocation.does (e : Invocation) : List Call :=
  let handOver : Call := .op (.setUserData javaVM e.userData)
  if e.entry.isInit then [e.entry.does, handOver] else [handOver, e.entry.does]

theorem invocation_does (e : Invocation) (s : Ids) :
    e.run H javaVM s = (e.does javaVM).foldl (step H.toCommon) s := by
  obtain ⟨entry, userData⟩ := e
  cases entry <;> rfl

/-- A run of entries is a run of the operations that they do. -/
theorem entries_are_operations {es : List Invocation} {s t : Ids}
    (run : Run (ofFn (Invocation.run H javaVM)) s es t) :
    Run (ofFn (step H.toCommon)) s (es.flatMap (Invocation.does javaVM)) t := by
  induction run with
  | nil s => exact .nil s
  | cons hs _ ih =>
      have first : Run (ofFn (step H.toCommon)) _ (Invocation.does javaVM _) _ :=
        (Run.ofFn_iff _).mpr (hs.trans (invocation_does H javaVM _ _))
      exact first.append ih

end

/-! Handing over the VM. -/

section
variable (javaVM : Int)

def handsOver (i : Issued) : Prop := i.call = .pSetUserData javaVM

def bounds (i : Issued) : Prop := i.isInit = true ∨ i.isUninit = true

/-- The calls that the driver may answer through the VM. -/
def wantsVM (i : Issued) : Prop := i.isInit = false ∧ ∀ data, i.call ≠ .pSetUserData data

def VmFirst (t : List Issued) : Prop := Granted wantsVM (handsOver javaVM) bounds t

/-- Between the entries the VM is known whenever the driver is open. -/
def Told (s : Ids) : Prop :=
  VmFirst javaVM s.issued ∧ (s.pstPfnTab ≠ none → Since (handsOver javaVM) bounds s.issued)

variable {javaVM} {s : Ids} (C : Common)

theorem told_setUserData (userData : IdsRet) (first : VmFirst javaVM s.issued) :
    Told javaVM (step C s (.op (.setUserData javaVM userData))) := by
  cases open_ : s.pstPfnTab with
  | none =>
      have same : step C s (.op (.setUserData javaVM userData)) = s := by
        simp [step, Op.run, ofCode, idsCsSetUserData, forward, open_]
      rw [same]
      exact ⟨first, by simp [open_]⟩
  | some tab =>
      have issued : (step C s (.op (.setUserData javaVM userData))).issued =
          s.issued ++ [⟨tab, .pSetUserData javaVM⟩] := op_issues C _ open_ rfl
      rw [Told, issued]
      refine ⟨first.snoc ?_, fun _ => .snoc rfl⟩
      intro want
      exact absurd rfl (want.2 javaVM)

theorem told_talk (o : Op) (talk : o.isTalk = true) (told : Told javaVM s) :
    Told javaVM (step C s (.op o)) := by
  obtain ⟨calls, online, hs, used⟩ := op_talks C o s talk
  have quiet : ∀ i ∈ calls, ¬ bounds i := by
    intro i hi
    obtain ⟨init, uninit⟩ := kind_of_act_use (used i hi).2
    simp [bounds, init, uninit]
  simp only [step, hs]
  cases open_ : s.pstPfnTab with
  | none =>
      have empty : calls = [] := by
        apply List.eq_nil_iff_forall_not_mem.mpr
        intro i hi
        exact absurd (used i hi).1 (by simp [open_])
      exact ⟨by simpa [empty] using told.1, by simp⟩
  | some tab =>
      have since := told.2 (by simp [open_])
      exact ⟨told.1.append since quiet, fun _ => since.append quiet⟩

theorem told_close (told : Told javaVM s) : Told javaVM (closeDevice s).2 := by
  cases open_ : s.pstPfnTab with
  | none => simpa [closeDevice, open_] using told
  | some tab =>
      have since := told.2 (by simp [open_])
      have issued : (closeDevice s).2.issued = s.issued ++ [⟨tab, .pUninit⟩] := by
        simp [closeDevice, open_, Ids.issue]
      refine ⟨?_, by simp⟩
      rw [issued]
      exact Granted.snoc told.1 fun _ => since

theorem first_openDevice (imgPath : Text) (fd : Int) (entry : Option PfnTab) (init : IdsRet)
    (told : Told javaVM s) : VmFirst javaVM (openDevice C imgPath fd entry init s).2.issued := by
  have closed := told_close told
  cases entry with
  | none => exact closed.1
  | some tab =>
      have issued : (openDevice C imgPath fd (some tab) init s).2.issued =
          (closeDevice s).2.issued ++ [⟨tab, .pInit imgPath ⟨0x05e3, 0x0102, fd⟩ init⟩] := by
        simp only [openDevice]
        split <;> rfl
      rw [issued]
      apply closed.1.snoc
      intro want
      exact absurd want.1 (by simp [Issued.isInit])

theorem told_setScan (iDpi iMode iSize iType : Int) (told : Told javaVM s) :
    Told javaVM (step C s (.setScan iDpi iMode iSize iType)) := by
  simp only [step, TestIDS.setScan]
  split_ifs <;> exact told

/-- The operation of an entry that has handed over the VM. -/
theorem told_does (e : Entry) (later : e.isInit = false) (told : Told javaVM s) :
    Told javaVM (step C s e.does) := by
  cases e with
  | init _ _ _ _ _ => cases later
  | uninit => exact told_close told
  | setScan iDpi iMode iSize iType => exact told_setScan C iDpi iMode iSize iType told
  | _ => exact told_talk C _ rfl told

theorem told_invocation (H : Header) (e : Invocation) (told : Told javaVM s) :
    Told javaVM (e.run H javaVM s) := by
  rw [invocation_does, Invocation.does]
  cases later : e.entry.isInit with
  | false =>
      simp only [Bool.false_eq_true, if_false]
      exact told_does H.toCommon e.entry later (told_setUserData H.toCommon e.userData told.1)
  | true =>
      obtain ⟨entry, userData⟩ := e
      cases entry with
      | init env imgPath fd entry reply =>
          exact told_setUserData H.toCommon userData
            (first_openDevice H.toCommon _ env entry reply told)
      | _ => cases later

end

/-- In every run of the entries the driver is called within alternating
sessions only, and in each session it is handed the VM before any other call. -/
theorem entries_hand_over_vm (H : Header) (javaVM : Int) {es : List Invocation} {s : Ids}
    (run : Run (ofFn (Invocation.run H javaVM)) Ids.init es s) :
    (s.pstPfnTab ≠ none ↔ SessionOpen s.issued) ∧ InitOnlyWhenClosed s.issued ∧
      UninitOnce s.issued ∧ OthersInsideSession s.issued ∧
      ∀ pre i post, s.issued = pre ++ i :: post → i.isInit = false →
        (∀ data, i.call ≠ .pSetUserData data) →
        ∃ front tab mid, pre = front ++ ⟨tab, .pSetUserData javaVM⟩ :: mid ∧
          ∀ j ∈ mid, j.isInit = false ∧ j.isUninit = false := by
  have legal := run_custody H.toCommon (entries_are_operations H javaVM run)
  have start : Told javaVM Ids.init := ⟨Granted.nil, by simp [Ids.init]⟩
  have told : Told javaVM s := by
    apply run.invariant _ start
    rintro s e s' told rfl
    exact told_invocation H e told
  refine ⟨(sessionOpen_iff legal).symm, legal_initOnlyWhenClosed legal, legal_uninitOnce legal,
    legal_othersInsideSession legal, ?_⟩
  intro pre i post issued other notData
  obtain ⟨front, ⟨tab, call⟩, mid, rfl, handed, quiet⟩ := told.1 pre i post issued ⟨other, notData⟩
  cases handed
  refine ⟨front, tab, mid, rfl, ?_⟩
  intro j hj
  simpa [bounds] using quiet j hj

/-- The driver is opened and asked whether it is there. -/
def openAndConnect : List Invocation :=
  [⟨.init 5 ⟨[47], true⟩ 0 (some ⟨1⟩) .ok, .ok⟩, ⟨.connect .ok, .ok⟩]

theorem entries_hand_over_vm_connect :
    ∃ front tab mid,
      (openAndConnect.foldl (Invocation.run sampleHeader 9) Ids.init).issued.take 3 =
          front ++ ⟨tab, .pSetUserData 9⟩ :: mid ∧
        ∀ j ∈ mid, j.isInit = false ∧ j.isUninit = false :=
  (entries_hand_over_vm sampleHeader 9
    ((Run.ofFn_iff _).mpr rfl :
      Run (ofFn (Invocation.run sampleHeader 9)) Ids.init openAndConnect _)).2.2.2.2
    _ ⟨⟨1⟩, .pConnect⟩ [] (by decide) rfl (by simp)

end NdkThreadSample.JniDriver

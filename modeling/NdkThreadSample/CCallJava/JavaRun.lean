import NdkThreadSample.CCallJava.Lifetime
import NdkThreadSample.CCallJava.Transparent
import NdkThreadSample.Library.Refinement
import NdkThreadSample.UsbDriver.Connection

/-!
The Java side of a whole run of the bridge. Batches of bridge calls come from
any threads, and broadcasts reach `UsbDriver` between them. Seen from Java the
run is a run of `UsbDriver` alone, in which a bridge call that finds all six
methods is one event and everything else is none.
-/

namespace NdkThreadSample.CCallJava
open LabelledRun UsbDriver ManagedArray

/-- What happens to the process, one after the other. -/
inductive Happening
  | batch (b : Batch)
  | receive (b : Broadcast) (opened : Option Int)

def Happening.apply (vm : Vm) (s : Bridge) : Happening → Bridge
  | .batch b => b.run vm s
  | .receive b opened => { s with java := UsbDriver.step s.java (.receive b opened) }

/-- Until the process exits, a batch whose call comes directly after a
`SetJniEnv` that finds the class, or a broadcast that Android delivers. -/
def Possible (s : Bridge) : Happening → Prop
  | .batch b => s.java.exited = false ∧ b.fits
  | .receive b opened => Enabled s.java (.receive b opened)

abbrev happens (vm : Vm) : Bridge → Happening → Bridge → Prop :=
  guarded Possible (Happening.apply vm)

/-- The event that a bridge call is for `UsbDriver`. A receive call has the bits
of a reference for its length. -/
inductive Makes : JniCall → UsbDriver.Event → Prop
  | openDevice (iVid iPid : Int) (env : OpenEnv) :
      Makes (.openDevice iVid iPid env) (.openDevice iVid iPid env)
  | closeDevice : Makes .closeDevice .closeDevice
  | sendData {pucData seen : List UInt8} {n : Int} (piWritten iTimeOut transferred : Int)
      (length : seen.length = (n + 1).toNat)
      (sees : 0 ≤ n → n.toNat ≤ pucData.length → Sees n pucData seen) :
      Makes (.bulkSendData pucData n piWritten iTimeOut transferred)
        (.sendData seen n [0, 0] iTimeOut transferred)
  | recvData (pucData : List UInt8) (n piRecved iTimeOut iDataLen : Int)
      (reply : Nat → TransferReply) :
      Makes (.bulkRecvData pucData n piRecved iTimeOut reply)
        (.recvData (List.replicate n.toNat 0) iDataLen [0, 0] iTimeOut reply)
  | sendControl {pucData seen : List UInt8} {n : Int} (iOffset iIndex iTimeOut transferred : Int)
      (length : seen.length = (n + 1).toNat)
      (sees : 0 ≤ n → n.toNat ≤ pucData.length → Sees n pucData seen) :
      Makes (.controlSend pucData n iOffset iIndex iTimeOut transferred)
        (.sendControl seen n iOffset iIndex iTimeOut transferred)
  | recvControl (pucData : List UInt8) (n iOffset iIndex iTimeOut : Int) (reply : TransferReply) :
      Makes (.controlRecv pucData n iOffset iIndex iTimeOut reply)
        (.recvControl (List.replicate (n + 1).toNat 0) n iOffset iIndex iTimeOut reply)

inductive SeenAs : Happening → List UsbDriver.Event → Prop
  | receive (b : Broadcast) (opened : Option Int) :
      SeenAs (.receive b opened) [.receive b opened]
  | idle {b : Batch} (none_ : b.calls = []) : SeenAs (.batch b) []
  | missing {b : Batch} {found : Method → Bool} {call : JniCall} {method : Method}
      (only : b.calls = [(found, call)]) (lacks : found method = false) : SeenAs (.batch b) []
  | called {b : Batch} {found : Method → Bool} {call : JniCall} {e : UsbDriver.Event}
      (only : b.calls = [(found, call)]) (all : ∀ method, found method = true)
      (makes : Makes call e) : SeenAs (.batch b) [e]

section
variable {t : Thread} {found : Method → Bool} {s ready : Bridge}

theorem lookUp_one_iff (table : List (Method × Int)) (codes : ∀ entry ∈ table, entry.2 ≠ 1) :
    (lookUp t found table s).1 = 1 ↔ ∀ entry ∈ table, found entry.1 = true := by
  induction table generalizing s with
  | nil => simp [lookUp]
  | cons entry table ih =>
      rw [lookUp, List.forall_mem_cons]
      split
      · next here =>
          rw [ih (fun e he => codes e (List.mem_cons_of_mem _ he))]
          exact (and_iff_right here).symm
      · next lacks =>
          exact iff_of_false (codes entry List.mem_cons_self) fun all => lacks all.1

theorem initUsbDriver_one_iff {env : Thread} (set : s.jniEnv = some env) :
    (initUsbDriver t found s).1 = 1 ↔ ∀ method, found method = true := by
  have codes : ∀ entry ∈ initTable, entry.2 ≠ 1 := by decide
  simp only [initUsbDriver, set]
  rw [lookUp_one_iff initTable codes]
  constructor
  · intro all method
    have listed : method ∈ initTable.map Prod.fst := by
      cases method <;> decide
    obtain ⟨entry, hmem, rfl⟩ := List.mem_map.mp listed
    exact all entry hmem
  · intro all entry _
    exact all entry.1

/-- The array that the bytes of the caller are copied to. -/
theorem length_sent (vm : Vm) (t : Thread) (n : Int) (pucData : List UInt8) (s : Bridge) :
    (setRegion (newByteArray vm t (n + 1) s).1.array n pucData).content.length =
      (n + 1).toNat := by
  rw [length_setRegion]
  exact length_hand ..

/-- A call in a ready environment makes its event, or none of it. -/
theorem run_java (vm : Vm) (init : initUsbDriver t found s = (1, ready)) (call : JniCall) :
    ∃ e, Makes call e ∧ (call.run vm t found s).java = UsbDriver.step ready.java e := by
  cases call with
  | openDevice iVid iPid env =>
      refine ⟨_, .openDevice iVid iPid env, ?_⟩
      simp only [JniCall.run, jniOpenDevice, init]
      exact (releaseUsbDriver_keeps t _).1
  | closeDevice =>
      refine ⟨_, .closeDevice, ?_⟩
      simp only [JniCall.run, jniCloseDevice, init]
      exact (releaseUsbDriver_keeps t _).1
  | bulkSendData pucData n piWritten iTimeOut transferred =>
      refine ⟨_, .sendData piWritten iTimeOut transferred (length_sent vm t n pucData ready) ?_, ?_⟩
      rotate_left
      · simp only [JniCall.run, jniBulkSendData, init]
        exact (releaseUsbDriver_keeps t _).1
      · intro nonneg fits
        exact setRegion_content _ (inBounds_spare nonneg) pucData fits
  | bulkRecvData pucData n piRecved iTimeOut reply =>
      refine ⟨_, .recvData pucData n piRecved iTimeOut ?_ reply, ?_⟩
      rotate_left
      · simp only [JniCall.run, jniBulkRecvData, init]
        exact (releaseUsbDriver_keeps t _).1
  | controlSend pucData n iOffset iIndex iTimeOut transferred =>
      refine ⟨_, .sendControl iOffset iIndex iTimeOut transferred
        (length_sent vm t n pucData ready) ?_, ?_⟩
      rotate_left
      · simp only [JniCall.run, jniControlSend, init]
        exact (releaseUsbDriver_keeps t _).1
      · intro nonneg fits
        exact setRegion_content _ (inBounds_spare nonneg) pucData fits
  | controlRecv pucData n iOffset iIndex iTimeOut reply =>
      refine ⟨_, .recvControl pucData n iOffset iIndex iTimeOut reply, ?_⟩
      simp only [JniCall.run, jniControlRecv, init]
      exact (releaseUsbDriver_keeps t _).1

theorem makes_enabled {call : JniCall} {e : UsbDriver.Event} (makes : Makes call e)
    {java : UsbDriver.State} (running : java.exited = false) : Enabled java e := by
  cases makes <;> exact running

theorem setJniEnv_java (t : Thread) (classFound : Bool) (s : Bridge) :
    (setJniEnv t classFound s).java = s.java := by
  cases classFound <;> rfl

theorem refused_java (vm : Vm) (refused : (initUsbDriver t found s).1 ≠ 1) (call : JniCall) :
    (call.run vm t found s).java = s.java := by
  cases run_shape (t := t) vm found call s with
  | inl no =>
      rw [no.2]
      exact (initUsbDriver_keeps t found s).1
  | inr ran => exact absurd ran.1 refused

/-- One happening, as the Java side sees it. -/
theorem happening_seen (vm : Vm) {h : Happening} (possible : Possible s h) :
    ∃ es, SeenAs h es ∧ Run (guarded Enabled UsbDriver.step) s.java es (h.apply vm s).java := by
  cases h with
  | receive b opened =>
      exact ⟨_, .receive b opened, .cons ⟨possible, rfl⟩ (.nil _)⟩
  | batch b =>
      obtain ⟨running, fits⟩ := possible
      have java := setJniEnv_java b.thread b.classFound s
      cases fits with
      | inl none_ =>
          refine ⟨[], .idle none_, ?_⟩
          have same : (Happening.apply vm s (.batch b)).java = s.java := by
            simpa [Happening.apply, Batch.run, runCalls, none_] using java
          rw [same]
          exact .nil _
      | inr one =>
          obtain ⟨⟨found, call⟩, only⟩ := List.length_eq_one_iff.mp one.2
          have ran : (Happening.apply vm s (.batch b)).java =
              (call.run vm b.thread found (setJniEnv b.thread b.classFound s)).java := by
            simp [Happening.apply, Batch.run, runCalls, only]
          have env := (setJniEnv_well b.thread b.classFound s).2.2.2
          rw [ran]
          by_cases all : ∀ method, found method = true
          · obtain ⟨ready, init, same, _⟩ := initUsbDriver_ready ((initUsbDriver_one_iff env).mpr all)
            obtain ⟨e, makes, done⟩ := run_java vm init call
            rw [same, java] at done
            exact ⟨[e], .called only all makes, .cons ⟨makes_enabled makes running, done⟩ (.nil _)⟩
          · have refused := mt (initUsbDriver_one_iff (t := b.thread) env).mp all
            obtain ⟨method, lacks⟩ := not_forall.mp all
            refine ⟨[], .missing only (Bool.eq_false_iff.mpr lacks), ?_⟩
            rw [refused_java vm refused, java]
            exact .nil _

end

/-- The Java side of a run of the bridge is a run of `UsbDriver` with one event
for each call that got through, in their order; so its connections obey their
law behind the bridge as well. -/
theorem bridge_refines_usbDriver (vm : Vm) (hs : List Happening) (s : Bridge)
    (run : Run (happens vm) Bridge.init hs s) :
    ConnectionLaw s.java ∧ ∃ ess, List.Forall₂ SeenAs hs ess ∧
      Run (guarded Enabled UsbDriver.step) State.init ess.flatten s.java := by
  have each (s : Bridge) (h : Happening) (s' : Bridge) (java : State) (same : s.java = java)
      (step : happens vm s h s') :
      ∃ es java', SeenAs h es ∧ Run (guarded Enabled UsbDriver.step) java es java' ∧
        s'.java = java' := by
    obtain ⟨possible, rfl⟩ := step
    obtain ⟨es, seen, ran⟩ := happening_seen vm possible
    rw [same] at ran
    exact ⟨es, _, seen, ran, rfl⟩
  have start : Bridge.init.java = State.init := rfl
  obtain ⟨ess, java, seen, ran, rfl⟩ := run.refines each start
  exact ⟨(guarded_owned Owned.init ran).law, ess, seen, ran⟩

/-- The permission comes while no call is under way, and another thread sends. -/
def grantedLater : List Happening :=
  [.batch ⟨0, true, [(fun _ => true, .openDevice 0 0 ⟨[scanner], false, none⟩)]⟩,
    .receive (.permission (some scanner) true) (some 7),
    .batch ⟨1, true, [(fun _ => true, .bulkSendData [1, 2, 3] 3 0 100 3)]⟩,
    .batch ⟨1, true, [(fun method => method ≠ .closeDevice, .closeDevice)]⟩]

theorem bridge_refines_usbDriver_grantedLater :
    ∃ s, Run (happens ⟨fun _ => 0, fun _ => true⟩) Bridge.init grantedLater s ∧
      ConnectionLaw s.java ∧ ∃ ess, List.Forall₂ SeenAs grantedLater ess ∧
        Run (guarded Enabled UsbDriver.step) State.init ess.flatten s.java := by
  have run : Run (happens ⟨fun _ => 0, fun _ => true⟩) Bridge.init grantedLater _ :=
    .cons ⟨⟨rfl, .inr ⟨rfl, rfl⟩⟩, rfl⟩
      (.cons ⟨⟨rfl, by decide, scanner, rfl, by decide⟩, rfl⟩
        (.cons ⟨⟨rfl, .inr ⟨rfl, rfl⟩⟩, rfl⟩ (.cons ⟨⟨rfl, .inr ⟨rfl, rfl⟩⟩, rfl⟩ (.nil _))))
  exact ⟨_, run, bridge_refines_usbDriver _ grantedLater _ run⟩

end NdkThreadSample.CCallJava

import NdkThreadSample.UsbDriver.Calls
import NdkThreadSample.UsbDriver.Connection
import NdkThreadSample.UsbDriver.OpenResult

/-!
Which devices the driver deals with. `OpenDevice` overwrites its arguments, so
each call adds the ids of the scanner to `mDevList` once more, and nothing ever
takes an entry out. A permission is asked for listed devices only and a grant
answers such a request, so no other device is opened or written to.
-/

namespace NdkThreadSample.UsbDriver
open LabelledRun Growth

def IsScanner (device : UsbDevice) : Prop :=
  device.vendorId = 0x05e3 ∧ device.productId = 0x0102

/-- The device that a call is about. -/
def UsbCall.about : UsbCall → Option UsbDevice
  | .requestPermission device | .openDevice device _ | .openDeviceOnNull device => some device
  | .claimInterface c _ | .releaseInterface c _ | .close c | .bulkTransfer c _ _ _ _
  | .controlTransfer c _ _ _ _ _ _ _ => some c.device
  | .registerReceiver | .unregisterReceiver _ => none

def UsbCall.AboutScanner (x : UsbCall) : Prop := ∀ device, x.about = some device → IsScanner device

variable {n : Nat} {s t : State} {c : UsbDeviceConnection} {device : UsbDevice}

theorem aboutScanner_of {x : UsbCall} (hx : x.about = some device) (hd : IsScanner device) :
    x.AboutScanner := by
  intro other named
  rw [hx] at named
  exact Option.some.inj named ▸ hd

/-- After `n` calls of `OpenDevice`. -/
structure OnlyScanner (n : Nat) (s : State) : Prop where
  mDevList : s.mDevList = List.replicate n (formatIds 0x05e3 0x0102)
  mListSize : s.mListSize = n
  pending : ∀ device ∈ s.pending, IsScanner device
  held : ∀ c, s.mConnection = some c → IsScanner c.device
  log : ∀ x ∈ s.log, x.AboutScanner

theorem OnlyScanner.init : OnlyScanner 0 State.init := by
  refine ⟨rfl, rfl, ?_, ?_, ?_⟩ <;> (intro _ h; cases h)

/-! Each method, and the events that make no request. -/

theorem scanner_givesUp (hc : IsScanner c.device) : GivesUp UsbCall.AboutScanner c :=
  ⟨fun _ => aboutScanner_of rfl hc, aboutScanner_of rfl hc⟩

theorem scanner_reaches (hd : IsScanner device) : Reaches UsbCall.AboutScanner device where
  refused := aboutScanner_of rfl hd
  onNull := aboutScanner_of rfl hd
  made _ _ := aboutScanner_of rfl hd
  claimed _ hc := aboutScanner_of rfl (hc ▸ hd)

theorem Quiet.aboutScanner (h : Quiet s t)
    (held : ∀ c, s.mConnection = some c → IsScanner c.device) :
    Gains UsbCall.AboutScanner s.log t.log := by
  obtain ⟨calls, pending, rfl, used⟩ := h
  refine ⟨calls, rfl, fun x hx => ?_⟩
  obtain ⟨c, hc, on⟩ := used x hx
  refine aboutScanner_of ?_ (held c hc)
  rcases UsbCall.transfer_inv on with ⟨_, _, _, _, rfl⟩ | ⟨_, _, _, _, _, _, _, rfl⟩ <;> rfl

theorem recvLoop_pending (c : UsbDeviceConnection) (inPoint : UsbEndpoint) (iTimeOut : Int)
    (reply : Nat → TransferReply) (n : Nat) (iDataLen inMax index : Int) (tmpData : List UInt8)
    (s : State) :
    (recvLoop c inPoint iTimeOut reply n iDataLen inMax index tmpData s).2.pending =
      s.pending := by
  fun_induction recvLoop c inPoint iTimeOut reply n iDataLen inMax index tmpData s with
  | case1 => rfl
  | case2 n iDataLen inMax index tmpData s _ _ _ _ _ ih => exact ih
  | case3 => rfl

/-- A quiet event makes no request. -/
theorem step_quiet_pending (s : State) (e : Event) (quiet : e.isQuiet = true) :
    (step s e).pending ⊆ s.pending := by
  have same {t : State} (h : t.pending = s.pending) : t.pending ⊆ s.pending :=
    fun d hd => h ▸ hd
  cases e with
  | openDevice _ _ _ | closeDevice => cases quiet
  | receive b opened =>
      cases b with
      | attached => exact List.Subset.refl _
      | permission device granted =>
          cases device with
          | none => cases granted <;> exact List.Subset.refl _
          | some device =>
              cases granted with
              | false => exact List.erase_subset
              | true => cases quiet
      | detached device => cases quiet
  | sendData bySendData iSendLen piWritten iTimeOut transferred =>
      refine same ?_
      simp only [step, sendData]
      split
      · split <;> rfl
      · rfl
  | recvData byData iDataLen piRecved iTimeOut reply =>
      refine same ?_
      simp only [step, recvData]
      split
      · next c inPoint _ _ =>
          have looped := recvLoop_pending c inPoint iTimeOut reply 0 iDataLen
            inPoint.maxPacketSize 0 (List.replicate inPoint.maxPacketSize 0) s
          split
          · next ended =>
              rw [ended] at looped
              exact looped
          · next ended =>
              rw [ended] at looped
              exact looped
      · rfl
  | sendControl bySendCMD iSendLen iOffset iIndex iTimeOut transferred =>
      refine same ?_
      simp only [step, sendControl, controlTransfer]
      split
      · rfl
      · split <;> rfl
  | recvControl byRecvCMD iRecvLen iOffset iIndex iTimeOut reply =>
      refine same ?_
      simp only [step, recvControl, controlTransfer]
      split
      · rfl
      · split <;> rfl

/-! Whole runs. -/

theorem OnlyScanner.givesUp (h : OnlyScanner n s) (c : UsbDeviceConnection)
    (held : s.mConnection = some c) : GivesUp UsbCall.AboutScanner c :=
  scanner_givesUp (h.held c held)

theorem OnlyScanner.setDevice (h : OnlyScanner n s) (hd : IsScanner device)
    (opened : Option Int) : OnlyScanner n (setDevice (some device) opened s) := by
  have same := setDevice_sameSetup (some device) opened s
  have calls := setDevice_gains h.givesUp (scanner_reaches hd) opened
  refine ⟨same.mDevList.trans h.mDevList, same.mListSize.trans h.mListSize, ?_, ?_,
    calls.forall_mem h.log⟩
  · rw [setDevice_pending]
    exact h.pending
  · intro c hc
    cases setDevice_result device opened s with
    | made _ now _ _ =>
        cases now.symm.trans hc
        exact hd
    | refused _ now _ _ => cases now.symm.trans hc
    | unmanaged _ _ now _ _ => exact h.held c (now.symm.trans hc)

theorem OnlyScanner.closeDevice (h : OnlyScanner n s) : OnlyScanner n (closeDevice s).2 := by
  have dropped := dropConnection_sameSetup s
  have closed := closeDevice_closed s
  have calls := closeDevice_gains h.givesUp fun _ _ none_ => nomatch none_
  have list : (UsbDriver.closeDevice s).2.mDevList = s.mDevList ∧
      (UsbDriver.closeDevice s).2.mListSize = s.mListSize := by
    simp only [UsbDriver.closeDevice, unregister]
    split <;> exact ⟨dropped.mDevList, dropped.mListSize⟩
  refine ⟨list.1.trans h.mDevList, list.2.trans h.mListSize, ?_, ?_, calls.forall_mem h.log⟩
  · rw [closed.pending]
    exact h.pending
  · intro c hc
    cases closed.mConnection.symm.trans hc

theorem OnlyScanner.asked (h : OnlyScanner n s) (hd : IsScanner device) :
    OnlyScanner n (asked device s) := by
  have calls : Gains UsbCall.AboutScanner s.log (UsbDriver.asked device s).log :=
    asked_gains (aboutScanner_of rfl hd) (fun _ none_ => nomatch none_) s
  refine ⟨h.mDevList, h.mListSize, ?_, h.held, calls.forall_mem h.log⟩
  intro d hmem
  rcases List.mem_append.mp hmem with old | new
  · exact h.pending d old
  · rw [List.mem_singleton.mp new]
    exact hd

/-- A device with the text of the scanner's ids has its ids. -/
theorem OnlyScanner.listed (h : OnlyScanner n s) (found : listed s device = true) :
    IsScanner device := by
  obtain ⟨entry, hmem, same⟩ := List.any_eq_true.mp found
  have scanner := List.mem_of_mem_take hmem
  rw [h.mDevList] at scanner
  rw [List.eq_of_mem_replicate scanner] at same
  obtain ⟨vendor, product⟩ := formatIds_inj (eq_of_beq same)
  exact ⟨vendor.symm, product.symm⟩

theorem OnlyScanner.addDevList (h : OnlyScanner n s) :
    OnlyScanner (n + 1) (addDevList (formatIds 0x05e3 0x0102) s) := by
  have longer : s.mDevList ++ [formatIds 0x05e3 0x0102] =
      List.replicate (n + 1) (formatIds 0x05e3 0x0102) := by
    rw [h.mDevList, List.replicate_succ']
  refine ⟨longer, ?_, h.pending, h.held, h.log⟩
  simp only [UsbDriver.addDevList, longer, List.length_replicate]

theorem OnlyScanner.openDevice (h : OnlyScanner n s) (iVid iPid : Int) (env : OpenEnv) :
    OnlyScanner (n + 1) (openDevice iVid iPid env s).2 := by
  have added := h.addDevList
  simp only [UsbDriver.openDevice, findUsbList_eq]
  split
  · exact ⟨added.mDevList, added.mListSize, added.pending, added.held, added.log⟩
  · next device found =>
      have asked := added.asked (added.listed (List.find?_some found))
      split
      · exact asked.setDevice (added.listed (List.find?_some found)) env.opened
      · exact asked

def Event.isOpen : Event → Bool
  | .openDevice _ _ _ => true
  | _ => false

theorem OnlyScanner.step (h : OnlyScanner n s) {e : Event} (enabled : Enabled s e) :
    OnlyScanner (n + if e.isOpen then 1 else 0) (step s e) := by
  cases e using Event.byEffect with
  | openDevice iVid iPid env => exact h.openDevice iVid iPid env
  | closeDevice => exact h.closeDevice
  | grant device opened =>
      obtain ⟨_, _, _, same, waiting⟩ := enabled
      cases same
      have answered : OnlyScanner n { s with pending := s.pending.erase device } :=
        ⟨h.mDevList, h.mListSize, fun d hd => h.pending d (List.mem_of_mem_erase hd), h.held, h.log⟩
      exact answered.setDevice (h.pending device waiting) opened
  | detached device opened =>
      have after : OnlyScanner n (UsbDriver.step s (.receive (.detached device) opened)) := by
        rw [step_detached]
        split
        · have closed := h.closeDevice
          exact ⟨closed.mDevList, closed.mListSize, closed.pending, closed.held, closed.log⟩
        · exact h
      exact after
  | quiet e quiet =>
      have no : e.isOpen = false := by
        cases e with
        | openDevice _ _ _ => cases quiet
        | _ => rfl
      have quietly := step_quiet s e quiet
      have same := quietly.sameSetup
      rw [no]
      refine ⟨same.mDevList.trans h.mDevList, same.mListSize.trans h.mListSize,
        fun d hd => h.pending d (step_quiet_pending s e quiet hd), ?_,
        (quietly.aboutScanner h.held).forall_mem h.log⟩
      obtain ⟨calls, pending, after, _⟩ := quietly
      rw [after]
      exact h.held

/-- Whatever ids `OpenDevice` is given and whatever is attached, only a scanner
is asked for, opened, transferred to or closed, and `mDevList` holds its ids
once for each `OpenDevice` so far. -/
theorem only_scanner_is_touched (es : List Event) (s : State)
    (run : Run (guarded Enabled step) State.init es s) :
    (∀ x ∈ s.log, ∀ device, x.about = some device →
      device.vendorId = 0x05e3 ∧ device.productId = 0x0102) ∧
      s.mDevList = List.replicate (es.countP Event.isOpen) (formatIds 0x05e3 0x0102) ∧
      s.mListSize = es.countP Event.isOpen := by
  have keep (past : List Event) (s : State) (e : Event) (s' : State)
      (h : OnlyScanner (past.countP Event.isOpen) s) (hs : guarded Enabled step s e s') :
      OnlyScanner ((past ++ [e]).countP Event.isOpen) s' := by
    obtain ⟨enabled, rfl⟩ := hs
    rw [List.countP_append, List.countP_singleton]
    exact h.step enabled
  have only : OnlyScanner (([] ++ es).countP Event.isOpen) s := run.history keep OnlyScanner.init
  exact ⟨only.log, only.mDevList, only.mListSize⟩

/-- Another device is attached as well, and its ids are asked for. -/
def besides : List Event :=
  [.openDevice 0x1234 0x5678 ⟨[{ scanner with vendorId := 0x1234, productId := 0x5678 }, scanner],
      false, none⟩,
    .receive (.permission (some scanner) true) (some 7), .sendData [1] 1 [0, 0] 100 1]

theorem only_scanner_is_touched_besides :
    ∃ s, Run (guarded Enabled step) State.init besides s ∧
      (∀ x ∈ s.log, ∀ device, x.about = some device →
        device.vendorId = 0x05e3 ∧ device.productId = 0x0102) ∧
      s.mDevList = List.replicate (besides.countP Event.isOpen) (formatIds 0x05e3 0x0102) ∧
      s.mListSize = besides.countP Event.isOpen := by
  have run : Run (guarded Enabled step) State.init besides _ :=
    .cons ⟨rfl, rfl⟩ (.cons ⟨⟨rfl, by decide, scanner, rfl, by decide⟩, rfl⟩
      (.cons ⟨rfl, rfl⟩ (.nil _)))
  exact ⟨_, run, only_scanner_is_touched besides _ run⟩

end NdkThreadSample.UsbDriver

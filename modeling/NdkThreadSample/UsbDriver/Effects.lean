import NdkThreadSample.Library.Growth
import NdkThreadSample.UsbDriver.Operations

/-!
What each method of `UsbDriver` can change. The quiet events, which are the
transfers and the broadcasts without a granted permission, only append calls
on the connection the driver holds; `setDevice` leaves the receiver and the
device list alone; `closeDevice` drops the connection and the manager. Proofs
about `step` split by these effects (`Event.byEffect`).
-/

namespace NdkThreadSample.UsbDriver
open Growth
variable {s t u : State} {c : UsbDeviceConnection} {x : UsbCall}

def UsbCall.transferOn : UsbCall → Option UsbDeviceConnection
  | .bulkTransfer c _ _ _ _ => some c
  | .controlTransfer c _ _ _ _ _ _ _ => some c
  | _ => none

/-- A transfer is a bulk or a control transfer. -/
theorem UsbCall.transfer_inv (on : x.transferOn = some c) :
    (∃ endpoint buffer length iTimeOut, x = .bulkTransfer c endpoint buffer length iTimeOut) ∨
      ∃ requestType req iOffset iIndex buffer length iTimeOut,
        x = .controlTransfer c requestType req iOffset iIndex buffer length iTimeOut := by
  cases x with
  | bulkTransfer d endpoint buffer length iTimeOut =>
      cases on
      exact .inl ⟨endpoint, buffer, length, iTimeOut, rfl⟩
  | controlTransfer d requestType req iOffset iIndex buffer length iTimeOut =>
      cases on
      exact .inr ⟨requestType, req, iOffset, iIndex, buffer, length, iTimeOut, rfl⟩
  | _ => cases on

/-- From `s` to `t` nothing happens but transfers on the held connection and
answers to requests. -/
def Quiet (s t : State) : Prop :=
  ∃ calls pending, t = { s with log := s.log ++ calls, pending := pending } ∧
    ∀ x ∈ calls, ∃ c, s.mConnection = some c ∧ x.transferOn = some c

theorem Quiet.answer (s : State) (pending : List UsbDevice) :
    Quiet s { s with pending := pending } := ⟨[], pending, by simp, by simp⟩

theorem Quiet.refl (s : State) : Quiet s s := .answer s s.pending

theorem Quiet.trans (h : Quiet s t) (k : Quiet t u) : Quiet s u := by
  obtain ⟨before, _, rfl, hb⟩ := h
  obtain ⟨after, pending, rfl, ha⟩ := k
  refine ⟨before ++ after, pending, by simp, ?_⟩
  intro x hx
  cases List.mem_append.mp hx with
  | inl h => exact hb x h
  | inr h => exact ha x h

theorem Quiet.call (held : s.mConnection = some c) (hx : x.transferOn = some c) :
    Quiet s (s.call x) := by
  refine ⟨[x], s.pending, rfl, ?_⟩
  intro y hy
  rw [List.mem_singleton.mp hy]
  exact ⟨c, held, hx⟩

theorem sendData_quiet (bySendData : List UInt8) (iSendLen : Int) (piWritten : List Int)
    (iTimeOut transferred : Int) (s : State) :
    Quiet s (sendData bySendData iSendLen piWritten iTimeOut transferred s).state := by
  unfold sendData
  split
  · next c outPoint held _ =>
      have sent : Quiet s (s.call (.bulkTransfer c outPoint bySendData iSendLen iTimeOut)) :=
        .call held rfl
      dsimp only
      split <;> exact sent
  · exact .refl s

theorem recvLoop_quiet (c : UsbDeviceConnection) (inPoint : UsbEndpoint) (iTimeOut : Int)
    (reply : Nat → TransferReply) (n : Nat) (iDataLen inMax index : Int) (tmpData : List UInt8)
    (s : State) (held : s.mConnection = some c) :
    Quiet s (recvLoop c inPoint iTimeOut reply n iDataLen inMax index tmpData s).2 := by
  fun_induction recvLoop c inPoint iTimeOut reply n iDataLen inMax index tmpData s with
  | case1 => exact .call held rfl
  | case2 n iDataLen inMax index tmpData s _ inMax' s' tmpData' _ ih =>
      have asked : Quiet s s' := .call held rfl
      exact asked.trans (ih held)
  | case3 => exact .refl _

theorem recvData_quiet (byData : List UInt8) (iDataLen : Int) (piRecved : List Int)
    (iTimeOut : Int) (reply : Nat → TransferReply) (s : State) :
    Quiet s (recvData byData iDataLen piRecved iTimeOut reply s).state := by
  unfold recvData
  split
  · next c inPoint held _ =>
      have looped := recvLoop_quiet c inPoint iTimeOut reply 0 iDataLen inPoint.maxPacketSize
        0 (List.replicate inPoint.maxPacketSize 0) s held
      dsimp only
      split
      · next ended => rw [ended] at looped; exact looped
      · next ended => rw [ended] at looped; exact looped
  · exact .refl s

theorem controlTransfer_quiet (requestType : Int) (buffer : List UInt8)
    (iLen iOffset iIndex iTimeOut : Int) (reply : TransferReply) (s : State) :
    Quiet s
      (controlTransfer requestType buffer iLen iOffset iIndex iTimeOut reply s).state := by
  unfold controlTransfer
  split
  · exact .refl s
  · next c held =>
      have sent : Quiet s (s.call (.controlTransfer c requestType
          (if iLen > 2 then 0x04 else 0x0C) iOffset iIndex buffer iLen iTimeOut)) :=
        .call held rfl
      dsimp only
      split <;> exact sent

def Event.isQuiet : Event → Bool
  | .openDevice _ _ _ | .closeDevice => false
  | .receive (.permission (some _) granted) _ => !granted
  | .receive (.detached _) _ => false
  | _ => true

theorem step_quiet (s : State) (e : Event) (quiet : e.isQuiet = true) : Quiet s (step s e) := by
  cases e with
  | openDevice _ _ _ | closeDevice => cases quiet
  | receive b opened =>
      cases b with
      | attached => exact .refl s
      | permission device granted =>
          cases granted with
          | false => cases device <;> exact .answer s _
          | true =>
              cases device with
              | none => exact .refl s
              | some device => cases quiet
      | detached device => cases quiet
  | sendData bySendData iSendLen piWritten iTimeOut transferred => exact sendData_quiet ..
  | recvData byData iDataLen piRecved iTimeOut reply => exact recvData_quiet ..
  | sendControl bySendCMD iSendLen iOffset iIndex iTimeOut transferred =>
      exact controlTransfer_quiet ..
  | recvControl byRecvCMD iRecvLen iOffset iIndex iTimeOut reply => exact controlTransfer_quiet ..

/-- The events by what they can do to the connection. -/
theorem Event.byEffect {motive : Event → Prop}
    (openDevice : ∀ iVid iPid env, motive (.openDevice iVid iPid env))
    (closeDevice : motive .closeDevice)
    (grant : ∀ device opened, motive (.receive (.permission (some device) true) opened))
    (detached : ∀ device opened, motive (.receive (.detached device) opened))
    (quiet : ∀ e, e.isQuiet = true → motive e) (e : Event) : motive e := by
  cases e with
  | openDevice iVid iPid env => exact openDevice iVid iPid env
  | closeDevice => exact closeDevice
  | receive b opened =>
      cases b with
      | attached => exact quiet _ rfl
      | permission device granted =>
          cases device with
          | none => exact quiet _ rfl
          | some device =>
              cases granted with
              | false => exact quiet _ rfl
              | true => exact grant device opened
      | detached device => exact detached device opened
  | _ => exact quiet _ rfl

theorem step_openDevice (s : State) (iVid iPid : Int) (env : OpenEnv) :
    step s (.openDevice iVid iPid env) =
      (findUsbList env (addDevList (formatIds 0x05e3 0x0102) s)).2 := rfl

theorem step_grant (s : State) (device : UsbDevice) (opened : Option Int) :
    step s (.receive (.permission (some device) true) opened) =
      setDevice (some device) opened { s with pending := s.pending.erase device } := rfl

theorem step_detached (s : State) (device : UsbDevice) (opened : Option Int) :
    step s (.receive (.detached device) opened) =
      if listed s device then { (closeDevice s).2 with exited := true } else s := rfl

/-! The fields that a method leaves as they are. -/

/-- All that is not about the connection is the same. -/
structure SameSetup (s t : State) : Prop where
  mUsbManager : t.mUsbManager = s.mUsbManager
  bAttached : t.bAttached = s.bAttached
  mDevList : t.mDevList = s.mDevList
  mListSize : t.mListSize = s.mListSize
  registrations : t.registrations = s.registrations
  exited : t.exited = s.exited

theorem SameSetup.refl (s : State) : SameSetup s s := ⟨rfl, rfl, rfl, rfl, rfl, rfl⟩

theorem Quiet.sameSetup (h : Quiet s t) : SameSetup s t := by
  obtain ⟨calls, pending, rfl, _⟩ := h
  exact ⟨rfl, rfl, rfl, rfl, rfl, rfl⟩

theorem shut_sameSetup (c : UsbDeviceConnection) (s : State) : SameSetup s (shut c s) := by
  simp only [shut]
  cases s.mUsbInterface <;> exact ⟨rfl, rfl, rfl, rfl, rfl, rfl⟩

theorem dropConnection_sameSetup (s : State) : SameSetup s (dropConnection s) := by
  simp only [dropConnection]
  cases s.mConnection with
  | none => exact .refl s
  | some c =>
      have same := shut_sameSetup c s
      exact ⟨same.mUsbManager, same.bAttached, same.mDevList, same.mListSize, same.registrations,
        same.exited⟩

theorem setDevice_sameSetup (device : Option UsbDevice) (opened : Option Int) (s : State) :
    SameSetup s (setDevice device opened s) := by
  cases device with
  | none => exact .refl s
  | some device =>
      unfold setDevice vacate shut State.call
      cases s.mConnection <;> cases s.mUsbInterface <;> cases opened <;>
        by_cases h : s.mUsbManager = true <;> constructor <;> simp [h]

theorem vacate_mUsbManager (s : State) : (vacate s).mUsbManager = s.mUsbManager := by
  simp only [vacate, shut, State.call]
  cases s.mConnection <;> cases s.mUsbInterface <;> rfl

/-! The calls that a method makes. -/

/-- A call that makes a connection or goes to one. -/
def UsbCall.onConnection : UsbCall → Bool
  | .requestPermission _ | .registerReceiver | .unregisterReceiver _ | .openDeviceOnNull _ => false
  | _ => true

/-- All that the log gained from `s` to `t` are calls on connections. -/
def Worked (s t : State) : Prop := Gains (fun x => x.onConnection = true) s.log t.log

theorem onConnection_of_transferOn (hx : x.transferOn = some c) : x.onConnection = true := by
  rcases UsbCall.transfer_inv hx with ⟨_, _, _, _, rfl⟩ | ⟨_, _, _, _, _, _, _, rfl⟩ <;> rfl

theorem Quiet.worked (h : Quiet s t) : Worked s t := by
  obtain ⟨calls, pending, rfl, used⟩ := h
  refine ⟨calls, rfl, ?_⟩
  intro x hx
  obtain ⟨c, _, on⟩ := used x hx
  exact onConnection_of_transferOn on

theorem shut_worked (c : UsbDeviceConnection) (s : State) : Worked s (shut c s) := by
  simp only [shut]
  cases s.mUsbInterface with
  | none => exact .snoc _ rfl
  | some i =>
      have unclaimed : Worked s (s.call (.releaseInterface c i)) := .snoc _ rfl
      exact unclaimed.trans (.snoc _ rfl)

theorem vacate_worked (s : State) : Worked s (vacate s) := by
  simp only [vacate]
  cases s.mConnection with
  | none => exact .refl _ _
  | some c => exact shut_worked c s

theorem dropConnection_worked (s : State) : Worked s (dropConnection s) := by
  simp only [dropConnection]
  cases s.mConnection with
  | none => exact .refl _ _
  | some c => exact shut_worked c s

theorem setDevice_worked (device : UsbDevice) (opened : Option Int) (s : State)
    (managed : s.mUsbManager = true) : Worked s (setDevice (some device) opened s) := by
  simp only [setDevice]
  simp only [vacate_mUsbManager, managed, if_true]
  cases opened with
  | none => exact (vacate_worked s).trans (.snoc _ rfl)
  | some fd =>
      have made : Worked s ((vacate s).call
          (.openDevice device (some ⟨(vacate s).nextSerial, device, fd⟩))) :=
        (vacate_worked s).trans (.snoc _ rfl)
      exact made.trans (.snoc _ rfl)

/-- Without a manager `setDevice` ends at `openDevice`. -/
theorem setDevice_onNull (device : UsbDevice) (opened : Option Int) (s : State)
    (unmanaged : s.mUsbManager = false) :
    setDevice (some device) opened s = (vacate s).call (.openDeviceOnNull device) := by
  simp [setDevice, vacate_mUsbManager, unmanaged]

theorem dropConnection_mConnection (s : State) : (dropConnection s).mConnection = none := by
  simp only [dropConnection]
  cases held : s.mConnection with
  | none => exact held
  | some c => rfl

theorem unregister_mUsbManager (s : State) : (unregister s).mUsbManager = s.mUsbManager := by
  simp only [unregister]
  split <;> rfl

theorem unregister_of_flag (s : State) (flag : s.bAttached = false) : unregister s = s := by
  simp [unregister, flag]

theorem closeDevice_mUsbManager (s : State) : (closeDevice s).2.mUsbManager = false := by
  simp only [closeDevice, unregister_mUsbManager]

/-- The driver once `FindUsbList` has asked for the permission of `device`. -/
def asked (device : UsbDevice) (s : State) : State :=
  { s with
    mUsbManager := true
    pending := s.pending ++ [device]
    registrations := s.registrations + 1
    log := s.log ++ [.requestPermission device, .registerReceiver] }

/-- `FindUsbList` opens the first listed device, if it has the permission already. -/
theorem findUsbList_eq (env : OpenEnv) (s : State) :
    findUsbList env s =
      match env.deviceList.find? (listed s) with
      | none => (-1, { s with mUsbManager := true })
      | some device =>
        if env.hasPermission then (1, setDevice (some device) env.opened (asked device s))
        else (-2, asked device s) := by
  have sameList : listed { s with mUsbManager := true } = listed s := rfl
  cases hl : env.deviceList with
  | nil => simp [findUsbList, hl]
  | cons first rest =>
      cases hf : (first :: rest).find? (listed s) with
      | none => simp [findUsbList, hl, sameList, hf]
      | some device => simp [findUsbList, hl, sameList, hf, asked, State.call]

theorem findUsbList_manages (env : OpenEnv) (s : State) :
    (findUsbList env s).2.mUsbManager = true ∧ (findUsbList env s).2.exited = s.exited := by
  rw [findUsbList_eq]
  split
  · exact ⟨rfl, rfl⟩
  · next device _ =>
      have same := setDevice_sameSetup (some device) env.opened (asked device s)
      split
      · exact ⟨same.mUsbManager, same.exited⟩
      · exact ⟨rfl, rfl⟩

end NdkThreadSample.UsbDriver

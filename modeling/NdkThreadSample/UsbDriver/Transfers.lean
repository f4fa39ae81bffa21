import NdkThreadSample.UsbDriver.Calls
import NdkThreadSample.UsbDriver.Connection

/-!
What goes over the wire. A transfer goes to the connection the driver holds,
whose interface has been claimed and not released since, and to the endpoint
and with the request that the method is for; `RecvData` never asks for more
than a packet or than its buffer holds. `getUsbFd` keeps the descriptor of the
last connection, also when that is closed.
-/

namespace NdkThreadSample.UsbDriver
open LabelledRun Growth
variable {s t : State} {c : UsbDeviceConnection} {device : UsbDevice}

/-- The transfers of an event. -/
inductive Transfers (c : UsbDeviceConnection) : Event → UsbCall → Prop
  | sendData {bySendData : List UInt8} {iSendLen iTimeOut transferred : Int}
      {piWritten : List Int} :
      Transfers c (.sendData bySendData iSendLen piWritten iTimeOut transferred)
        (.bulkTransfer c c.device.interface0.endpoint1 bySendData iSendLen iTimeOut)
  | recvData {byData tmpData : List UInt8} {iDataLen iTimeOut length : Int}
      {piRecved : List Int} {reply : Nat → TransferReply} (nonneg : 0 ≤ length)
      (wanted : length ≤ iDataLen)
      (packet : length ≤ c.device.interface0.endpoint0.maxPacketSize)
      (fits : length ≤ tmpData.length) :
      Transfers c (.recvData byData iDataLen piRecved iTimeOut reply)
        (.bulkTransfer c c.device.interface0.endpoint0 tmpData length iTimeOut)
  | sendControl {bySendCMD : List UInt8} {iSendLen iOffset iIndex iTimeOut transferred : Int} :
      Transfers c (.sendControl bySendCMD iSendLen iOffset iIndex iTimeOut transferred)
        (.controlTransfer c 0x40 (if iSendLen > 2 then 0x04 else 0x0C) iOffset iIndex bySendCMD
          iSendLen iTimeOut)
  | recvControl {byRecvCMD : List UInt8} {iRecvLen iOffset iIndex iTimeOut : Int}
      {reply : TransferReply} :
      Transfers c (.recvControl byRecvCMD iRecvLen iOffset iIndex iTimeOut reply)
        (.controlTransfer c 0xC0 (if iRecvLen > 2 then 0x04 else 0x0C) iOffset iIndex byRecvCMD
          iRecvLen iTimeOut)

/-- The connection is held and open, and its interface is claimed. -/
structure AtWork (s : State) (c : UsbDeviceConnection) : Prop where
  held : s.mConnection = some c
  open_ : c ∈ obtained s.log ∧ c ∉ closed s.log
  claimed : .claimInterface c c.device.interface0 ∈ s.log
  kept : ∀ i, .releaseInterface c i ∉ s.log

/-! Interfaces are released together with their connection. -/

def UsbCall.ReleasesBelow (n : Nat) (x : UsbCall) : Prop :=
  ∀ c i, x = .releaseInterface c i → c.serial < n

structure Unreleased (s : State) : Prop where
  owned : Owned s
  below : ∀ x ∈ s.log, x.ReleasesBelow s.nextSerial
  kept : ∀ c, s.mConnection = some c → ∀ i, .releaseInterface c i ∉ s.log

theorem Unreleased.init : Unreleased State.init := by
  refine ⟨Owned.init, ?_, ?_⟩ <;> (intro _ h; cases h)

theorem Owned.below (h : Owned s) (held : s.mConnection = some c) : c.serial < s.nextSerial :=
  h.ledger.fresh c ((h.law.open_iff_held c).mpr held).1

theorem Owned.givesUp (h : Owned s) (c : UsbDeviceConnection) (held : s.mConnection = some c) :
    GivesUp (UsbCall.ReleasesBelow s.nextSerial) c where
  release i := by
    intro d j same
    cases same
    exact h.below held
  close _ _ none_ := nomatch none_

theorem reaches_releasesBelow (n : Nat) (device : UsbDevice) :
    Reaches (UsbCall.ReleasesBelow n) device where
  refused _ _ none_ := nomatch none_
  onNull _ _ none_ := nomatch none_
  made _ _ _ _ none_ := nomatch none_
  claimed _ _ _ _ none_ := nomatch none_

theorem UsbCall.ReleasesBelow.mono {m n : Nat} {x : UsbCall} (h : x.ReleasesBelow m) (le : m ≤ n) :
    x.ReleasesBelow n :=
  fun c i same => Nat.lt_of_lt_of_le (h c i same) le

theorem Unreleased.setDevice (h : Unreleased s) (device : UsbDevice) (opened : Option Int) :
    Unreleased (setDevice (some device) opened s) := by
  have owned := h.owned.setDevice (some device) opened
  have below := (setDevice_gains h.owned.givesUp (reaches_releasesBelow s.nextSerial device)
    opened).forall_mem h.below
  refine ⟨owned, ?_, ?_⟩
  · intro x hx
    refine (below x hx).mono ?_
    cases setDevice_result device opened s with
    | made _ _ next _ => exact next ▸ Nat.le_succ _
    | refused _ _ next _ | unmanaged _ _ _ next _ => exact next.ge
  · intro c hc i released
    cases setDevice_result device opened s with
    | made _ now _ _ =>
        cases now.symm.trans hc
        exact absurd (below _ released _ _ rfl) (Nat.lt_irrefl _)
    | refused _ now _ _ => cases now.symm.trans hc
    | unmanaged unset _ now _ _ => cases (h.owned.managed unset).symm.trans (now.symm.trans hc)

theorem Unreleased.closeDevice (h : Unreleased s) : Unreleased (closeDevice s).2 := by
  have closed := closeDevice_closed s
  have below := (closeDevice_gains h.owned.givesUp fun _ _ _ none_ => nomatch none_).forall_mem
    h.below
  refine ⟨h.owned.closeDevice, ?_, ?_⟩
  · rw [closed.nextSerial]
    exact below
  · intro c hc
    cases closed.mConnection.symm.trans hc

theorem Unreleased.asked (h : Unreleased s) (device : UsbDevice) :
    Unreleased (asked device s) := by
  have gains {P : UsbCall → Prop} (requested : P (.requestPermission device))
      (registered : P .registerReceiver) : Gains P s.log (UsbDriver.asked device s).log :=
    asked_gains requested registered s
  have below : Gains (UsbCall.ReleasesBelow s.nextSerial) s.log (UsbDriver.asked device s).log :=
    gains (fun _ _ none_ => nomatch none_) (fun _ _ none_ => nomatch none_)
  refine ⟨h.owned.asked device, below.forall_mem h.below, fun c hc i released => ?_⟩
  have apart : Gains (fun x => x ≠ .releaseInterface c i) s.log (UsbDriver.asked device s).log :=
    gains (fun none_ => nomatch none_) (fun none_ => nomatch none_)
  exact h.kept c hc i ((apart.mem_iff fun other => other rfl).mp released)

theorem Unreleased.quiet (h : Unreleased s) (k : Quiet s t) : Unreleased t := by
  have owned := h.owned.quiet k
  obtain ⟨calls, pending, rfl, used⟩ := k
  have transfers (d : UsbDeviceConnection) (i : UsbInterface) : .releaseInterface d i ∉ calls := by
    intro hmem
    obtain ⟨_, _, on⟩ := used _ hmem
    cases on
  refine ⟨owned, ?_, ?_⟩
  · intro x hx d i same
    subst same
    rcases List.mem_append.mp hx with old | new
    · exact h.below _ old d i rfl
    · exact absurd new (transfers d i)
  · intro c hc i released
    rcases List.mem_append.mp released with old | new
    · exact h.kept c hc i old
    · exact transfers c i new

theorem Unreleased.congr (h : Unreleased s) (owned : Owned t) (log : t.log = s.log)
    (next : t.nextSerial = s.nextSerial) (held : t.mConnection = s.mConnection) : Unreleased t := by
  refine ⟨owned, ?_, ?_⟩
  · rw [log, next]
    exact h.below
  · rw [log, held]
    exact h.kept

theorem Unreleased.findUsbList (h : Unreleased s) (env : OpenEnv) :
    Unreleased (findUsbList env s).2 := by
  have owned := h.owned.findUsbList env
  rw [findUsbList_eq] at owned ⊢
  cases found : env.deviceList.find? (listed s) with
  | none =>
      rw [found] at owned
      exact h.congr owned rfl rfl rfl
  | some device =>
      dsimp only
      split
      · exact (h.asked device).setDevice device env.opened
      · exact h.asked device

theorem Unreleased.step (h : Unreleased s) (e : Event) : Unreleased (step s e) := by
  cases e using Event.byEffect with
  | openDevice iVid iPid env =>
      have added : Owned (addDevList (formatIds 0x05e3 0x0102) s) :=
        h.owned.setup _ _ _ _ _ _ h.owned.managed
      have listed : Unreleased (addDevList (formatIds 0x05e3 0x0102) s) := h.congr added rfl rfl rfl
      exact listed.findUsbList env
  | closeDevice => exact h.closeDevice
  | grant device opened =>
      have answered : Owned { s with pending := s.pending.erase device } :=
        h.owned.setup _ _ _ _ _ _ h.owned.managed
      have waiting : Unreleased { s with pending := s.pending.erase device } :=
        h.congr answered rfl rfl rfl
      exact waiting.setDevice device opened
  | detached device opened =>
      have closed := h.closeDevice
      rw [step_detached]
      split
      · exact closed.congr (closed.owned.setup _ _ _ _ _ true closed.owned.managed) rfl rfl rfl
      · exact h
  | quiet e quiet => exact h.quiet (step_quiet s e quiet)

theorem Unreleased.atWork (h : Unreleased s) (held : s.mConnection = some c) : AtWork s c :=
  ⟨held, (h.owned.law.open_iff_held c).mpr held, (h.owned.bound c held).claimed, h.kept c held⟩

/-! The transfers of one event. -/

/-- The call is no transfer, or one of the event on the held connection. -/
def Sends (s : State) (e : Event) (x : UsbCall) : Prop :=
  ∀ c, x.transferOn = some c → s.mConnection = some c ∧ Transfers c e x

theorem noTransfer_sends {e : Event} {x : UsbCall} (hx : x.transferOn = none) : Sends s e x := by
  intro c on
  cases hx.symm.trans on

theorem givesUp_noTransfer (c : UsbDeviceConnection) :
    GivesUp (fun x => x.transferOn = none) c := ⟨fun _ => rfl, rfl⟩

theorem reaches_noTransfer (device : UsbDevice) :
    Reaches (fun x => x.transferOn = none) device :=
  ⟨rfl, rfl, fun _ _ => rfl, fun _ _ => rfl⟩

theorem sendData_sends (owned : Owned s) (bySendData : List UInt8) (iSendLen : Int)
    (piWritten : List Int) (iTimeOut transferred : Int) :
    Gains (Sends s (.sendData bySendData iSendLen piWritten iTimeOut transferred)) s.log
      (sendData bySendData iSendLen piWritten iTimeOut transferred s).state.log := by
  unfold sendData
  split
  · next c outPoint held out =>
      have same := (owned.bound c held).out
      rw [out] at same
      cases same
      have sent : Sends s (.sendData bySendData iSendLen piWritten iTimeOut transferred)
          (.bulkTransfer c c.device.interface0.endpoint1 bySendData iSendLen iTimeOut) := by
        intro d on
        cases on
        exact ⟨held, .sendData⟩
      dsimp only
      split <;> exact .snoc _ sent
  · exact .refl _ _

/-- A round of `RecvData` that wants `wanted` bytes in all. -/
def AsksFor (c : UsbDeviceConnection) (inPoint : UsbEndpoint) (iTimeOut wanted : Int)
    (x : UsbCall) : Prop :=
  ∃ buffer length, x = .bulkTransfer c inPoint buffer length iTimeOut ∧ 0 ≤ length ∧
    length ≤ wanted ∧ length ≤ inPoint.maxPacketSize ∧ length ≤ buffer.length

theorem recvLoop_asks (c : UsbDeviceConnection) (inPoint : UsbEndpoint) (iTimeOut wanted : Int)
    (reply : Nat → TransferReply) (n : Nat) (iDataLen inMax index : Int) (tmpData : List UInt8)
    (s : State) (rest : iDataLen ≤ wanted) (nonneg : 0 ≤ inMax)
    (packet : inMax ≤ inPoint.maxPacketSize) (fits : inMax ≤ tmpData.length) :
    Gains (AsksFor c inPoint iTimeOut wanted) s.log
      (recvLoop c inPoint iTimeOut reply n iDataLen inMax index tmpData s).2.log := by
  fun_induction recvLoop c inPoint iTimeOut reply n iDataLen inMax index tmpData s with
  | case1 n iDataLen inMax index tmpData s more inMax' =>
      have less : 0 ≤ inMax' ∧ inMax' ≤ inMax ∧ inMax' ≤ iDataLen := by
        simp only [inMax']
        split <;> omega
      exact .snoc _ ⟨tmpData, inMax', rfl, less.1, by omega, by omega, by omega⟩
  | case2 n iDataLen inMax index tmpData s more inMax' s' tmpData' received ih =>
      have less : 0 ≤ inMax' ∧ inMax' ≤ inMax ∧ inMax' ≤ iDataLen := by
        simp only [inMax']
        split <;> omega
      have longer : tmpData.length ≤ tmpData'.length := by
        simp only [tmpData', CText.length_write]
        exact Nat.le_max_left _ _
      have asked : Gains (AsksFor c inPoint iTimeOut wanted) s.log s'.log :=
        .snoc _ ⟨tmpData, inMax', rfl, less.1, by omega, by omega, by omega⟩
      exact asked.trans (ih (by omega) (by omega) (by omega) (by omega))
  | case3 => exact .refl _ _

theorem recvData_sends (owned : Owned s) (byData : List UInt8) (iDataLen : Int)
    (piRecved : List Int) (iTimeOut : Int) (reply : Nat → TransferReply) :
    Gains (Sends s (.recvData byData iDataLen piRecved iTimeOut reply)) s.log
      (recvData byData iDataLen piRecved iTimeOut reply s).state.log := by
  unfold recvData
  split
  · next c inPoint held inp =>
      have same := (owned.bound c held).inp
      rw [inp] at same
      cases same
      have asks := recvLoop_asks c c.device.interface0.endpoint0 iTimeOut iDataLen reply 0 iDataLen
        c.device.interface0.endpoint0.maxPacketSize 0
        (List.replicate c.device.interface0.endpoint0.maxPacketSize 0) s (Int.le_refl _)
        (Int.natCast_nonneg _) (Int.le_refl _) (by simp)
      have sent (x : UsbCall) (hx : AsksFor c c.device.interface0.endpoint0 iTimeOut iDataLen x) :
          Sends s (.recvData byData iDataLen piRecved iTimeOut reply) x := by
        obtain ⟨buffer, length, rfl, nonneg, wanted, packet, fits⟩ := hx
        intro d on
        cases on
        exact ⟨held, .recvData nonneg wanted packet fits⟩
      have sends := asks.mono sent
      dsimp only
      split
      · next ended =>
          rw [ended] at sends
          exact sends
      · next ended =>
          rw [ended] at sends
          exact sends
  · exact .refl _ _

theorem controlTransfer_sends {e : Event} {requestType iLen iOffset iIndex iTimeOut : Int}
    {buffer : List UInt8} (reply : TransferReply) (s : State)
    (transfers : ∀ c, Transfers c e (.controlTransfer c requestType
      (if iLen > 2 then 0x04 else 0x0C) iOffset iIndex buffer iLen iTimeOut)) :
    Gains (Sends s e) s.log
      (controlTransfer requestType buffer iLen iOffset iIndex iTimeOut reply s).state.log := by
  unfold controlTransfer
  split
  · exact .refl _ _
  · next c held =>
      have sent : Sends s e (.controlTransfer c requestType (if iLen > 2 then 0x04 else 0x0C)
          iOffset iIndex buffer iLen iTimeOut) := by
        intro d on
        cases on
        exact ⟨held, transfers c⟩
      dsimp only
      split <;> exact .snoc _ sent

theorem step_sends (owned : Owned s) (e : Event) : Gains (Sends s e) s.log (step s e).log := by
  have silent {t : State} (h : Gains (fun x => x.transferOn = none) s.log t.log) :
      Gains (Sends s e) s.log t.log := h.mono fun _ => noTransfer_sends
  have gives (s : State) (c : UsbDeviceConnection) (_ : s.mConnection = some c) :=
    givesUp_noTransfer c
  cases e with
  | openDevice iVid iPid env =>
      refine silent ?_
      rw [step_openDevice, findUsbList_eq]
      split
      · exact .refl _ _
      · next device _ =>
          have asked : Gains (fun x => x.transferOn = none) s.log
              (asked device (addDevList (formatIds 0x05e3 0x0102) s)).log :=
            asked_gains (by rfl) (by rfl) _
          split
          · exact asked.trans (setDevice_gains (gives _) (reaches_noTransfer device) env.opened)
          · exact asked
  | closeDevice => exact silent (closeDevice_gains (gives s) fun _ => rfl)
  | receive b opened =>
      refine silent ?_
      cases b with
      | attached => exact .refl _ _
      | permission device granted =>
          cases device with
          | none => cases granted <;> exact .refl _ _
          | some device =>
              cases granted with
              | false => exact .refl _ _
              | true => exact setDevice_gains (gives _) (reaches_noTransfer device) opened
      | detached device =>
          rw [step_detached]
          split
          · exact closeDevice_gains (gives s) fun _ => rfl
          · exact .refl _ _
  | sendData bySendData iSendLen piWritten iTimeOut transferred => exact sendData_sends owned ..
  | recvData byData iDataLen piRecved iTimeOut reply => exact recvData_sends owned ..
  | sendControl bySendCMD iSendLen iOffset iIndex iTimeOut transferred =>
      exact controlTransfer_sends _ _ fun _ => .sendControl
  | recvControl byRecvCMD iRecvLen iOffset iIndex iTimeOut reply =>
      exact controlTransfer_sends _ _ fun _ => .recvControl

/-- In every run, each transfer is one that its event is for, on a connection
that is open and whose interface is claimed. -/
theorem transfers_well_formed (es : List Event) :
    EachStep (ofFn step) State.init es (fun _ s e s' =>
      ∃ calls, s'.log = s.log ++ calls ∧
        ∀ x ∈ calls, ∀ c, x.transferOn = some c → AtWork s c ∧ Transfers c e x) := by
  intro past e rest s s' _ run hs
  have keep (s : State) (e : Event) (s' : State) (h : Unreleased s) (hs : ofFn step s e s') :
      Unreleased s' := by
    rw [hs]
    exact h.step e
  have unreleased : Unreleased s := run.invariant keep Unreleased.init
  cases hs
  obtain ⟨calls, grew, sends⟩ := step_sends unreleased.owned e
  refine ⟨calls, grew, fun x hx c on => ?_⟩
  obtain ⟨held, transfers⟩ := sends x hx c on
  exact ⟨unreleased.atWork held, transfers⟩

/-! The descriptor. -/

/-- The descriptor of the last connection that was obtained, or 0. -/
def lastDescriptor (log : List UsbCall) : Int :=
  ((obtained log).getLast?.map (·.fileDescriptor)).getD 0

theorem lastDescriptor_same {before after : List UsbCall}
    (h : Gains (fun x => x.obtained = none) before after) :
    lastDescriptor after = lastDescriptor before := by
  obtain ⟨calls, rfl, none_⟩ := h
  have same : obtained (before ++ calls) = obtained before := by
    rw [obtained, List.filterMap_append, List.filterMap_eq_nil_iff.mpr none_, List.append_nil,
      obtained]
  rw [lastDescriptor, same, lastDescriptor]

theorem givesUp_obtained (s : State) (c : UsbDeviceConnection) (_ : s.mConnection = some c) :
    GivesUp (fun x => x.obtained = none) c := ⟨fun _ => rfl, rfl⟩

def FdLaw (s : State) : Prop := getUsbFd s = lastDescriptor s.log

theorem FdLaw.setDevice (h : FdLaw s) (device : UsbDevice) (opened : Option Int) :
    FdLaw (setDevice (some device) opened s) := by
  have vacated : lastDescriptor (vacate s).log = getUsbFd s :=
    (lastDescriptor_same (vacate_gains (givesUp_obtained s))).trans h.symm
  have silent {x : UsbCall} (hx : x.obtained = none) :
      lastDescriptor ((vacate s).log ++ [x]) = getUsbFd s :=
    (lastDescriptor_same (.snoc _ hx)).trans vacated
  cases setDevice_result device opened s with
  | @made opened log _ _ fd =>
      have last : obtained ((vacate s).log ++
          [.openDevice device (some ⟨s.nextSerial, device, opened⟩),
            .claimInterface ⟨s.nextSerial, device, opened⟩ device.interface0]) =
          obtained (vacate s).log ++ [⟨s.nextSerial, device, opened⟩] := by
        rw [obtained, List.filterMap_append]
        rfl
      rw [FdLaw, getUsbFd, fd, log, lastDescriptor, last, List.getLast?_concat]
      rfl
  | refused log _ _ fd =>
      rw [FdLaw, getUsbFd, fd, log]
      exact (silent rfl).symm
  | unmanaged _ log _ _ fd =>
      rw [FdLaw, getUsbFd, fd, log]
      exact (silent rfl).symm

theorem FdLaw.closeDevice (h : FdLaw s) : FdLaw (closeDevice s).2 := by
  have same := lastDescriptor_same (closeDevice_gains (givesUp_obtained s) fun _ => rfl)
  rw [FdLaw, getUsbFd, (closeDevice_closed s).mUsbFd, same]
  exact h

theorem FdLaw.step (h : FdLaw s) (e : Event) : FdLaw (step s e) := by
  cases e using Event.byEffect with
  | openDevice iVid iPid env =>
      rw [step_openDevice, findUsbList_eq]
      split
      · exact h
      · next device _ =>
          have asked : FdLaw (asked device (addDevList (formatIds 0x05e3 0x0102) s)) :=
            h.trans (lastDescriptor_same (asked_gains (by rfl) (by rfl) _)).symm
          split
          · exact asked.setDevice device env.opened
          · exact asked
  | closeDevice => exact h.closeDevice
  | grant device opened =>
      have answered : FdLaw { s with pending := s.pending.erase device } := h
      exact answered.setDevice device opened
  | detached device opened =>
      rw [step_detached]
      split
      · exact h.closeDevice
      · exact h
  | quiet e quiet =>
      obtain ⟨calls, pending, after, used⟩ := step_quiet s e quiet
      have silent : Gains (fun x => x.obtained = none) s.log (s.log ++ calls) := by
        refine ⟨calls, rfl, fun x hx => ?_⟩
        obtain ⟨c, _, on⟩ := used x hx
        exact obtained_of_transferOn on
      rw [after]
      exact h.trans (lastDescriptor_same silent).symm

/-- In every state `getUsbFd` is the descriptor of the last connection obtained,
which is an open one exactly while it is `mConnection`. -/
theorem getUsbFd_is_last_descriptor (es : List Event) :
    EachPoint (ofFn step) State.init es (fun _ s =>
      getUsbFd s = lastDescriptor s.log ∧
        ∀ c, (obtained s.log).getLast? = some c → (c ∉ closed s.log ↔ s.mConnection = some c)) := by
  refine EachPoint.of_history (I := fun _ s => Owned s ∧ FdLaw s) ?_ ⟨Owned.init, rfl⟩ ?_
  · rintro past s e s' ⟨owned, fd⟩ hs
    rw [hs]
    exact ⟨owned.step e, fd.step e⟩
  · rintro past s ⟨owned, fd⟩
    refine ⟨fd, fun c last => ?_⟩
    have once := List.mem_of_getLast? last
    rw [← owned.law.open_iff_held c]
    exact (and_iff_right once).symm

end NdkThreadSample.UsbDriver

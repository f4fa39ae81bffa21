import NdkThreadSample.UsbDriver.State

/-!
The methods of `UsbDriver`. What Android and the device answer (the attached
devices in the iteration order of the map, the permission, what `openDevice`
and the transfers return) are arguments of the method that asks. A transfer
returns at most the length requested, so the `int` counters do not overflow.
-/

namespace NdkThreadSample.UsbDriver
open CText

/-- Release the claimed interface, if any, and close the connection. -/
def shut (c : UsbDeviceConnection) (s : State) : State :=
  let s :=
    match s.mUsbInterface with
    | none => s
    | some i => { s.call (.releaseInterface c i) with mUsbInterface := none }
  s.call (.close c)

def dropConnection (s : State) : State :=
  match s.mConnection with
  | none => s
  | some c => { shut c s with mConnection := none }

def unregister (s : State) : State :=
  if s.bAttached then
    { s.call (.unregisterReceiver (0 < s.registrations)) with
      registrations := 0, bAttached := false }
  else s

def closeDevice (s : State) : Int × State :=
  let s := dropConnection s
  let s := { s with mUsbDevice := none }
  let s := { s with mUsbManager := false }
  (0, unregister s)

/-- What `setDevice` does to the connection it replaces; the field still refers to it. -/
def vacate (s : State) : State :=
  match s.mConnection with
  | none => s
  | some c => { shut c s with mUsbDevice := none, mUsbInterface := none }

/-- `opened` is the descriptor of the connection that `openDevice` makes, or
none when it returns null. -/
def setDevice (device : Option UsbDevice) (opened : Option Int) (s : State) : State :=
  match device with
  | none => s
  | some device =>
    let s := vacate s
    if s.mUsbManager then
      match opened with
      | none => { s.call (.openDevice device none) with mConnection := none }
      | some fd =>
        let c : UsbDeviceConnection := ⟨s.nextSerial, device, fd⟩
        let s :=
          { s.call (.openDevice device (some c)) with
            mConnection := some c
            nextSerial := s.nextSerial + 1
            mUsbFd := fd
            mUsbInterface := some device.interface0
            outPoint := some device.interface0.endpoint1
            inPoint := some device.interface0.endpoint0 }
        s.call (.claimInterface c device.interface0)
    else s.call (.openDeviceOnNull device)

def getUsbFd (s : State) : Int := s.mUsbFd

def addDevList (strList : List Char) (s : State) : State :=
  let mDevList := s.mDevList ++ [strList]
  { s with mDevList := mDevList, mListSize := mDevList.length }

/-- Some entry of `mDevList` has the ids of the device. -/
def listed (s : State) (device : UsbDevice) : Bool :=
  (s.mDevList.take s.mListSize).any (· == device.ids)

structure OpenEnv where
  deviceList : List UsbDevice
  hasPermission : Bool
  opened : Option Int
  deriving DecidableEq, Repr

def findUsbList (env : OpenEnv) (s : State) : Int × State :=
  let s := { s with mUsbManager := true }
  if env.deviceList.isEmpty then (-1, s) else
  match env.deviceList.find? (listed s) with
  | none => (-1, s)
  | some device =>
    let s := { s.call (.requestPermission device) with pending := s.pending ++ [device] }
    let s := { s.call .registerReceiver with registrations := s.registrations + 1 }
    if env.hasPermission then (1, setDevice (some device) env.opened s)
    else (-2, s)

/-- The arguments are overwritten with the ids of the scanner. -/
def openDevice (_iVid _iPid : Int) (env : OpenEnv) (s : State) : Int × State :=
  let strDevList := formatIds 0x05e3 0x0102
  findUsbList env (addDevList strDevList s)

inductive Broadcast
  | attached
  | permission (device : Option UsbDevice) (granted : Bool)
  | detached (device : UsbDevice)
  deriving DecidableEq, Repr

def onReceive (b : Broadcast) (opened : Option Int) (s : State) : State :=
  match b with
  | .attached => s
  | .permission device granted => if granted then setDevice device opened s else s
  | .detached device =>
    if listed s device then { (closeDevice s).2 with exited := true } else s

/-! Transfers. -/

structure SendResult where
  ret : Int
  piWritten : List Int
  state : State
  deriving DecidableEq

def sendData (bySendData : List UInt8) (iSendLen : Int) (piWritten : List Int) (iTimeOut : Int)
    (transferred : Int) (s : State) : SendResult :=
  match s.mConnection, s.outPoint with
  | some c, some outPoint =>
    let s := s.call (.bulkTransfer c outPoint bySendData iSendLen iTimeOut)
    let piWritten := piWritten.set 0 transferred
    if transferred < 0 then ⟨-2, piWritten, s⟩ else ⟨0, piWritten, s⟩
  | _, _ => ⟨-1, piWritten, s⟩

/-- What a transfer returns and writes at the start of its buffer. -/
structure TransferReply where
  length : Int
  data : List UInt8
  deriving DecidableEq, Repr

/-- The loop of `RecvData` from its `n`-th transfer on; `none` is the exit at a
transfer that delivers nothing. -/
def recvLoop (c : UsbDeviceConnection) (inPoint : UsbEndpoint) (iTimeOut : Int)
    (reply : Nat → TransferReply) (n : Nat) (iDataLen inMax index : Int) (tmpData : List UInt8)
    (s : State) : Option Int × State :=
  if _more : iDataLen > 0 then
    let inMax := if iDataLen < inMax then iDataLen else inMax
    let s := s.call (.bulkTransfer c inPoint tmpData inMax iTimeOut)
    let tmpData := write tmpData 0 (reply n).data
    if _empty : (reply n).length ≤ 0 then (none, s)
    else
      recvLoop c inPoint iTimeOut reply (n + 1) (iDataLen - (reply n).length) inMax
        (index + (reply n).length) tmpData s
  else (some index, s)
termination_by iDataLen.toNat

structure RecvResult where
  ret : Int
  byData : List UInt8
  piRecved : List Int
  state : State
  deriving DecidableEq

def recvData (byData : List UInt8) (iDataLen : Int) (piRecved : List Int) (iTimeOut : Int)
    (reply : Nat → TransferReply) (s : State) : RecvResult :=
  match s.mConnection, s.inPoint with
  | some c, some inPoint =>
    let tmpData := List.replicate inPoint.maxPacketSize 0
    let inMax : Int := inPoint.maxPacketSize
    match recvLoop c inPoint iTimeOut reply 0 iDataLen inMax 0 tmpData s with
    | (none, s) => ⟨-2, byData, piRecved, s⟩
    | (some index, s) => ⟨0, byData, piRecved.set 0 index, s⟩
  | _, _ => ⟨-1, byData, piRecved, s⟩

structure ControlResult where
  ret : Int
  buffer : List UInt8
  state : State
  deriving DecidableEq

/-- The two control transfers differ in their request type and direction only. -/
def controlTransfer (requestType : Int) (buffer : List UInt8) (iLen iOffset iIndex iTimeOut : Int)
    (reply : TransferReply) (s : State) : ControlResult :=
  match s.mConnection with
  | none => ⟨-1, buffer, s⟩
  | some c =>
    let req : Int := if iLen > 2 then 0x04 else 0x0C
    let s := s.call (.controlTransfer c requestType req iOffset iIndex buffer iLen iTimeOut)
    let buffer := write buffer 0 reply.data
    if reply.length < 0 then ⟨-2, buffer, s⟩ else ⟨0, buffer, s⟩

/-- A transfer to the device leaves the buffer as it is. -/
def sendControl (bySendCMD : List UInt8) (iSendLen iOffset iIndex iTimeOut transferred : Int)
    (s : State) : ControlResult :=
  controlTransfer 0x40 bySendCMD iSendLen iOffset iIndex iTimeOut ⟨transferred, []⟩ s

def recvControl (byRecvCMD : List UInt8) (iRecvLen iOffset iIndex iTimeOut : Int)
    (reply : TransferReply) (s : State) : ControlResult :=
  controlTransfer 0xC0 byRecvCMD iRecvLen iOffset iIndex iTimeOut reply s

/-! The operations as one transition function. -/

inductive Event
  | openDevice (iVid iPid : Int) (env : OpenEnv)
  | closeDevice
  | receive (b : Broadcast) (opened : Option Int)
  | sendData (bySendData : List UInt8) (iSendLen : Int) (piWritten : List Int)
      (iTimeOut transferred : Int)
  | recvData (byData : List UInt8) (iDataLen : Int) (piRecved : List Int) (iTimeOut : Int)
      (reply : Nat → TransferReply)
  | sendControl (bySendCMD : List UInt8) (iSendLen iOffset iIndex iTimeOut transferred : Int)
  | recvControl (byRecvCMD : List UInt8) (iRecvLen iOffset iIndex iTimeOut : Int)
      (reply : TransferReply)

/-- An answered permission request waits no longer. -/
def answered (b : Broadcast) (s : State) : State :=
  match b with
  | .permission (some device) _ => { s with pending := s.pending.erase device }
  | _ => s

def step (s : State) : Event → State
  | .openDevice iVid iPid env => (openDevice iVid iPid env s).2
  | .closeDevice => (closeDevice s).2
  | .receive b opened => onReceive b opened (answered b s)
  | .sendData bySendData iSendLen piWritten iTimeOut transferred =>
      (sendData bySendData iSendLen piWritten iTimeOut transferred s).state
  | .recvData byData iDataLen piRecved iTimeOut reply =>
      (recvData byData iDataLen piRecved iTimeOut reply s).state
  | .sendControl bySendCMD iSendLen iOffset iIndex iTimeOut transferred =>
      (sendControl bySendCMD iSendLen iOffset iIndex iTimeOut transferred s).state
  | .recvControl byRecvCMD iRecvLen iOffset iIndex iTimeOut reply =>
      (recvControl byRecvCMD iRecvLen iOffset iIndex iTimeOut reply s).state

/-- What Android delivers: the answer to a waiting request and a detach, while
the receiver is registered; `USB_DEVICE_ATTACHED` is not in its filter. -/
def Deliverable (s : State) : Broadcast → Prop
  | .attached => False
  | .permission device _ => 0 < s.registrations ∧ ∃ d, device = some d ∧ d ∈ s.pending
  | .detached _ => 0 < s.registrations

/-- After `System.exit` nothing happens any more. -/
def Enabled (s : State) : Event → Prop
  | .receive b _ => s.exited = false ∧ Deliverable s b
  | _ => s.exited = false

end NdkThreadSample.UsbDriver

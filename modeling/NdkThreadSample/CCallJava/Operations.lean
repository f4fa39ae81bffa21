import NdkThreadSample.CCallJava.Vm

/-!
The functions of `UsbDriver_CCallJava`. Each runs on a thread; the outcomes of
`FindClass` and `GetStaticMethodID`, and what Android and the device answer to
the Java method, are arguments.
-/

namespace NdkThreadSample.CCallJava
open CText ManagedArray

def getJNIEnv (thread : Thread) (s : Bridge) : Option Thread × Bridge :=
  (some thread, s.attachCurrentThread thread)

def detachJNI (thread : Thread) (s : Bridge) : Bridge := s.detachCurrentThread thread

def setJniEnv (thread : Thread) (found : Bool) (s : Bridge) : Bridge :=
  let (jniEnv, s) := getJNIEnv thread s
  let s := { s with jniEnv := jniEnv }
  let s := s.invoke thread .findClass
  if found then
    let (r, s) := s.newLocal thread
    { s with UsbDriverCCallJava := some r }
  else { s with UsbDriverCCallJava := none }

def releaseUsbDriver (thread : Thread) (s : Bridge) : Bridge :=
  match s.jniEnv with
  | none => s
  | some _ =>
    let s :=
      match s.UsbDriverCCallJava with
      | none => s
      | some r => { s.deleteLocalRef thread r with released := s.released ++ [r] }
    detachJNI thread s

/-- The methods in the order they are looked up in, with the result of
`InitUsbDriver` when one is not found. -/
def initTable : List (Method × Int) :=
  [(.openDevice, -2), (.closeDevice, -3), (.sendData, -4), (.recvData, -5), (.sendControl, -6),
    (.recvControl, -7)]

def lookUp (thread : Thread) (found : Method → Bool) : List (Method × Int) → Bridge → Int × Bridge
  | [], s => (1, s)
  | (method, code) :: rest, s =>
    let s := s.invoke thread (.getStaticMethodID method.key.1 method.key.2)
    if found method then lookUp thread found rest s else (code, releaseUsbDriver thread s)

def initUsbDriver (thread : Thread) (found : Method → Bool) (s : Bridge) : Int × Bridge :=
  match s.jniEnv with
  | none => (0, s)
  | some _ => lookUp thread found initTable s

def jniOpenDevice (thread : Thread) (found : Method → Bool) (iVid iPid : Int)
    (env : UsbDriver.OpenEnv) (s : Bridge) : Int × Bridge :=
  let (result, s) := initUsbDriver thread found s
  if result ≠ 1 then (-1, s) else
  let s := s.invoke thread (.callStaticIntMethod .openDevice)
  let (result, java) := UsbDriver.openDevice iVid iPid env s.java
  let s := { s with java := java }
  (result, releaseUsbDriver thread s)

def jniCloseDevice (thread : Thread) (found : Method → Bool) (s : Bridge) : Int × Bridge :=
  let (result, s) := initUsbDriver thread found s
  if result ≠ 1 then (-1, s) else
  let s := s.invoke thread (.callStaticIntMethod .closeDevice)
  let (result, java) := UsbDriver.closeDevice s.java
  let s := { s with java := java }
  (result, releaseUsbDriver thread s)

/-- A result, the caller's buffer, what the Java method was called with and
returned, and what the byte array held when its reference was deleted. -/
structure BridgeResult (Seen JavaResult : Type) where
  ret : Int
  pucData : List UInt8
  call : Option (Seen × JavaResult)
  jArData : Option (List UInt8)
  state : Bridge

/-- `count` is the integer behind `piWritten` or `piRecved`. -/
structure BulkResult (Seen JavaResult : Type) extends BridgeResult Seen JavaResult where
  count : Int

def jniBulkSendData (vm : Vm) (thread : Thread) (found : Method → Bool) (pucData : List UInt8)
    (iSendLen piWritten iTimeOut transferred : Int) (s : Bridge) :
    BulkResult (List UInt8 × Int × Int) UsbDriver.SendResult :=
  let (result, s) := initUsbDriver thread found s
  if result ≠ 1 then ⟨⟨-1, pucData, none, none, s⟩, piWritten⟩ else
  let (jArData, s) := newByteArray vm thread (iSendLen + 1) s
  let (jArWritten, s) := newIntArray vm thread 2 s
  let (jArData, s) := setByteArrayRegion thread jArData iSendLen pucData s
  let s := s.invoke thread (.callStaticIntMethod .sendData)
  let seen := jArData.array.content
  let java := UsbDriver.sendData seen iSendLen jArWritten.array.content iTimeOut transferred s.java
  let s := { s with java := java.state }
  let jArWritten := jArWritten.store java.piWritten
  let (written, s) := getIntArrayRegion thread jArWritten 1 [piWritten] s
  let (jArData, s) := releaseByteArrayElements thread jArData s
  let s := s.deleteLocalRef thread jArData.ref
  let (jArWritten, s) := releaseIntArrayElements thread jArWritten s
  let s := s.deleteLocalRef thread jArWritten.ref
  ⟨⟨java.ret, pucData, some ((seen, iSendLen, iTimeOut), java), some jArData.array.content,
    releaseUsbDriver thread s⟩, written.headD 0⟩

/-- `RecvData` gets the reference `jArLen` for its `iDataLen`. -/
def jniBulkRecvData (vm : Vm) (thread : Thread) (found : Method → Bool) (pucData : List UInt8)
    (iBufSize piRecved iTimeOut : Int) (reply : Nat → UsbDriver.TransferReply) (s : Bridge) :
    BulkResult Int UsbDriver.RecvResult :=
  let (result, s) := initUsbDriver thread found s
  if result ≠ 1 then ⟨⟨-1, pucData, none, none, s⟩, piRecved⟩ else
  let (jArData, s) := newByteArray vm thread iBufSize s
  let (jArLen, s) := newIntArray vm thread 2 s
  let (jArRecved, s) := newIntArray vm thread 2 s
  let jArLen := { jArLen with array := poke jArLen.array 0 iBufSize }
  let s := s.invoke thread (.callStaticIntMethod .recvData)
  let java := UsbDriver.recvData jArData.array.content (vm.handle jArLen.ref)
    jArRecved.array.content iTimeOut reply s.java
  let s := { s with java := java.state }
  let jArData := jArData.store java.byData
  let jArRecved := jArRecved.store java.piRecved
  let (recved, s) := getIntArrayRegion thread jArLen 1 [piRecved] s
  let piRecved := recved.headD 0
  let (pucData, s) := getByteArrayRegion thread jArData piRecved pucData s
  let (jArData, s) := releaseByteArrayElements thread jArData s
  let s := s.deleteLocalRef thread jArData.ref
  let (jArLen, s) := releaseIntArrayElements thread jArLen s
  let s := s.deleteLocalRef thread jArLen.ref
  let (jArRecved, s) := releaseIntArrayElements thread jArRecved s
  let s := s.deleteLocalRef thread jArRecved.ref
  ⟨⟨piRecved, pucData, some (vm.handle jArLen.ref, java), some jArData.array.content,
    releaseUsbDriver thread s⟩, piRecved⟩

def jniControlSend (vm : Vm) (thread : Thread) (found : Method → Bool) (pucData : List UInt8)
    (iSendLen iOffset iIndex iTimeOut transferred : Int) (s : Bridge) :
    BridgeResult (List UInt8 × Int × Int × Int × Int) UsbDriver.ControlResult :=
  let (result, s) := initUsbDriver thread found s
  if result ≠ 1 then ⟨-1, pucData, none, none, s⟩ else
  let (jArData, s) := newByteArray vm thread (iSendLen + 1) s
  let (jArData, s) := setByteArrayRegion thread jArData iSendLen pucData s
  let s := s.invoke thread (.callStaticIntMethod .sendControl)
  let seen := jArData.array.content
  let java := UsbDriver.sendControl seen iSendLen iOffset iIndex iTimeOut transferred s.java
  let s := { s with java := java.state }
  let (jArData, s) := releaseByteArrayElements thread jArData s
  let s := s.deleteLocalRef thread jArData.ref
  ⟨java.ret, pucData, some ((seen, iSendLen, iOffset, iIndex, iTimeOut), java),
    some jArData.array.content, releaseUsbDriver thread s⟩

def jniControlRecv (vm : Vm) (thread : Thread) (found : Method → Bool) (pucData : List UInt8)
    (iRecvLen iOffset iIndex iTimeOut : Int) (reply : UsbDriver.TransferReply) (s : Bridge) :
    BridgeResult (Int × Int × Int × Int) UsbDriver.ControlResult :=
  let (result, s) := initUsbDriver thread found s
  if result ≠ 1 then ⟨-1, pucData, none, none, s⟩ else
  let (jArData, s) := newByteArray vm thread (iRecvLen + 1) s
  let s := s.invoke thread (.callStaticIntMethod .recvControl)
  let java := UsbDriver.recvControl jArData.array.content iRecvLen iOffset iIndex iTimeOut reply
    s.java
  let s := { s with java := java.state }
  let jArData := jArData.store java.buffer
  let (pucData, s) := getByteArrayRegion thread jArData iRecvLen pucData s
  let (jArData, s) := releaseByteArrayElements thread jArData s
  let s := s.deleteLocalRef thread jArData.ref
  ⟨java.ret, pucData, some ((iRecvLen, iOffset, iIndex, iTimeOut), java),
    some jArData.array.content, releaseUsbDriver thread s⟩

/-- The six functions that call into Java, with all they are given. -/
inductive JniCall
  | openDevice (iVid iPid : Int) (env : UsbDriver.OpenEnv)
  | closeDevice
  | bulkSendData (pucData : List UInt8) (iSendLen piWritten iTimeOut transferred : Int)
  | bulkRecvData (pucData : List UInt8) (iBufSize piRecved iTimeOut : Int)
      (reply : Nat → UsbDriver.TransferReply)
  | controlSend (pucData : List UInt8) (iSendLen iOffset iIndex iTimeOut transferred : Int)
  | controlRecv (pucData : List UInt8) (iRecvLen iOffset iIndex iTimeOut : Int)
      (reply : UsbDriver.TransferReply)

def JniCall.run (vm : Vm) (thread : Thread) (found : Method → Bool) (s : Bridge) : JniCall → Bridge
  | .openDevice iVid iPid env => (jniOpenDevice thread found iVid iPid env s).2
  | .closeDevice => (jniCloseDevice thread found s).2
  | .bulkSendData pucData iSendLen piWritten iTimeOut transferred =>
      (jniBulkSendData vm thread found pucData iSendLen piWritten iTimeOut transferred s).state
  | .bulkRecvData pucData iBufSize piRecved iTimeOut reply =>
      (jniBulkRecvData vm thread found pucData iBufSize piRecved iTimeOut reply s).state
  | .controlSend pucData iSendLen iOffset iIndex iTimeOut transferred =>
      (jniControlSend vm thread found pucData iSendLen iOffset iIndex iTimeOut transferred s).state
  | .controlRecv pucData iRecvLen iOffset iIndex iTimeOut reply =>
      (jniControlRecv vm thread found pucData iRecvLen iOffset iIndex iTimeOut reply s).state

end NdkThreadSample.CCallJava

import NdkThreadSample.Library.ManagedArray
import NdkThreadSample.UsbDriver.Operations

/-!
The globals of `UsbDriver_CCallJava` and the part of the Java VM behind them:
which threads are attached, which local references are alive and the static
state of `UsbDriver`. Every JNI function that is invoked through `jniEnv`
leaves a `Use` with the circumstances it was invoked in. There is one VM, and
attaching succeeds; the ids of the methods are not kept, since `InitUsbDriver`
looks all of them up before each call.
-/

namespace NdkThreadSample.CCallJava
open ManagedArray

abbrev Thread := Nat

/-- A local reference belongs to the thread it was made on. -/
structure Ref where
  id : Nat
  thread : Thread
  deriving DecidableEq, Repr

inductive Method
  | openDevice
  | closeDevice
  | sendData
  | recvData
  | sendControl
  | recvControl
  deriving DecidableEq, Repr

/-- The name and signature that the method is looked up by. -/
def Method.key : Method → String × String
  | .openDevice => ("OpenDevice", "(II)I")
  | .closeDevice => ("CloseDevice", "()I")
  | .sendData => ("SendData", "([BI[II)I")
  | .recvData => ("RecvData", "([BI[II)I")
  | .sendControl => ("SendControl", "([BIIII)I")
  | .recvControl => ("RecvControl", "([BIIII)I")

inductive JniFunction
  | findClass
  | getStaticMethodID (name signature : String)
  | callStaticIntMethod (method : Method)
  | deleteLocalRef
  | newByteArray
  | newIntArray
  | getByteArrayElements
  | getIntArrayElements
  | releaseByteArrayElements
  | releaseIntArrayElements
  | setByteArrayRegion
  | getByteArrayRegion
  | getIntArrayRegion
  deriving DecidableEq, Repr

/-- One invocation: on `thread`, through the environment of the thread `env`. -/
structure Use where
  function : JniFunction
  thread : Thread
  env : Option Thread
  attached : Bool
  classLive : Bool
  deriving DecidableEq, Repr

/-- What the VM is free to choose: the bits of a reference that is taken for a
`jint`, and whether it pins an array. -/
structure Vm where
  handle : Ref → Int
  pins : Ref → Bool

structure Bridge where
  jniEnv : Option Thread
  UsbDriverCCallJava : Option Ref
  attached : List Thread
  locals : List Ref
  nextId : Nat
  java : UsbDriver.State
  uses : List Use
  released : List Ref

def Bridge.init : Bridge where
  jniEnv := none
  UsbDriverCCallJava := none
  attached := []
  locals := []
  nextId := 0
  java := UsbDriver.State.init
  uses := []
  released := []

namespace Bridge

def envAttached (s : Bridge) : Bool := s.jniEnv.any (· ∈ s.attached)

def classLive (s : Bridge) : Bool := s.UsbDriverCCallJava.any (· ∈ s.locals)

def invoke (s : Bridge) (thread : Thread) (function : JniFunction) : Bridge :=
  { s with uses := s.uses ++ [⟨function, thread, s.jniEnv, s.envAttached, s.classLive⟩] }

def attachCurrentThread (s : Bridge) (thread : Thread) : Bridge :=
  { s with attached := thread :: s.attached }

/-- The local references of the thread are freed. -/
def detachCurrentThread (s : Bridge) (thread : Thread) : Bridge :=
  { s with
    attached := s.attached.filter (· ≠ thread)
    locals := s.locals.filter (·.thread ≠ thread) }

def newLocal (s : Bridge) (thread : Thread) : Ref × Bridge :=
  let r : Ref := ⟨s.nextId, thread⟩
  (r, { s with locals := r :: s.locals, nextId := s.nextId + 1 })

def deleteLocalRef (s : Bridge) (thread : Thread) (r : Ref) : Bridge :=
  let s := s.invoke thread .deleteLocalRef
  { s with locals := s.locals.erase r }

end Bridge

/-- An array that a bridge function makes for one call. -/
structure JArray (α : Type) where
  ref : Ref
  array : Handed α

/-- `New*Array` and `Get*ArrayElements`. -/
def newArray {α : Type} (vm : Vm) (thread : Thread) (make get : JniFunction) (zero : α)
    (length : Int) (s : Bridge) : JArray α × Bridge :=
  let s := s.invoke thread make
  let (r, s) := s.newLocal thread
  let s := s.invoke thread get
  (⟨r, hand (vm.pins r) length.toNat zero⟩, s)

def newByteArray (vm : Vm) (thread : Thread) : Int → Bridge → JArray UInt8 × Bridge :=
  newArray vm thread .newByteArray .getByteArrayElements 0

def newIntArray (vm : Vm) (thread : Thread) : Int → Bridge → JArray Int × Bridge :=
  newArray vm thread .newIntArray .getIntArrayElements 0

section
variable {α : Type} (thread : Thread)

/-- The array when the Java method has left `content` in it. -/
def JArray.store (a : JArray α) (content : List α) : JArray α :=
  { a with array := ManagedArray.store a.array content }

/-- The regions of the bridges begin at index 0. -/
def setByteArrayRegion (a : JArray UInt8) (n : Int) (src : List UInt8) (s : Bridge) :
    JArray UInt8 × Bridge :=
  ({ a with array := setRegion a.array n src }, s.invoke thread .setByteArrayRegion)

def getByteArrayRegion (a : JArray UInt8) (n : Int) (dst : List UInt8) (s : Bridge) :
    List UInt8 × Bridge :=
  (getRegion a.array n dst, s.invoke thread .getByteArrayRegion)

def getIntArrayRegion (a : JArray Int) (n : Int) (dst : List Int) (s : Bridge) :
    List Int × Bridge :=
  (getRegion a.array n dst, s.invoke thread .getIntArrayRegion)

/-- With mode 0: a copy is written back, over what the array holds by then. -/
def releaseArrayElements (function : JniFunction) (a : JArray α) (s : Bridge) :
    JArray α × Bridge :=
  ({ a with array := giveUp a.array }, s.invoke thread function)

def releaseByteArrayElements : JArray UInt8 → Bridge → JArray UInt8 × Bridge :=
  releaseArrayElements thread .releaseByteArrayElements

def releaseIntArrayElements : JArray Int → Bridge → JArray Int × Bridge :=
  releaseArrayElements thread .releaseIntArrayElements

end

end NdkThreadSample.CCallJava

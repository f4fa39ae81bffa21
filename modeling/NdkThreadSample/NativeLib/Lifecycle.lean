import NdkThreadSample.NativeLib.CheckedVm
import NdkThreadSample.NativeLib.Threads

/-!
The library from the first use of `NativeClass` on: the static block, any number
of constructors, and the threads that `start_thread` makes, one operation at a
time. The class is initialised once; an object is constructed after that, and
`start_thread` is called on an object. It is called `NUMTHREADS` times at most:
a further call would store its handle behind `pt`, over another variable.
-/

namespace NdkThreadSample.NativeLib.Checked
open Interleaving LabelledRun

/-- The environment that it asks for is kept in a variable that nothing reads. -/
def jniOnLoad (t : Nat) : Native Unit := do
  setVm
  let _ ← getEnv t

def nativeInit (t : Nat) : Native Unit := do
  let clazz ← jni t (.findClass "com/luowei/ndkthreadsample/NativeClass")
  if clazz = none then return ()
  let postEvent ← jni t (.getID .staticMethod clazz "postEventFromNative"
    "(Ljava/lang/Object;ILjava/lang/Object;)V")
  setId .postEvent postEvent
  let clazz ← jni t (.findClass "com/luowei/ndkthreadsample/CommData")
  let cardClazz ← newGlobalRef t clazz
  setRef .cardClazz cardClazz
  let cardClazz ← getRef .cardClazz
  if cardClazz = none then return ()
  let constrocMID ← jni t (.getID .method cardClazz "<init>" "()V")
  let pJobject ← jni t (.newObject clazz constrocMID)
  let cardObject ← newGlobalRef t pJobject
  setRef .cardObject cardObject

def nativeSetup (t : Nat) (nativeclassThis : Option Ref) : Native Unit := do
  let mObject ← newGlobalRef t nativeclassThis
  setRef .mObject mObject
  let clazz ← jni t (.findClass "com/luowei/ndkthreadsample/JavaClass")
  if clazz = none then return ()
  let sendEnvent ← jni t (.getID .method clazz "send" "([BI)I")
  setId .sendEnvent sendEnvent
  let recvEnvent ← jni t (.getID .method clazz "recv" "([BI)I")
  setId .recvEnvent recvEnvent

def notify (t : Nat) : Native Unit := do
  let clazz ← getRef .cardClazz
  let pJobject ← getRef .cardObject
  let filedBuffer ← jni t (.getID .field clazz "buffer" "[B")
  let pBufferArray ← jni t (.newArray .bytes)
  jni t (.onArray .setArrayRegion .bytes pBufferArray)
  jni t (.setObjectField pJobject filedBuffer pBufferArray)
  let filedSize ← jni t (.getID .field clazz "size" "[I")
  let pSizeArray ← jni t (.newArray .ints)
  jni t (.onArray .setArrayRegion .ints pSizeArray)
  jni t (.setObjectField pJobject filedSize pSizeArray)
  let mObject ← getRef .mObject
  let recvEnvent ← getId .recvEnvent
  jni t (.callIntMethod mObject recvEnvent pBufferArray)
  jni t (.onArray .getArrayElements .bytes pBufferArray)
  jni t (.onArray .getArrayElements .ints pSizeArray)
  jni t (.onArray .releaseArrayElements .bytes pBufferArray)
  jni t (.onArray .releaseArrayElements .ints pSizeArray)

/-- `while (c--)` and what follows it. -/
def threadLoop (t : Nat) : Nat → Bool → Native Unit
  | 0, isAttached => if isAttached then detachCurrentThread t else pure ()
  | c + 1, isAttached => do
    let got ← getEnv t
    if got then
      notify t
      threadLoop t c isAttached
    else
      let attached ← attachCurrentThread t
      if attached then
        notify t
        threadLoop t c true
      else return ()

def threadFun (t : Nat) : Native Unit := threadLoop t 2 false

/-! The threads of the application. -/

/-- `created` says whether `pthread_create` makes the thread. -/
inductive Task
  | loadClass
  | construct
  | startThread (created : Bool)
  deriving DecidableEq, Repr

inductive Outcome
  | initialized
  | constructed
  | threw
  | ended
  deriving DecidableEq, Repr

structure Ended where
  thread : Nat
  outcome : Outcome
  deriving DecidableEq, Repr

/-- `System.loadLibrary` and `native_init`. -/
def classInit : Native Ended := do
  let t ← newThread
  let _ ← enter t []
  jniOnLoad t
  let _ ← leave t
  let _ ← enter t [.classOf .nativeClass]
  nativeInit t
  let thrown ← leave t
  return ⟨t, if thrown then .threw else .initialized⟩

/-- The constructor makes a `JavaClass` and hands it over. -/
def newNativeClass : Native Ended := do
  let t ← newThread
  let args ← enter t [.instanceOf .nativeClass, .instanceOf .javaClass]
  nativeSetup t args[1]?
  let thrown ← leave t
  return ⟨t, if thrown then .threw else .constructed⟩

def startedThread (created : Bool) : Native Ended := do
  let t ← newThread
  if created then threadFun t
  return ⟨t, .ended⟩

def Task.body : Task → Native Ended
  | .loadClass => classInit
  | .construct => newNativeClass
  | .startThread created => startedThread created

abbrev App := System LibOp.Reply Ended Library

def App.init : App := ⟨Library.init, []⟩

def endedWith (outcome : Outcome) : Native Ended → Bool
  | .done e => e.outcome = outcome
  | .act _ _ => false

/-- `pthread_create` stores its handle in element `thread_count` of `pt`, which
has to be one of its elements, and `thread_count++` follows whatever the result. -/
def Library.storeHandle (s : Library) : Option Library :=
  if s.threadCount < numThreads then some { s with threadCount := s.threadCount + 1 } else none

def App.starts (s : App) : Task → Option Library
  | .loadClass => if s.threads.isEmpty then some s.shared else none
  | .construct => if s.threads.any (endedWith .initialized) then some s.shared else none
  | .startThread _ =>
    if s.threads.any (endedWith .constructed) then s.shared.storeHandle else none

structure Own.Initialized (r : Own) : Prop where
  vm : r.vm = true
  cardClazz : .cardClazz ∈ r.refs
  cardObject : .cardObject ∈ r.refs

structure Own.Constructed (r : Own) : Prop extends r.Initialized where
  mObject : .mObject ∈ r.refs
  recvEnvent : .recvEnvent ∈ r.ids

abbrev Triple {α : Type} (r : Own) (p : Native α) (Q : α → Own → Prop) : Prop :=
  Safe Library.does sharing Q p r

section
variable {r : Own} {t : Nat} {f : Frame} {o : Obj}

@[simp] theorem Own.frames_setFrame : (r.setFrame t f).frames t = some f :=
  Function.update_self _ _ _

@[simp] theorem Own.globals_setFrame : (r.setFrame t f).globals = r.globals := rfl

theorem Own.Initialized.setFrame (h : r.Initialized) : (r.setFrame t f).Initialized :=
  ⟨h.vm, h.cardClazz, h.cardObject⟩

theorem Own.Constructed.setFrame (h : r.Constructed) : (r.setFrame t f).Constructed :=
  ⟨h.toInitialized.setFrame, h.mObject, h.recvEnvent⟩

theorem Frame.alive_push :
    (f.push o).locals.countP Option.isSome = f.locals.countP Option.isSome + 1 := by
  simp [Frame.push]

theorem Frame.room_push {n : Nat} (room : f.room (n + 1)) : (f.push o).room n := by
  rw [Frame.room, Frame.alive_push]
  rw [Frame.room] at room
  omega

theorem Frame.room_le {m n : Nat} (room : f.room n) (less : m ≤ n) : f.room m := by
  rw [Frame.room] at room ⊢
  omega

end

theorem notify_triple {Q : Unit → Own → Prop} {r : Own} {t : Nat} {f : Frame}
    (own : r.frames t = some f) (ready : f.ready) (room : f.room 2) (made : r.Constructed)
    (after : ∀ r' : Own,
      r'.frames t = some ((f.push (.instanceOf .bytes)).push (.instanceOf .ints)) →
      r'.Constructed → Q () r') : Triple r (notify t) Q := by
  refine Safe.bind (safe_getRef made.cardClazz fun i first => Safe.bind ?_)
  refine safe_getRef made.cardObject fun j second => ?_
  have clazz : ((r.see i RefVar.cardClazz.object).see j RefVar.cardObject.object).Sees t f
      (some (.global i)) (.classOf .commData) :=
    (sees_global (Function.update_self _ _ _)).see second
  have object : ((r.see i RefVar.cardClazz.object).see j RefVar.cardObject.object).Sees t f
      (some (.global j)) (.instanceOf .commData) :=
    sees_global (Function.update_self _ _ _)
  -- the two arrays
  refine Safe.bind (safe_getID (m := ⟨.commData, .field, "buffer", "[B"⟩) (by decide) own ready
    clazz (Safe.bind ?_))
  refine safe_newArray own ready (Frame.room_le room (by decide)) (Safe.bind ?_)
  refine safe_onArray Own.frames_setFrame ready sees_new (Safe.bind ?_)
  refine safe_setObjectField rfl (v := .bytes) rfl Own.frames_setFrame ready object.push sees_new
    (Safe.bind ?_)
  refine safe_getID (m := ⟨.commData, .field, "size", "[I"⟩) (by decide) Own.frames_setFrame ready
    clazz.push (Safe.bind ?_)
  refine safe_newArray Own.frames_setFrame ready (Frame.room_push room) (Safe.bind ?_)
  refine safe_onArray Own.frames_setFrame ready sees_new (Safe.bind ?_)
  refine safe_setObjectField rfl (v := .ints) rfl Own.frames_setFrame ready object.push.push
    sees_new (Safe.bind ?_)
  -- the call of `recv`
  refine safe_getRef made.mObject fun k third => Safe.bind ?_
  refine safe_getId made.recvEnvent (Safe.bind ?_)
  refine safe_callIntMethod rfl rfl Own.frames_setFrame ready
    (sees_global (Function.update_self _ _ _)) (sees_new.push.see third) (Safe.bind ?_)
  -- the elements, given and taken back
  refine safe_onArray Own.frames_setFrame ready (sees_new.push.see third) (Safe.bind ?_)
  refine safe_onArray Own.frames_setFrame ready (sees_new.see third) (Safe.bind ?_)
  refine safe_onArray Own.frames_setFrame ready (sees_new.push.see third) ?_
  refine safe_onArray Own.frames_setFrame ready (sees_new.see third) ?_
  refine after _ Own.frames_setFrame ?_
  exact ⟨⟨made.vm, made.cardClazz, made.cardObject⟩, made.mObject, made.recvEnvent⟩

/-- The most operations that a thread makes, however it is answered. -/
def Task.bound : Task → Nat
  | .loadClass => 18
  | .construct => 10
  | .startThread _ => 40

end NdkThreadSample.NativeLib.Checked

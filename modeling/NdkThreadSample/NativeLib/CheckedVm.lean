import NdkThreadSample.Library.Interleaving
import NdkThreadSample.Library.OwnedStore

/-!
The Java VM as it checks the library's calls. A call fails that is made without
an environment or with an exception pending, names an object by a reference that
is NULL, freed or local to another thread, uses an id that is NULL or of another
class, or needs more local references than JNI guarantees.
-/

namespace NdkThreadSample.NativeLib.Checked
open Interleaving OwnedStore

inductive JClass
  | nativeClass
  | commData
  | javaClass
  | bytes
  | ints
  deriving DecidableEq, Repr

def JClass.name : JClass → String
  | .nativeClass => "com/luowei/ndkthreadsample/NativeClass"
  | .commData => "com/luowei/ndkthreadsample/CommData"
  | .javaClass => "com/luowei/ndkthreadsample/JavaClass"
  | .bytes => "[B"
  | .ints => "[I"

/-- What `FindClass` finds of the application. -/
def classes : List JClass := [.nativeClass, .commData, .javaClass]

inductive MemberKind
  | staticMethod
  | method
  | field
  deriving DecidableEq, Repr

structure Member where
  owner : JClass
  kind : MemberKind
  name : String
  signature : String
  deriving DecidableEq, Repr

/-- The methods and the instance fields of the three classes. -/
def members : List Member :=
  [⟨.nativeClass, .method, "<init>", "()V"⟩,
    ⟨.nativeClass, .staticMethod, "native_init", "()V"⟩,
    ⟨.nativeClass, .method, "native_setup", "(Ljava/lang/Object;)V"⟩,
    ⟨.nativeClass, .method, "start_thread", "()V"⟩,
    ⟨.nativeClass, .staticMethod, "postEventFromNative",
      "(Ljava/lang/Object;ILjava/lang/Object;)V"⟩,
    ⟨.nativeClass, .field, "transmit", "Lcom/luowei/ndkthreadsample/JavaClass;"⟩,
    ⟨.commData, .method, "<init>", "()V"⟩,
    ⟨.commData, .field, "buffer", "[B"⟩,
    ⟨.commData, .field, "size", "[I"⟩,
    ⟨.javaClass, .method, "<init>", "()V"⟩,
    ⟨.javaClass, .method, "send", "([BI)I"⟩,
    ⟨.javaClass, .method, "recv", "([BI)I"⟩]

inductive Obj
  | classOf (c : JClass)
  | instanceOf (c : JClass)
  deriving DecidableEq, Repr

/-- A local reference says which thread it was made on. -/
inductive Ref
  | global (id : Nat)
  | localTo (thread id : Nat)
  deriving DecidableEq, Repr

/-- Whether a thread has an environment: not, by attaching itself, or for a
native method that Java has called. -/
inductive Mode
  | away
  | attached
  | called
  deriving DecidableEq, Repr

/-- A freed local reference stays as `none`, so that its id is not used again. -/
structure Frame where
  mode : Mode
  pending : Bool
  locals : List (Option Obj)
  deriving DecidableEq, Repr

def Frame.fresh : Frame := ⟨.away, false, []⟩

def Frame.entered (f : Frame) (args : List Obj) : Frame :=
  ⟨.called, false, f.locals ++ args.map some⟩

def Frame.argRefs (f : Frame) (t : Nat) (args : List Obj) : List Ref :=
  args.mapIdx fun i _ => .localTo t (f.locals.length + i)

def Frame.freed (f : Frame) : Frame := ⟨.away, false, f.locals.map fun _ => none⟩

def Frame.throw (f : Frame) : Frame := { f with pending := true }

def Frame.push (f : Frame) (o : Obj) : Frame := { f with locals := f.locals ++ [some o] }

def Frame.room (f : Frame) (n : Nat) : Prop := f.locals.countP Option.isSome + n ≤ 16

instance (f : Frame) (n : Nat) : Decidable (f.room n) := Nat.decLe _ _

def Frame.ready (f : Frame) : Prop := f.mode ≠ .away ∧ f.pending = false

instance (f : Frame) : Decidable f.ready := instDecidableAnd

def deref (globals : List Obj) (t : Nat) (f : Frame) : Option Ref → Option Obj
  | none => none
  | some (.global i) => globals[i]?
  | some (.localTo thread i) => if thread = t then (f.locals[i]?).join else none

inductive ArrayFunction
  | setArrayRegion
  | getArrayElements
  | releaseArrayElements
  deriving DecidableEq, Repr

inductive JniFunction
  | findClass (name : String)
  | getID (kind : MemberKind) (clazz : Option Ref) (name signature : String)
  | newObject (clazz : Option Ref) (constructor : Option Member)
  | newArray (c : JClass)
  | onArray (function : ArrayFunction) (c : JClass) (array : Option Ref)
  | setObjectField (object : Option Ref) (field : Option Member) (value : Option Ref)
  | callIntMethod (object : Option Ref) (method : Option Member) (array : Option Ref)
  deriving DecidableEq, Repr

abbrev JniFunction.Reply : JniFunction → Type
  | .findClass .. | .newObject .. | .newArray .. => Option Ref
  | .getID .. => Option Member
  | .onArray .. | .setObjectField .. | .callIntMethod .. => Unit

/-- A new local reference. -/
def Frame.make (f : Frame) (t : Nat) (o : Obj) : Option (Option Ref × Frame) :=
  if f.room 1 then some (some (.localTo t f.locals.length), f.push o) else none

/-- A JNI function changes the frame of its thread only. What is in an array and
what a method returns is left out; no method that is called throws, since the
arrays are long enough for `recv`. -/
def Frame.call (globals : List Obj) (t : Nat) (f : Frame) :
    (function : JniFunction) → Option (function.Reply × Frame)
  | .findClass name =>
    match classes.find? fun c => c.name = name with
    | some c => f.make t (.classOf c)
    | none => some (none, f.throw)
  | .getID kind clazz name signature =>
    match deref globals t f clazz with
    | some (.classOf c) =>
      let member : Member := ⟨c, kind, name, signature⟩
      if member ∈ members then some (some member, f) else some (none, f.throw)
    | _ => none
  | .newObject clazz constructor =>
    match deref globals t f clazz with
    | some (.classOf c) =>
      if constructor = some ⟨c, .method, "<init>", "()V"⟩ then f.make t (.instanceOf c) else none
    | _ => none
  | .newArray c => f.make t (.instanceOf c)
  | .onArray _ c array =>
    if deref globals t f array = some (.instanceOf c) then some ((), f) else none
  | .setObjectField object field value =>
    match deref globals t f object, field, deref globals t f value with
    | some (.instanceOf c), some m, some (.instanceOf v) =>
      if m.owner = c ∧ m.kind = .field ∧ m.signature = v.name then some ((), f) else none
    | _, _, _ => none
  | .callIntMethod object method array =>
    match deref globals t f object, method with
    | some (.instanceOf c), some m =>
      if m.owner = c ∧ m.kind = .method ∧ m.signature = "([BI)I" ∧
          deref globals t f array = some (.instanceOf .bytes) then some ((), f) else none
    | _, _ => none

/-! The library's variables that calls share, and the VM behind them. -/

inductive IdVar
  | postEvent
  | sendEnvent
  | recvEnvent
  deriving DecidableEq, Repr

inductive RefVar
  | cardObject
  | cardClazz
  | mObject
  deriving DecidableEq, Repr

structure Library where
  sVm : Bool
  threadCount : Nat
  ids : IdVar → Option Member
  refs : RefVar → Option Ref
  globals : List Obj
  frames : List Frame

def Library.init : Library := ⟨false, 0, fun _ => none, fun _ => none, [], []⟩

inductive LibOp
  | newThread
  | enter (t : Nat) (args : List Obj)
  | leave (t : Nat)
  | setVm
  | getEnv (t : Nat)
  | attach (t : Nat)
  | detach (t : Nat)
  | jni (t : Nat) (function : JniFunction)
  | newGlobalRef (t : Nat) (ref : Option Ref)
  | getId (v : IdVar)
  | setId (v : IdVar) (id : Option Member)
  | getRef (v : RefVar)
  | setRef (v : RefVar) (ref : Option Ref)

abbrev LibOp.Reply : LibOp → Type
  | .newThread => Nat
  | .enter .. => List Ref
  | .leave _ | .getEnv _ | .attach _ => Bool
  | .setVm | .detach _ | .setId .. | .setRef .. => Unit
  | .jni _ function => function.Reply
  | .newGlobalRef .. | .getRef _ => Option Ref
  | .getId _ => Option Member

def Library.setFrame (s : Library) (t : Nat) (f : Frame) : Library :=
  { s with frames := s.frames.set t f }

/-- Whether a thread can be attached is open. -/
def Library.does (s : Library) : (op : LibOp) → Bool → Option (op.Reply × Library)
  | .newThread, _ => some (s.frames.length, { s with frames := s.frames ++ [.fresh] })
  | .enter t args, _ =>
    match s.frames[t]? with
    | some f =>
      if f.mode = .away then some (f.argRefs t args, s.setFrame t (f.entered args)) else none
    | none => none
  | .leave t, _ =>
    match s.frames[t]? with
    | some f => if f.mode = .called then some (f.pending, s.setFrame t f.freed) else none
    | none => none
  | .setVm, _ => some ((), { s with sVm := true })
  | .getEnv t, _ =>
    match s.frames[t]? with
    | some f => if s.sVm then some (decide (f.mode ≠ .away), s) else none
    | none => none
  | .attach t, choice =>
    match s.frames[t]? with
    | some f =>
      if s.sVm then
        if f.mode ≠ .away then some (true, s)
        else if choice then some (true, s.setFrame t { f with mode := .attached })
        else some (false, s)
      else none
    | none => none
  | .detach t, _ =>
    match s.frames[t]? with
    | some f =>
      if s.sVm ∧ f.mode = .attached then some ((), s.setFrame t f.freed) else none
    | none => none
  | .jni t function, _ =>
    match s.frames[t]? with
    | some f =>
      if f.ready then (f.call s.globals t function).map fun (reply, f) => (reply, s.setFrame t f)
      else none
    | none => none
  | .newGlobalRef t ref, _ =>
    match s.frames[t]? with
    | some f =>
      if f.ready then
        match ref with
        | none => some (none, s)
        | some r =>
          (deref s.globals t f (some r)).map fun o =>
            (some (.global s.globals.length), { s with globals := s.globals ++ [o] })
      else none
    | none => none
  | .getId v, _ => some (s.ids v, s)
  | .setId v id, _ => some ((), { s with ids := Function.update s.ids v id })
  | .getRef v, _ => some (s.refs v, s)
  | .setRef v ref, _ => some ((), { s with refs := Function.update s.refs v ref })

abbrev Native := Prog LibOp.Reply

def newThread : Native Nat := perform LibOp.newThread

def enter (t : Nat) (args : List Obj) : Native (List Ref) := perform (LibOp.enter t args)

def leave (t : Nat) : Native Bool := perform (LibOp.leave t)

def setVm : Native Unit := perform LibOp.setVm

def getEnv (t : Nat) : Native Bool := perform (LibOp.getEnv t)

def attachCurrentThread (t : Nat) : Native Bool := perform (LibOp.attach t)

def detachCurrentThread (t : Nat) : Native Unit := perform (LibOp.detach t)

def jni (t : Nat) (function : JniFunction) : Native function.Reply :=
  perform (LibOp.jni t function)

def newGlobalRef (t : Nat) (ref : Option Ref) : Native (Option Ref) :=
  perform (LibOp.newGlobalRef t ref)

def getId (v : IdVar) : Native (Option Member) := perform (LibOp.getId v)

def setId (v : IdVar) (id : Option Member) : Native Unit := perform (LibOp.setId v id)

def getRef (v : RefVar) : Native (Option Ref) := perform (LibOp.getRef v)

def setRef (v : RefVar) (ref : Option Ref) : Native Unit := perform (LibOp.setRef v ref)

/-! What a thread owns and knows, and one rule for each operation. -/

def IdVar.expected : IdVar → Member
  | .postEvent => ⟨.nativeClass, .staticMethod, "postEventFromNative",
      "(Ljava/lang/Object;ILjava/lang/Object;)V"⟩
  | .sendEnvent => ⟨.javaClass, .method, "send", "([BI)I"⟩
  | .recvEnvent => ⟨.javaClass, .method, "recv", "([BI)I"⟩

def RefVar.object : RefVar → Obj
  | .cardObject => .instanceOf .commData
  | .cardClazz => .classOf .commData
  | .mObject => .instanceOf .javaClass

/-- A variable that is set has the right id or a global reference to the right
object. -/
structure Library.Fits (s : Library) : Prop where
  ids : ∀ v m, s.ids v = some m → m = v.expected
  refs : ∀ v r, s.refs v = some r → ∃ i, r = .global i ∧ s.globals[i]? = some v.object

/-- The frame of a thread, global references that it has seen and variables
that it knows to be set. -/
structure Own where
  frames : Nat → Option Frame
  globals : Nat → Option Obj
  vm : Bool
  ids : List IdVar
  refs : List RefVar

def Own.nothing : Own := ⟨fun _ => none, fun _ => none, false, [], []⟩

structure Library.Holds (s : Library) (r : Own) : Prop where
  frames : Held s.frames r.frames
  globals : Held s.globals r.globals
  vm : r.vm = true → s.sVm = true
  ids : ∀ v ∈ r.ids, (s.ids v).isSome = true
  refs : ∀ v ∈ r.refs, (s.refs v).isSome = true

def sharing : Sharing Library Own where
  inv := Library.Fits
  holds := Library.Holds
  apart r o := Apart r.frames o.frames
  idle := .nothing
  symm _ _ h := h.symm
  idle_held _ := by
    refine ⟨?_, ?_, ?_, ?_, ?_⟩
    · intro _ _ h
      cases h
    · intro _ _ h
      cases h
    · intro h
      cases h
    · intro _ h
      cases h
    · intro _ h
      cases h
  idle_apart _ _ := .inr rfl

def Own.setFrame (r : Own) (t : Nat) (f : Frame) : Own :=
  { r with frames := Function.update r.frames t (some f) }

def Own.see (r : Own) (i : Nat) (o : Obj) : Own :=
  { r with globals := Function.update r.globals i (some o) }

/-- The thread can tell that the reference names the object. -/
def Own.Sees (r : Own) (t : Nat) (f : Frame) (ref : Option Ref) (o : Obj) : Prop :=
  ∀ globals, Held globals r.globals → deref globals t f ref = some o

section
variable {r : Own} {t i : Nat} {f : Frame} {ref : Option Ref} {o o' : Obj}

theorem sees_global (seen : r.globals i = some o) : r.Sees t f (some (.global i)) o :=
  fun _ held => held i o seen

theorem sees_new : r.Sees t (f.push o) (some (.localTo t f.locals.length)) o := by
  intro globals _
  simp [deref, Frame.push]

theorem Own.Sees.push (h : r.Sees t f ref o) : r.Sees t (f.push o') ref o := by
  intro globals held
  have live := h globals held
  cases ref with
  | none => cases live
  | some ref =>
      cases ref with
      | global i => exact live
      | localTo thread i =>
          obtain ⟨same, found⟩ := Option.ite_none_right_eq_some.mp live
          have inside : i < f.locals.length := by
            by_contra beyond
            rw [List.getElem?_eq_none (by omega)] at found
            cases found
          simp only [deref, Frame.push, if_pos same, List.getElem?_append_left inside]
          exact found

/-- What a thread sees more of does not contradict what it has seen. -/
theorem Own.Sees.see (h : r.Sees t f ref o)
    (agrees : r.globals i = none ∨ r.globals i = some o') : (r.see i o').Sees t f ref o := by
  intro globals held
  refine h globals fun j x seen => held j x ?_
  by_cases same : j = i
  · subst same
    cases agrees with
    | inl none_ => cases none_.symm.trans seen
    | inr known =>
        cases known.symm.trans seen
        exact Function.update_self _ _ _
  · exact (Function.update_of_ne same _ _).trans seen

end

/-! A variable that is set to something stays set. -/

section
variable {ι α : Type} [DecidableEq ι] {vars : ι → Option α} {v w : ι} {x y : α} {known : List ι}

theorem update_eq_some (set : Function.update vars v (some x) w = some y) :
    (w = v ∧ y = x) ∨ vars w = some y := by
  by_cases same : w = v
  · subst same
    rw [Function.update_self] at set
    exact .inl ⟨rfl, (Option.some.inj set).symm⟩
  · rw [Function.update_of_ne same] at set
    exact .inr set

end

section
variable {s : Library} {r : Own} {t : Nat} {f f' : Frame} {i : Nat} {o : Obj}

theorem moves_same (inv : s.Fits) (held : s.Holds r) : sharing.Moves s r s r :=
  ⟨inv, held, fun _ other apart => ⟨other, apart⟩⟩

/-- A step at the own frame. -/
theorem moves_setFrame (inv : s.Fits) (held : s.Holds r) (own : r.frames t = some f)
    (f' : Frame) : sharing.Moves s r (s.setFrame t f') (r.setFrame t f') := by
  refine ⟨⟨inv.ids, inv.refs⟩, ?_, ?_⟩
  · exact ⟨held.frames.set own f', held.globals, held.vm, held.ids, held.refs⟩
  · intro o other apart
    have free : o.frames t = none := apart.owns_not own
    refine ⟨⟨?_, other.globals, other.vm, other.ids, other.refs⟩, apart.update free _⟩
    exact other.frames.set_other free f'

/-- A JNI function whose checks pass for all that the thread sees. -/
theorem safe_jni {function : JniFunction} {Q : function.Reply → Own → Prop}
    {reply : function.Reply} (own : r.frames t = some f) (ready : f.ready)
    (accepted : ∀ globals, Held globals r.globals →
      f.call globals t function = some (reply, f'))
    (after : Q reply (r.setFrame t f')) :
    Safe Library.does sharing Q (jni t function) r := by
  refine Safe.perform (LibOp.jni t function) ?_
  intro s choice inv held
  have done : s.does (.jni t function) choice = some (reply, s.setFrame t f') := by
    simp only [Library.does, held.frames t f own, if_pos ready, accepted _ held.globals]
    rfl
  exact ⟨_, _, _, done, moves_setFrame inv held own f', after⟩

theorem Own.setFrame_eq (own : r.frames t = some f) : r.setFrame t f = r := by
  rw [Own.setFrame, ← own, Function.update_eq_self]

/-- The same for a function that leaves the frame as it is. -/
theorem safe_check {function : JniFunction} {Q : function.Reply → Own → Prop}
    {reply : function.Reply} (own : r.frames t = some f) (ready : f.ready)
    (accepted : ∀ globals, Held globals r.globals →
      f.call globals t function = some (reply, f))
    (after : Q reply r) : Safe Library.does sharing Q (jni t function) r := by
  refine safe_jni own ready accepted ?_
  rw [Own.setFrame_eq own]
  exact after

theorem safe_getID {Q : Option Member → Own → Prop} {m : Member} {clazz : Option Ref}
    (member : m ∈ members) (own : r.frames t = some f) (ready : f.ready)
    (live : r.Sees t f clazz (.classOf m.owner)) (after : Q (some m) r) :
    Safe Library.does sharing Q (jni t (.getID m.kind clazz m.name m.signature)) r := by
  refine safe_check own ready ?_ after
  intro globals held
  simp only [Frame.call, live globals held, if_pos member]

theorem safe_newArray {Q : Option Ref → Own → Prop} {c : JClass}
    (own : r.frames t = some f) (ready : f.ready) (room : f.room 1)
    (after : Q (some (.localTo t f.locals.length)) (r.setFrame t (f.push (.instanceOf c)))) :
    Safe Library.does sharing Q (jni t (.newArray c)) r := by
  refine safe_jni own ready ?_ after
  intro globals _
  simp only [Frame.call, Frame.make, if_pos room]

theorem safe_onArray {Q : Unit → Own → Prop} {function : ArrayFunction} {c : JClass}
    {array : Option Ref} (own : r.frames t = some f) (ready : f.ready)
    (live : r.Sees t f array (.instanceOf c)) (after : Q () r) :
    Safe Library.does sharing Q (jni t (.onArray function c array)) r := by
  refine safe_check own ready ?_ after
  intro globals held
  simp only [Frame.call, live globals held, if_true]

theorem safe_setObjectField {Q : Unit → Own → Prop} {m : Member} {v : JClass}
    {object value : Option Ref} (field : m.kind = .field) (fits : m.signature = v.name)
    (own : r.frames t = some f) (ready : f.ready)
    (live : r.Sees t f object (.instanceOf m.owner))
    (stored : r.Sees t f value (.instanceOf v)) (after : Q () r) :
    Safe Library.does sharing Q (jni t (.setObjectField object (some m) value)) r := by
  refine safe_check own ready ?_ after
  intro globals held
  simp only [Frame.call, live globals held, stored globals held, field, fits, and_self, if_true]

theorem safe_callIntMethod {Q : Unit → Own → Prop} {m : Member} {object array : Option Ref}
    (method : m.kind = .method) (fits : m.signature = "([BI)I") (own : r.frames t = some f)
    (ready : f.ready) (live : r.Sees t f object (.instanceOf m.owner))
    (passed : r.Sees t f array (.instanceOf .bytes)) (after : Q () r) :
    Safe Library.does sharing Q (jni t (.callIntMethod object (some m) array)) r := by
  refine safe_check own ready ?_ after
  intro globals held
  simp only [Frame.call, live globals held, method, fits, passed globals held, and_self, if_true]

theorem safe_getId {Q : Option Member → Own → Prop} {v : IdVar} (known : v ∈ r.ids)
    (after : Q (some v.expected) r) : Safe Library.does sharing Q (getId v) r := by
  refine Safe.perform (LibOp.getId v) ?_
  intro s choice inv held
  obtain ⟨m, set⟩ := Option.isSome_iff_exists.mp (held.ids v known)
  rw [← inv.ids v m set, ← set] at after
  exact ⟨_, _, _, rfl, moves_same inv held, after⟩

/-- The reference is global, and the thread sees what it names. -/
theorem safe_getRef {Q : Option Ref → Own → Prop} {v : RefVar} (known : v ∈ r.refs)
    (after : ∀ i, r.globals i = none ∨ r.globals i = some v.object →
      Q (some (.global i)) (r.see i v.object)) :
    Safe Library.does sharing Q (getRef v) r := by
  refine Safe.perform (LibOp.getRef v) ?_
  intro s choice inv held
  obtain ⟨ref, set⟩ := Option.isSome_iff_exists.mp (held.refs v known)
  obtain ⟨i, rfl, found⟩ := inv.refs v ref set
  have agrees : r.globals i = none ∨ r.globals i = some v.object := by
    cases seen : r.globals i with
    | none => exact .inl rfl
    | some o => exact .inr ((held.globals i o seen).symm.trans found)
  have done : s.does (.getRef v) choice = some (some (.global i), s) :=
    congrArg (fun ref => some (ref, s)) set
  refine ⟨_, _, r.see i v.object, done,
    ⟨inv, ?_, fun _ other apart => ⟨other, apart⟩⟩, after i agrees⟩
  refine ⟨held.frames, ?_, held.vm, held.ids, held.refs⟩
  intro j o seen
  cases update_eq_some seen with
  | inl new =>
      rw [new.1, new.2]
      exact found
  | inr old => exact held.globals j o old

end

end NdkThreadSample.NativeLib.Checked

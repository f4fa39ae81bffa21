import NdkThreadSample.Library.LabelledRun

/-!
The threads that `start_thread` makes. A call uses the global counter for the
slot of the handle and for the argument of the new thread and then increments
it; `thread_fun` passes the counter, not its argument, to `notify`. A step is
one read or write of the counter, or what a thread does between two of them.
The calls come one after the other, since they are made by one thread of the
application.
-/

namespace NdkThreadSample.NativeLib
open LabelledRun

def numThreads : Nat := 5

/-- How far the current call of `start_thread` is, with the values it has read. -/
inductive CallPc
  | idle
  | slotRead (slot : Nat)
  | argRead (slot arg : Nat)
  | created
  | countRead (count : Nat)
  deriving DecidableEq, Repr

inductive WorkerPc
  | loop
  | ready
  | finished
  deriving DecidableEq, Repr

/-- A thread in `thread_fun`. `call` is the call that made it and `codes` are
what its calls of `notify` were given. -/
structure Worker where
  call : Nat
  slot : Nat
  arg : Nat
  c : Nat
  isAttached : Bool
  pc : WorkerPc
  codes : List Nat
  deriving DecidableEq, Repr

/-- A handle that a call has stored in `pt`. -/
structure Stored where
  slot : Nat
  call : Nat
  deriving DecidableEq, Repr

/-- `calls` is the number of calls that have returned. -/
structure State where
  threadCount : Nat
  pt : List Stored
  pc : CallPc
  calls : Nat
  workers : List Worker
  deriving DecidableEq, Repr

def State.init : State := ⟨0, [], .idle, 0, []⟩

inductive Event
  | readSlot
  | readArg
  | create (ok : Bool)
  | readCount
  | writeCount
  | turn (worker : Nat) (attaches : Bool)
  | notify (worker : Nat)
  deriving DecidableEq, Repr

def startWorker (call slot arg : Nat) : Worker := ⟨call, slot, arg, 2, false, .loop, []⟩

/-- `while (c--)` up to the call of `notify`, or to the end of the thread. -/
def Worker.turn (w : Worker) (attaches : Bool) : Option Worker :=
  match w.pc with
  | .loop =>
    if w.c = 0 then some { w with isAttached := false, pc := .finished } else
    let w := { w with c := w.c - 1 }
    if w.isAttached then some { w with pc := .ready }
    else if attaches then some { w with isAttached := true, pc := .ready }
    else some { w with pc := .finished }
  | _ => none

def Worker.notify (w : Worker) (threadCount : Nat) : Option Worker :=
  match w.pc with
  | .ready => some { w with pc := .loop, codes := w.codes ++ [threadCount] }
  | _ => none

def step (s : State) : Event → Option State
  | .readSlot =>
    match s.pc with
    | .idle => some { s with pc := .slotRead s.threadCount }
    | _ => none
  | .readArg =>
    match s.pc with
    | .slotRead slot => some { s with pc := .argRead slot s.threadCount }
    | _ => none
  | .create ok =>
    match s.pc with
    | .argRead slot arg =>
      if ok then
        some { s with
          pc := .created
          pt := s.pt ++ [⟨slot, s.calls⟩]
          workers := s.workers ++ [startWorker s.calls slot arg] }
      -- without a thread nothing is stored, and the counter goes on all the same
      else some { s with pc := .created }
    | _ => none
  | .readCount =>
    match s.pc with
    | .created => some { s with pc := .countRead s.threadCount }
    | _ => none
  | .writeCount =>
    match s.pc with
    | .countRead count =>
      some { s with pc := .idle, threadCount := count + 1, calls := s.calls + 1 }
    | _ => none
  | .turn i attaches => do
    let w ← s.workers[i]?
    let w ← w.turn attaches
    return { s with workers := s.workers.set i w }
  | .notify i => do
    let w ← s.workers[i]?
    let w ← w.notify s.threadCount
    return { s with workers := s.workers.set i w }

/-! What a step does. -/

def CallPc.read : CallPc → List Nat
  | .idle | .created => []
  | .slotRead slot => [slot]
  | .argRead slot arg => [slot, arg]
  | .countRead count => [count]

/-- The same thread, further on. -/
structure SameThread (w w' : Worker) : Prop where
  call : w'.call = w.call
  slot : w'.slot = w.slot
  arg : w'.arg = w.arg

inductive Effect (s : State) : Event → State → Prop
  | readSlot : Effect s .readSlot { s with pc := .slotRead s.threadCount }
  | readArg {slot : Nat} (at_ : s.pc = .slotRead slot) :
      Effect s .readArg { s with pc := .argRead slot s.threadCount }
  | refused : Effect s (.create false) { s with pc := .created }
  | created {slot arg : Nat} (at_ : s.pc = .argRead slot arg) :
      Effect s (.create true)
        { s with
          pc := .created
          pt := s.pt ++ [⟨slot, s.calls⟩]
          workers := s.workers ++ [startWorker s.calls slot arg] }
  | readCount : Effect s .readCount { s with pc := .countRead s.threadCount }
  | writeCount {count : Nat} (at_ : s.pc = .countRead count) :
      Effect s .writeCount
        { s with pc := .idle, threadCount := count + 1, calls := s.calls + 1 }
  | turn {i : Nat} {attaches : Bool} {w w' : Worker} (found : s.workers[i]? = some w)
      (same : SameThread w w') (codes : w'.codes = w.codes) :
      Effect s (.turn i attaches) { s with workers := s.workers.set i w' }
  | notify {i : Nat} {w w' : Worker} (found : s.workers[i]? = some w) (same : SameThread w w')
      (codes : w'.codes = w.codes ++ [s.threadCount]) :
      Effect s (.notify i) { s with workers := s.workers.set i w' }

theorem Worker.turn_same {w w' : Worker} {attaches : Bool} (h : w.turn attaches = some w') :
    SameThread w w' ∧ w'.codes = w.codes := by
  unfold Worker.turn at h
  split at h
  · dsimp only at h
    split_ifs at h <;> (cases h; exact ⟨⟨rfl, rfl, rfl⟩, rfl⟩)
  · cases h

theorem Worker.notify_same {w w' : Worker} {threadCount : Nat}
    (h : w.notify threadCount = some w') :
    SameThread w w' ∧ w'.codes = w.codes ++ [threadCount] := by
  unfold Worker.notify at h
  split at h
  · cases h
    exact ⟨⟨rfl, rfl, rfl⟩, rfl⟩
  · cases h

theorem step_effect {s s' : State} {e : Event} (h : step s e = some s') : Effect s e s' := by
  cases e with
  | readSlot =>
      simp only [step] at h
      split at h <;> cases h
      exact .readSlot
  | readArg =>
      simp only [step] at h
      split at h <;> cases h
      next at_ => exact .readArg at_
  | create ok =>
      simp only [step] at h
      split at h
      · next at_ =>
          cases ok with
          | true =>
              cases h
              exact .created at_
          | false =>
              cases h
              exact .refused
      · cases h
  | readCount =>
      simp only [step] at h
      split at h <;> cases h
      exact .readCount
  | writeCount =>
      simp only [step] at h
      split at h <;> cases h
      next at_ => exact .writeCount at_
  | turn i attaches =>
      obtain ⟨w, found, rest⟩ := Option.bind_eq_some_iff.mp h
      obtain ⟨w', turned, last⟩ := Option.bind_eq_some_iff.mp rest
      cases last
      obtain ⟨same, codes⟩ := Worker.turn_same turned
      exact .turn found same codes
  | notify i =>
      obtain ⟨w, found, rest⟩ := Option.bind_eq_some_iff.mp h
      obtain ⟨w', notified, last⟩ := Option.bind_eq_some_iff.mp rest
      cases last
      obtain ⟨same, codes⟩ := Worker.notify_same notified
      exact .notify found same codes

end NdkThreadSample.NativeLib

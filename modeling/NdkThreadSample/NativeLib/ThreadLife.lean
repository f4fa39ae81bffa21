import Mathlib.Data.List.Basic
import Mathlib.Order.Nat
import NdkThreadSample.NativeLib.WorkerIndex

/-!
The life of a thread. Whatever the other threads and the calls do in between,
the steps of one thread are those of `thread_fun`: it is attached on its first
turn or ends there, notifies twice, and is detached as its last step. What it
reports are counts that only grow, from the number of its own call on. All this
is said of the first `NUMTHREADS` calls: a further one would store its handle
behind `pt`, over whatever lies there.
-/

namespace NdkThreadSample.NativeLib
open LabelledRun

def Event.ofWorker (i : Nat) : Event → Bool
  | .turn j _ | .notify j => i == j
  | _ => false

/-- The thread `i` after its own steps. -/
inductive Stage (i : Nat) : List Event → Worker → Prop
  | started {call slot arg : Nat} : Stage i [] (startWorker call slot arg)
  | refused {call slot arg : Nat} :
      Stage i [.turn i false] ⟨call, slot, arg, 1, false, .finished, []⟩
  | attached {call slot arg : Nat} :
      Stage i [.turn i true] ⟨call, slot, arg, 1, true, .ready, []⟩
  | notified {call slot arg x : Nat} :
      Stage i [.turn i true, .notify i] ⟨call, slot, arg, 1, true, .loop, [x]⟩
  | again {call slot arg x : Nat} {a : Bool} :
      Stage i [.turn i true, .notify i, .turn i a] ⟨call, slot, arg, 0, true, .ready, [x]⟩
  | twice {call slot arg x y : Nat} {a : Bool} :
      Stage i [.turn i true, .notify i, .turn i a, .notify i]
        ⟨call, slot, arg, 0, true, .loop, [x, y]⟩
  | detached {call slot arg x y : Nat} {a b : Bool} :
      Stage i [.turn i true, .notify i, .turn i a, .notify i, .turn i b]
        ⟨call, slot, arg, 0, false, .finished, [x, y]⟩

theorem Stage.turn {i : Nat} {es : List Event} {w w' : Worker} {attaches : Bool}
    (h : Stage i es w) (turned : w.turn attaches = some w') :
    Stage i (es ++ [.turn i attaches]) w' := by
  cases h with
  | started =>
      cases attaches with
      | true =>
          cases turned
          exact .attached
      | false =>
          cases turned
          exact .refused
  | notified =>
      cases turned
      exact .again
  | twice =>
      cases turned
      exact .detached
  | refused | attached | again | detached => cases turned

theorem Stage.notify {i n : Nat} {es : List Event} {w w' : Worker} (h : Stage i es w)
    (told : w.notify n = some w') : Stage i (es ++ [.notify i]) w' := by
  cases h with
  | attached =>
      cases told
      exact .notified
  | again =>
      cases told
      exact .twice
  | started | refused | notified | twice | detached => cases told

/-- How a thread comes out of a step of the whole. -/
inductive WorkerStep (s : State) (i : Nat) : Event → Worker → Prop
  | still {e : Event} {w : Worker} (found : s.workers[i]? = some w) (other : e.ofWorker i = false) :
      WorkerStep s i e w
  | turn {w w' : Worker} {attaches : Bool} (found : s.workers[i]? = some w)
      (turned : w.turn attaches = some w') : WorkerStep s i (.turn i attaches) w'
  | notify {w w' : Worker} (found : s.workers[i]? = some w)
      (told : w.notify s.threadCount = some w') : WorkerStep s i (.notify i) w'
  | new {slot arg : Nat} (last : i = s.workers.length) :
      WorkerStep s i (.create true) (startWorker s.calls slot arg)

theorem step_worker {s s' : State} {e : Event} {i : Nat} {w' : Worker}
    (h : step s e = some s') (found : s'.workers[i]? = some w') : WorkerStep s i e w' := by
  cases e with
  | readSlot | readArg | readCount | writeCount =>
      simp only [step] at h
      split at h <;> cases h
      exact .still found rfl
  | create ok =>
      simp only [step] at h
      split at h
      · cases ok with
        | false =>
            cases h
            exact .still found rfl
        | true =>
            cases h
            by_cases old : i < s.workers.length
            · rw [List.getElem?_append_left old] at found
              exact .still found rfl
            · have inside := (List.getElem?_eq_some_iff.mp found).1
              have last : i = s.workers.length := by simp at inside; omega
              subst last
              rw [List.getElem?_concat_length] at found
              cases found
              exact .new rfl
      · cases h
  | turn j attaches =>
      obtain ⟨w, there, rest⟩ := Option.bind_eq_some_iff.mp h
      obtain ⟨v, turned, last⟩ := Option.bind_eq_some_iff.mp rest
      cases last
      by_cases same : i = j
      · subst same
        rw [List.getElem?_set_self (List.getElem?_eq_some_iff.mp there).1] at found
        cases found
        exact .turn there turned
      · rw [List.getElem?_set_ne (Ne.symm same)] at found
        exact .still found (beq_eq_false_iff_ne.mpr same)
  | notify j =>
      obtain ⟨w, there, rest⟩ := Option.bind_eq_some_iff.mp h
      obtain ⟨v, told, last⟩ := Option.bind_eq_some_iff.mp rest
      cases last
      by_cases same : i = j
      · subst same
        rw [List.getElem?_set_self (List.getElem?_eq_some_iff.mp there).1] at found
        cases found
        exact .notify there told
      · rw [List.getElem?_set_ne (Ne.symm same)] at found
        exact .still found (beq_eq_false_iff_ne.mpr same)

/-- What a thread has reported while the counter was at most `count`. -/
structure Reported (count : Nat) (w : Worker) : Prop where
  made : w.call ≤ count
  grows : w.codes.Pairwise (· ≤ ·)
  low : ∀ code ∈ w.codes, w.call ≤ code
  high : ∀ code ∈ w.codes, code ≤ count

theorem Reported.later {m n : Nat} {w : Worker} (h : Reported m w) (more : m ≤ n) :
    Reported n w :=
  ⟨h.made.trans more, h.grows, h.low, fun code hcode => (h.high code hcode).trans more⟩

theorem Reported.turn {n : Nat} {w w' : Worker} {attaches : Bool} (h : Reported n w)
    (turned : w.turn attaches = some w') : Reported n w' := by
  obtain ⟨same, codes⟩ := Worker.turn_same turned
  refine ⟨?_, ?_, ?_, ?_⟩
  · rw [same.call]
    exact h.made
  · rw [codes]
    exact h.grows
  · rw [codes, same.call]
    exact h.low
  · rw [codes]
    exact h.high

theorem Reported.notify {n : Nat} {w w' : Worker} (h : Reported n w)
    (told : w.notify n = some w') : Reported n w' := by
  obtain ⟨same, codes⟩ := Worker.notify_same told
  refine ⟨?_, ?_, ?_, ?_⟩
  · rw [same.call]
    exact h.made
  · rw [codes, List.pairwise_append]
    refine ⟨h.grows, List.pairwise_singleton _ _, fun code hcode last hlast => ?_⟩
    rw [List.mem_singleton.mp hlast]
    exact h.high code hcode
  · rw [codes, same.call]
    intro code hcode
    rcases List.mem_append.mp hcode with old | new
    · exact h.low code old
    · rw [List.mem_singleton.mp new]
      exact h.made
  · rw [codes]
    intro code hcode
    rcases List.mem_append.mp hcode with old | new
    · exact h.high code old
    · exact (List.mem_singleton.mp new).le

theorem Numbered.count_grows {s s' : State} {e : Event} (h : Numbered s) (effect : Effect s e s') :
    s.threadCount ≤ s'.threadCount := by
  cases effect with
  | writeCount at_ =>
      have read := h.read _ (by rw [at_]; exact List.mem_singleton_self _)
      rw [h.count, read]
      exact Nat.le_succ _
  | readSlot | readArg _ | refused | created _ | readCount | turn _ _ _ | notify _ _ _ =>
      exact Nat.le_refl _

/-! The calls that have begun. -/

def CallPc.begun : CallPc → Nat
  | .idle => 0
  | _ => 1

theorem step_begun {s s' : State} {e : Event} (h : step s e = some s') :
    s'.calls + s'.pc.begun = s.calls + s.pc.begun + [e].count .readSlot := by
  cases e with
  | readSlot | readArg | readCount | writeCount =>
      simp only [step] at h
      split at h <;> cases h
      next at_ => simp [CallPc.begun, at_]
  | create ok =>
      simp only [step] at h
      split at h
      · next at_ => cases ok <;> (cases h; simp [CallPc.begun, at_])
      · cases h
  | turn i attaches | notify i =>
      obtain ⟨w, _, rest⟩ := Option.bind_eq_some_iff.mp h
      obtain ⟨w', _, last⟩ := Option.bind_eq_some_iff.mp rest
      cases last
      rfl

/-- A call stores its handle before it returns. -/
theorem stored_begun {s s' : State} {e : Event} (effect : Effect s e s')
    (h : ∀ stored ∈ s.pt, stored.call < s.calls + s.pc.begun) :
    ∀ stored ∈ s'.pt, stored.call < s.calls + s.pc.begun := by
  cases effect with
  | created at_ =>
      refine List.forall_mem_append.mpr ⟨h, ?_⟩
      simp [CallPc.begun, at_]
  | readSlot | readArg _ | refused | readCount | writeCount _ | turn _ _ _ | notify _ _ _ =>
      exact h

/-- What holds after a run: each thread has come as far as its own steps say. -/
structure Lived (past : List Event) (s : State) : Prop where
  numbered : Numbered s
  begun : s.calls + s.pc.begun = past.count .readSlot
  stored : ∀ h ∈ s.pt, h.call < past.count .readSlot
  unborn : ∀ i, s.workers.length ≤ i → past.filter (Event.ofWorker i) = []
  stage : ∀ i w, s.workers[i]? = some w → Stage i (past.filter (Event.ofWorker i)) w
  reported : ∀ w ∈ s.workers, Reported s.threadCount w

theorem workers_length_grows {s s' : State} {e : Event} (effect : Effect s e s') :
    s.workers.length ≤ s'.workers.length := by
  cases effect with
  | created _ => simp
  | turn _ _ _ | notify _ _ _ => simp
  | readSlot | readArg _ | refused | readCount | writeCount _ => exact Nat.le_refl _

theorem Lived.step {past : List Event} {s s' : State} {e : Event} (h : Lived past s)
    (hs : step s e = some s') : Lived (past ++ [e]) s' := by
  have effect := step_effect hs
  have grows := h.numbered.count_grows effect
  have begun : s'.calls + s'.pc.begun = (past ++ [e]).count .readSlot := by
    rw [step_begun hs, h.begun, List.count_append]
  refine ⟨h.numbered.step effect, begun, ?_, ?_, ?_, ?_⟩
  · intro stored hstored
    have before : ∀ stored ∈ s.pt, stored.call < s.calls + s.pc.begun := by
      rw [h.begun]
      exact h.stored
    have made := stored_begun effect before stored hstored
    rw [h.begun] at made
    rw [List.count_append]
    exact Nat.lt_add_right _ made
  · intro i beyond
    have before := h.unborn i ((workers_length_grows effect).trans beyond)
    rw [List.filter_append, before, List.nil_append, List.filter_singleton]
    cases effect with
    | readSlot | readArg _ | refused | created _ | readCount | writeCount _ => rfl
    | @turn j _ _ _ found _ _ | @notify j _ _ found _ _ =>
        have inside := (List.getElem?_eq_some_iff.mp found).1
        rw [List.length_set] at beyond
        have other : (i == j) = false := beq_eq_false_iff_ne.mpr (by omega)
        simp only [Event.ofWorker, other, cond_false]
  · intro i w found
    rw [List.filter_append, List.filter_singleton]
    cases step_worker hs found with
    | still there other =>
        rw [other]
        simpa using h.stage i w there
    | turn there turned =>
        simpa [Event.ofWorker] using (h.stage i _ there).turn turned
    | notify there told =>
        simpa [Event.ofWorker] using (h.stage i _ there).notify told
    | new last =>
        rw [h.unborn i last.ge]
        exact .started
  · intro w hw
    obtain ⟨i, found⟩ := List.getElem?_of_mem hw
    refine Reported.later ?_ grows
    cases step_worker hs found with
    | still there other => exact h.reported w (List.mem_of_getElem? there)
    | turn there turned => exact (h.reported _ (List.mem_of_getElem? there)).turn turned
    | notify there told => exact (h.reported _ (List.mem_of_getElem? there)).notify told
    | new last =>
        refine ⟨?_, .nil, ?_, ?_⟩
        · exact h.numbered.count.ge
        · intro code none_
          cases none_
        · intro code none_
          cases none_

theorem Lived.init : Lived [] State.init := by
  refine ⟨Numbered.init, rfl, ?_, fun _ _ => rfl, ?_, ?_⟩
  · intro stored hstored
    cases hstored
  · intro i w found
    cases found
  · intro w hw
    cases hw

/-- In every run of at most `NUMTHREADS` calls each handle is stored in `pt`, the
own steps of a thread are those of one life, and what it reports never falls
behind its own call or what it has reported before. -/
theorem each_thread_lives_once (es : List Event) (s : State)
    (run : Run (ofPartial step) State.init es s) (few : es.count .readSlot ≤ numThreads) :
    (∀ h ∈ s.pt, h.slot < numThreads) ∧
      ∀ i w, s.workers[i]? = some w →
        Stage i (es.filter (Event.ofWorker i)) w ∧ Reported s.threadCount w := by
  have lived : Lived ([] ++ es) s :=
    run.history (fun _ _ _ _ lived hs => lived.step hs) Lived.init
  refine ⟨?_, ?_⟩
  · intro h hstored
    rw [lived.numbered.pt h hstored]
    exact (lived.stored h hstored).trans_le few
  · intro i w found
    exact ⟨lived.stage i w found, lived.reported w (List.mem_of_getElem? found)⟩

/-- Two calls, and the steps of their threads between each other. -/
def twoLives : List Event :=
  [.readSlot, .readArg, .create true, .readCount, .turn 0 true, .notify 0, .writeCount, .readSlot,
    .turn 0 true, .readArg, .create true, .turn 1 false, .notify 0, .turn 0 false]

theorem each_thread_lives_once_twoLives :
    ∃ s, Run (ofPartial step) State.init twoLives s ∧ twoLives.count .readSlot ≤ numThreads ∧
      s.workers.length = 2 ∧ (∀ h ∈ s.pt, h.slot < numThreads) ∧
      ∀ i w, s.workers[i]? = some w →
        Stage i (twoLives.filter (Event.ofWorker i)) w ∧ Reported s.threadCount w :=
  have run := Run.ofPartial_get step State.init twoLives (by decide)
  ⟨_, run, by decide, by decide, each_thread_lives_once twoLives _ run (by decide)⟩

end NdkThreadSample.NativeLib

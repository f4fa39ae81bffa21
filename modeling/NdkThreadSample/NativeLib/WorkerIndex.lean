import NdkThreadSample.NativeLib.Threads

/-!
Which index a thread has. The calls follow each other and nothing else writes
the counter, so a call reads its own number both for the slot and for the
argument; the slot is one of `pt` only for the first calls. A thread reports
that number only as long as its own call has not incremented the counter.
-/

namespace NdkThreadSample.NativeLib
open LabelledRun

/-- The thread of call `k` has its handle in element `k` of `pt`, where no other
call stores one, was given `k` and reports `k`. -/
structure OwnsIndex (pt : List Stored) (w : Worker) : Prop where
  slot : w.slot = w.call
  inside : w.slot < numThreads
  stored : ⟨w.slot, w.call⟩ ∈ pt
  alone : ∀ h ∈ pt, h.slot = w.slot → h.call = w.call
  arg : w.arg = w.call
  codes : ∀ code ∈ w.codes, code = w.call

def IndexLaw (s : State) : Prop := ∀ w ∈ s.workers, OwnsIndex s.pt w

/-- A thread is made for one of the first calls only, and passes the counter
on before its own call increments it. -/
def InTime (s : State) : Event → Prop
  | .create true => s.calls < numThreads
  | .notify i => ∀ w, s.workers[i]? = some w → w.call = s.calls
  | _ => True

/-! What holds whether in time or not. -/

structure Numbered (s : State) : Prop where
  count : s.threadCount = s.calls
  read : ∀ n ∈ s.pc.read, n = s.calls
  pt : ∀ h ∈ s.pt, h.slot = h.call
  workers : ∀ w ∈ s.workers, w.slot = w.call ∧ w.arg = w.call ∧ ⟨w.slot, w.call⟩ ∈ s.pt

def Worker.Right (w : Worker) : Prop := w.call < numThreads ∧ ∀ code ∈ w.codes, code = w.call

theorem forall_mem_set {α : Type} {P : α → Prop} {l : List α} {i : Nat} {a b : α}
    (found : l[i]? = some a) (all : ∀ x ∈ l, P x) : (∀ x ∈ l.set i b, P x) ↔ P b := by
  obtain ⟨inside, _⟩ := List.getElem?_eq_some_iff.mp found
  constructor
  · intro h
    exact h b (List.mem_set inside b)
  · intro hb x hx
    cases List.mem_or_eq_of_mem_set hx with
    | inl old => exact all x old
    | inr new => exact new ▸ hb

theorem Numbered.indexLaw_iff {s : State} (h : Numbered s) :
    IndexLaw s ↔ ∀ w ∈ s.workers, w.Right := by
  constructor
  · intro law w hw
    have owns := law w hw
    exact ⟨owns.slot ▸ owns.inside, owns.codes⟩
  · intro right w hw
    obtain ⟨slot, arg, stored⟩ := h.workers w hw
    refine ⟨slot, ?_, stored, ?_, arg, (right w hw).2⟩
    · rw [slot]
      exact (right w hw).1
    · intro other hother same
      rw [← h.pt other hother, same, slot]

theorem Numbered.init : Numbered State.init := by
  refine ⟨rfl, ?_, ?_, ?_⟩ <;> (intro _ h; cases h)

theorem Numbered.step {s s' : State} {e : Event} (h : Numbered s) (effect : Effect s e s') :
    Numbered s' := by
  obtain ⟨count, read, pt, workers⟩ := h
  cases effect with
  | readSlot => exact ⟨count, by simp [CallPc.read, count], pt, workers⟩
  | readArg at_ =>
      have slot := read _ (by rw [at_]; exact List.mem_singleton_self _)
      exact ⟨count, by simp [CallPc.read, count, slot], pt, workers⟩
  | refused => exact ⟨count, by simp [CallPc.read], pt, workers⟩
  | @created slot arg at_ =>
      have hslot : slot = s.calls := read _ (by simp [at_, CallPc.read])
      have harg : arg = s.calls := read _ (by simp [at_, CallPc.read])
      refine ⟨count, by simp [CallPc.read], ?_, ?_⟩
      · intro stored hstored
        rcases List.mem_append.mp hstored with old | new
        · exact pt stored old
        · rw [List.mem_singleton.mp new]
          exact hslot
      · intro w hw
        rcases List.mem_append.mp hw with old | new
        · obtain ⟨hs, ha, hpt⟩ := workers w old
          exact ⟨hs, ha, List.mem_append_left _ hpt⟩
        · rw [List.mem_singleton.mp new]
          exact ⟨hslot, harg, List.mem_append_right _ (List.mem_singleton_self _)⟩
  | readCount => exact ⟨count, by simp [CallPc.read, count], pt, workers⟩
  | @writeCount n at_ =>
      have hn : n = s.calls := read _ (by simp [at_, CallPc.read])
      exact ⟨congrArg (· + 1) hn, by simp [CallPc.read], pt, workers⟩
  | turn found same _ | notify found same _ =>
      refine ⟨count, read, pt, (forall_mem_set found workers).mpr ?_⟩
      obtain ⟨hs, ha, hpt⟩ := workers _ (List.mem_of_getElem? found)
      rw [same.slot, same.arg, same.call]
      exact ⟨hs, ha, hpt⟩

/-- A step keeps the law exactly when it is taken in time. -/
theorem Numbered.keeps_iff {s s' : State} {e : Event} (h : Numbered s)
    (right : ∀ w ∈ s.workers, w.Right) (effect : Effect s e s') :
    (∀ w ∈ s'.workers, w.Right) ↔ InTime s e := by
  cases effect with
  | readSlot | readArg _ | refused | readCount | writeCount _ =>
      exact iff_of_true right trivial
  | created at_ =>
      simp only [InTime, List.forall_mem_append, List.forall_mem_singleton]
      have new (slot arg : Nat) : (startWorker s.calls slot arg).Right ↔ s.calls < numThreads := by
        simp [Worker.Right, startWorker]
      rw [new]
      exact and_iff_right right
  | @turn i attaches w w' found same codes =>
      have old := right _ (List.mem_of_getElem? found)
      have moved : w'.Right := by
        rw [Worker.Right, same.call, codes]
        exact old
      exact iff_of_true ((forall_mem_set found right).mpr moved) trivial
  | @notify i w w' found same codes =>
      have old := right _ (List.mem_of_getElem? found)
      have told : w'.Right ↔ s.threadCount = w.call := by
        rw [Worker.Right, same.call, codes, List.forall_mem_append, List.forall_mem_singleton]
        constructor
        · intro now
          exact now.2.2
        · intro own
          exact ⟨old.1, old.2, own⟩
      rw [forall_mem_set found right, told, h.count]
      simp [InTime, found, eq_comm]

/-- In every run each thread owns the index of its call all along exactly when
threads are made and report in time. -/
theorem workers_own_index_iff (es : List Event) :
    EachPoint (ofPartial step) State.init es (fun _ s => IndexLaw s) ↔
      EachStep (ofPartial step) State.init es (fun _ s e _ => InTime s e) := by
  apply EachPoint.iff_steps (I := fun _ s => Numbered s)
  · intro past s e s' numbered hs
    exact numbered.step (step_effect hs)
  · exact Numbered.init
  · intro w hw
    cases hw
  · intro past s e s' _ numbered law hs
    have effect := step_effect hs
    rw [(numbered.step effect).indexLaw_iff]
    exact numbered.keeps_iff (numbered.indexLaw_iff.mp law) effect

/-- One call that returns before its thread gets to run. -/
def lateThread : List Event :=
  [.readSlot, .readArg, .create true, .readCount, .writeCount, .turn 0 true, .notify 0]

theorem late_thread_reports_next_index :
    ¬ EachPoint (ofPartial step) State.init lateThread (fun _ s => IndexLaw s) := by
  intro h
  have run : Run (ofPartial step) State.init lateThread _ :=
    .cons rfl (.cons rfl (.cons rfl (.cons rfl (.cons rfl (.cons rfl (.cons rfl (.nil _)))))))
  have owns := h lateThread [] _ rfl run _ List.mem_cons_self
  exact absurd (owns.codes 1 (by decide)) (by decide)

end NdkThreadSample.NativeLib

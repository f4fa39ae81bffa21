import NdkThreadSample.CCallJava.JavaRun

/-!
Which threads stay attached. `SetJniEnv` attaches a thread and the next bridge
call detaches it, whether the methods are found or not, so a thread that sets
the environment and makes no call stays attached and keeps its reference to the
class.
-/

namespace NdkThreadSample.CCallJava
open LabelledRun
variable {t : Thread} {found : Method → Bool} {s s' s'' : Bridge}

/-- The thread is detached from `s` to `s'`, and only others keep references. -/
structure Cleared (t : Thread) (s s' : Bridge) : Prop where
  attached : ∀ x, x ∈ s'.attached ↔ x ≠ t ∧ x ∈ s.attached
  locals : ∀ r ∈ s'.locals, r.thread ≠ t ∧ r ∈ s.locals

theorem releaseUsbDriver_cleared {env : Thread} (set : s.jniEnv = some env) :
    Cleared t s (releaseUsbDriver t s) := by
  simp only [releaseUsbDriver, set]
  cases s.UsbDriverCCallJava with
  | none =>
      refine ⟨fun x => ?_, fun r hr => ?_⟩
      · simp [detachJNI, Bridge.detachCurrentThread, and_comm]
      · simpa [detachJNI, Bridge.detachCurrentThread, and_comm] using hr
  | some cls =>
      refine ⟨fun x => ?_, fun r hr => ?_⟩
      · simp [detachJNI, Bridge.detachCurrentThread, Bridge.deleteLocalRef, Bridge.invoke, and_comm]
      · have kept := List.mem_filter.mp hr
        exact ⟨by simpa using kept.2, List.mem_of_mem_erase kept.1⟩

/-- A body attaches no thread and makes references on its own thread only. -/
structure Kept (t : Thread) (s s' : Bridge) : Prop where
  env : s'.jniEnv = s.jniEnv
  attached : s'.attached = s.attached
  locals : ∀ r ∈ s'.locals, r.thread ≠ t → r ∈ s.locals

theorem Body.kept (h : Body t s s') : Kept t s s' := by
  induction h with
  | start => exact ⟨rfl, rfl, fun _ hr _ => hr⟩
  | invoke _ _ ih | java _ _ ih => exact ⟨ih.env, ih.attached, ih.locals⟩
  | newLocal _ ih =>
      refine ⟨ih.env, ih.attached, fun r hr other => ?_⟩
      cases List.mem_cons.mp hr with
      | inl new =>
          rw [new] at other
          exact absurd rfl other
      | inr old => exact ih.locals r old other
  | deleteLocalRef own _ _ ih =>
      exact ⟨ih.env, ih.attached, fun r hr => ih.locals r (List.mem_of_mem_erase hr)⟩

theorem Kept.cleared (h : Kept t s s') (k : Cleared t s' s'') : Cleared t s s'' := by
  refine ⟨fun x => ?_, fun r hr => ?_⟩
  · rw [k.attached, h.attached]
  · obtain ⟨other, here⟩ := k.locals r hr
    exact ⟨other, h.locals r here other⟩

theorem Body.trans (h : Body t s s') (k : Body t s' s'') : Body t s s'' := by
  induction k with
  | start => exact h
  | invoke function _ ih => exact ih.invoke function
  | java java _ ih => exact ih.java java
  | newLocal _ ih => exact ih.newLocal
  | deleteLocalRef r own _ ih => exact ih.deleteLocalRef r (h.nextId_le.trans own)

/-- The lookups only invoke JNI functions until one fails. -/
theorem lookUp_cleared {env : Thread} (set : s.jniEnv = some env)
    (table : List (Method × Int)) (codes : ∀ entry ∈ table, entry.2 ≠ 1) :
    ((lookUp t found table s).1 = 1 ∧ Body t s (lookUp t found table s).2) ∨
      ((lookUp t found table s).1 ≠ 1 ∧ Cleared t s (lookUp t found table s).2) := by
  induction table generalizing s with
  | nil => exact .inl ⟨rfl, .start⟩
  | cons entry table ih =>
      have asked : Body t s (s.invoke t (.getStaticMethodID entry.1.key.1 entry.1.key.2)) :=
        Body.start.invoke _
      rw [lookUp]
      split
      · cases ih (s := s.invoke t _) set fun e he => codes e (List.mem_cons_of_mem _ he) with
        | inl ok => exact .inl ⟨ok.1, asked.trans ok.2⟩
        | inr no => exact .inr ⟨no.1, asked.kept.cleared no.2⟩
      · exact .inr ⟨codes entry List.mem_cons_self,
          asked.kept.cleared (releaseUsbDriver_cleared set)⟩

/-- Any bridge call detaches its thread. -/
theorem run_cleared {env : Thread} (set : s.jniEnv = some env) (vm : Vm) (call : JniCall) :
    Cleared t s (call.run vm t found s) := by
  have codes : ∀ entry ∈ initTable, entry.2 ≠ 1 := by decide
  have init : initUsbDriver t found s = lookUp t found initTable s := by
    simp [initUsbDriver, set]
  have looked : _ ∨ (initUsbDriver t found s).1 ≠ 1 ∧ Cleared t s (initUsbDriver t found s).2 :=
    init ▸ lookUp_cleared set initTable codes
  cases run_shape (t := t) vm found call s with
  | inl refused =>
      cases looked with
      | inl ok => exact absurd ok.1 refused.1
      | inr no =>
          rw [refused.2]
          exact no.2
  | inr ran =>
      obtain ⟨one, last, body, done⟩ := ran
      cases looked with
      | inl ok =>
          have kept := (ok.2.trans body).kept
          rw [done]
          exact kept.cleared (releaseUsbDriver_cleared (kept.env.trans set))
      | inr no => exact absurd one no.1

/-! Whole runs. -/

/-- The last batch of the thread made no call. -/
def LeftAttached (t : Thread) (hs : List Happening) : Prop :=
  ∃ before b after, hs = before ++ .batch b :: after ∧ b.thread = t ∧ b.calls = [] ∧
    ∀ b', .batch b' ∈ after → b'.thread ≠ t

def Happening.onThread (t : Thread) : Happening → Prop
  | .batch b => b.thread = t
  | .receive _ _ => False

theorem leftAttached_snoc (t : Thread) (hs : List Happening) (h : Happening) :
    LeftAttached t (hs ++ [h]) ↔
      (∃ b, h = .batch b ∧ b.thread = t ∧ b.calls = []) ∨ (¬ h.onThread t ∧ LeftAttached t hs) := by
  constructor
  · rintro ⟨before, b, after, split_, thread, none_, later⟩
    rcases split_snoc split_ with ⟨_, same, _⟩ | ⟨front, rfl, rfl⟩
    · exact .inl ⟨b, same.symm, thread, none_⟩
    · refine .inr ⟨?_, before, b, front, rfl, thread, none_, fun b' hb' =>
        later b' (List.mem_append_left _ hb')⟩
      cases h with
      | batch last => exact later last (by simp)
      | receive _ _ => exact not_false
  · rintro (⟨b, rfl, thread, none_⟩ | ⟨other, before, b, after, rfl, thread, none_, later⟩)
    · exact ⟨hs, b, [], rfl, thread, none_, fun _ none_ => nomatch none_⟩
    · refine ⟨before, b, after ++ [h], by simp, thread, none_, fun b' hb' => ?_⟩
      rcases List.mem_append.mp hb' with old | new
      · exact later b' old
      · rw [← List.mem_singleton.mp new] at other
        exact other

/-- The threads that are attached and the references that are alive after a run. -/
structure Attachments (past : List Happening) (s : Bridge) : Prop where
  attached : ∀ t, t ∈ s.attached ↔ LeftAttached t past
  locals : ∀ r ∈ s.locals, r.thread ∈ s.attached

theorem Attachments.set {past : List Happening} (h : Attachments past s) {b : Batch}
    (none_ : b.calls = []) (vm : Vm) : Attachments (past ++ [.batch b]) (b.run vm s) := by
  have done : b.run vm s = setJniEnv b.thread b.classFound s := by
    simp [Batch.run, runCalls, none_]
  have attached : (b.run vm s).attached = b.thread :: s.attached := by
    rw [done]
    cases b.classFound <;> rfl
  refine ⟨fun t => ?_, fun r hr => ?_⟩
  · rw [attached, List.mem_cons, h.attached, leftAttached_snoc]
    by_cases same : t = b.thread
    · exact iff_of_true (.inl same) (.inl ⟨b, rfl, same.symm, none_⟩)
    · have other : ¬ (Happening.batch b).onThread t := fun eq => same eq.symm
      simp only [same, false_or, other, not_false_iff, true_and]
      refine ⟨.inr, ?_⟩
      rintro (⟨b', eq, thread, _⟩ | left_)
      · cases eq
        exact absurd thread.symm same
      · exact left_
  · rw [attached, List.mem_cons]
    rw [done] at hr
    cases found : b.classFound with
    | false =>
        rw [found] at hr
        exact .inr (h.locals r hr)
    | true =>
        rw [found] at hr
        rcases List.mem_cons.mp hr with new | old
        · rw [new]
          exact .inl rfl
        · exact .inr (h.locals r old)

theorem Attachments.called {past : List Happening} (h : Attachments past s) {b : Batch}
    {call : (Method → Bool) × JniCall} (only : b.calls = [call]) (vm : Vm) :
    Attachments (past ++ [.batch b]) (b.run vm s) := by
  have env := (setJniEnv_well b.thread b.classFound s).2.2.2
  have done : b.run vm s = call.2.run vm b.thread call.1 (setJniEnv b.thread b.classFound s) := by
    simp [Batch.run, runCalls, only]
  have cleared : Cleared b.thread (setJniEnv b.thread b.classFound s) (b.run vm s) := by
    rw [done]
    exact run_cleared env vm call.2
  have before : (setJniEnv b.thread b.classFound s).attached = b.thread :: s.attached := by
    cases b.classFound <;> rfl
  have attached (t : Thread) : t ∈ (b.run vm s).attached ↔ t ≠ b.thread ∧ t ∈ s.attached := by
    rw [cleared.attached, before, List.mem_cons]
    refine and_congr_right fun other => ?_
    exact or_iff_right other
  refine ⟨fun t => ?_, fun r hr => ?_⟩
  · rw [attached, h.attached, leftAttached_snoc]
    have not_set : ¬ ∃ b', Happening.batch b = .batch b' ∧ b'.thread = t ∧ b'.calls = [] := by
      rintro ⟨b', eq, _, none_⟩
      cases eq
      rw [only] at none_
      cases none_
    rw [or_iff_right not_set]
    exact and_congr_left fun _ => not_congr eq_comm
  · obtain ⟨other, here⟩ := cleared.locals r hr
    refine (attached r.thread).mpr ⟨other, ?_⟩
    cases found : b.classFound with
    | false =>
        rw [found] at here
        exact h.locals r here
    | true =>
        rw [found] at here
        rcases List.mem_cons.mp here with new | old
        · rw [new] at other
          exact absurd rfl other
        · exact h.locals r old

theorem Attachments.step {past : List Happening} {h : Happening} (a : Attachments past s)
    {vm : Vm} (hs : happens vm s h s') : Attachments (past ++ [h]) s' := by
  obtain ⟨possible, rfl⟩ := hs
  cases h with
  | receive b opened =>
      refine ⟨fun t => ?_, a.locals⟩
      rw [leftAttached_snoc]
      have other : ¬ (Happening.receive b opened).onThread t := not_false
      have not_set : ¬ ∃ b', Happening.receive b opened = .batch b' ∧ b'.thread = t ∧
          b'.calls = [] := by
        rintro ⟨_, eq, _⟩
        cases eq
      rw [or_iff_right not_set, and_iff_right other]
      exact a.attached t
  | batch b =>
      cases possible.2 with
      | inl none_ => exact a.set none_ vm
      | inr one =>
          obtain ⟨call, only⟩ := List.length_eq_one_iff.mp one.2
          exact a.called only vm

/-- After a run a thread is attached exactly when its last `SetJniEnv` was not
followed by a call, and the references that are still alive belong to such
threads. -/
theorem attached_iff_no_call_followed (vm : Vm) (hs : List Happening) (s : Bridge)
    (run : Run (happens vm) Bridge.init hs s) :
    (∀ t, t ∈ s.attached ↔ LeftAttached t hs) ∧ ∀ r ∈ s.locals, LeftAttached r.thread hs := by
  have start : Attachments [] Bridge.init := by
    refine ⟨fun t => iff_of_false (fun none_ => nomatch none_) ?_, fun _ none_ => nomatch none_⟩
    rintro ⟨before, b, after, split_, _⟩
    cases before <;> cases split_
  have after : Attachments ([] ++ hs) s := run.history (fun _ _ _ _ a hs => a.step hs) start
  exact ⟨after.attached, fun r hr => (after.attached _).mp (after.locals r hr)⟩

/-- The first thread sets the environment and goes away; the second one calls. -/
def leaving : List Happening :=
  [.batch ⟨0, true, []⟩, .batch ⟨1, true, [(fun _ => false, .closeDevice)]⟩]

theorem attached_iff_no_call_followed_leaving :
    ∃ s, Run (happens ⟨fun _ => 0, fun _ => true⟩) Bridge.init leaving s ∧
      s.attached = [0] ∧ s.locals = [⟨0, 0⟩] ∧
      (∀ t, t ∈ s.attached ↔ LeftAttached t leaving) ∧
      ∀ r ∈ s.locals, LeftAttached r.thread leaving := by
  have run : Run (happens ⟨fun _ => 0, fun _ => true⟩) Bridge.init leaving _ :=
    .cons ⟨⟨rfl, .inl rfl⟩, rfl⟩ (.cons ⟨⟨rfl, .inr ⟨rfl, rfl⟩⟩, rfl⟩ (.nil _))
  exact ⟨_, run, rfl, rfl, attached_iff_no_call_followed _ leaving _ run⟩

end NdkThreadSample.CCallJava

import NdkThreadSample.CCallJava.Effects
import NdkThreadSample.Library.Growth

/-!
The life of `jniEnv` and of the class reference. `ReleaseUsbDriver` deletes the
class reference and detaches the thread but leaves both globals as they are, so
a bridge function that runs without a new `SetJniEnv` starts by invoking
`GetStaticMethodID` on a thread that is not attached, with a reference that is
gone.
-/

namespace NdkThreadSample.CCallJava
open Growth
variable {t : Thread} {r : Ref} {s s' : Bridge}

/-- On the thread of `jniEnv`, attached, and, where there is a class already,
with a reference to it that is alive. -/
def Use.Good (u : Use) : Prop :=
  u.env = some u.thread ∧ u.attached = true ∧ (u.function = .findClass ∨ u.classLive = true)

instance (u : Use) : Decidable u.Good :=
  inferInstanceAs (Decidable (_ ∧ _ ∧ (_ ∨ _)))

/-- A thread sets the environment and makes its calls. -/
structure Batch where
  thread : Thread
  classFound : Bool
  calls : List ((Method → Bool) × JniCall)

def runCalls (vm : Vm) (t : Thread) (calls : List ((Method → Bool) × JniCall)) (s : Bridge) :
    Bridge :=
  calls.foldl (fun s call => call.2.run vm t call.1 s) s

def Batch.run (vm : Vm) (s : Bridge) (b : Batch) : Bridge :=
  runCalls vm b.thread b.calls (setJniEnv b.thread b.classFound s)

def runBatches (vm : Vm) (batches : List Batch) (s : Bridge) : Bridge :=
  batches.foldl (Batch.run vm) s

/-- Every JNI function was invoked properly and no class reference was released twice. -/
def Sound (s : Bridge) : Prop := (∀ u ∈ s.uses, u.Good) ∧ s.released.Nodup

/-! From a ready environment. -/

structure Ready (t : Thread) (r : Ref) (s : Bridge) : Prop where
  env : s.jniEnv = some t
  attached : t ∈ s.attached
  cls : s.UsbDriverCCallJava = some r
  live : r ∈ s.locals
  older : r.id < s.nextId

/-- The uses from `s` to `s'` are good ones. -/
def Well (s s' : Bridge) : Prop := Gains Use.Good s.uses s'.uses

theorem Ready.invoke (h : Ready t r s) (function : JniFunction) :
    Ready t r (s.invoke t function) ∧ Well s (s.invoke t function) := by
  refine ⟨⟨h.env, h.attached, h.cls, h.live, h.older⟩, .snoc _ ⟨h.env, ?_, .inr ?_⟩⟩
  · simp [Bridge.envAttached, h.env, h.attached]
  · simp [Bridge.classLive, h.cls, h.live]

theorem Ready.body (h : Ready t r s) (body : Body t s s') :
    Ready t r s' ∧ Well s s' ∧ s'.released = s.released := by
  induction body with
  | start => exact ⟨h, .refl _ _, rfl⟩
  | invoke function _ ih =>
      obtain ⟨ready, well, same⟩ := ih
      obtain ⟨next, good⟩ := ready.invoke function
      exact ⟨next, well.trans good, same⟩
  | java java _ ih =>
      obtain ⟨ready, well, same⟩ := ih
      exact ⟨⟨ready.env, ready.attached, ready.cls, ready.live, ready.older⟩, well, same⟩
  | newLocal _ ih =>
      obtain ⟨ready, well, same⟩ := ih
      exact ⟨⟨ready.env, ready.attached, ready.cls, List.mem_cons_of_mem _ ready.live,
        Nat.lt_succ_of_lt ready.older⟩, well, same⟩
  | deleteLocalRef own fresh _ ih =>
      obtain ⟨ready, well, same⟩ := ih
      obtain ⟨next, good⟩ := ready.invoke .deleteLocalRef
      have other : r ≠ own := by
        intro same
        have older := h.older
        rw [same] at older
        omega
      exact ⟨⟨next.env, next.attached, next.cls, (List.mem_erase_of_ne other).mpr next.live,
        next.older⟩, well.trans good, same⟩

/-- After `ReleaseUsbDriver`: the environment is set but its thread is detached. -/
structure Released (t : Thread) (r : Ref) (s s' : Bridge) : Prop where
  env : s'.jniEnv = some t
  detached : t ∉ s'.attached
  well : Well s s'
  released : s'.released = s.released ++ [r]
  nextId : s.nextId ≤ s'.nextId

theorem Ready.release (h : Ready t r s) : Released t r s (releaseUsbDriver t s) := by
  obtain ⟨_, good⟩ := h.invoke .deleteLocalRef
  simp only [releaseUsbDriver, h.env, h.cls]
  refine ⟨h.env, ?_, good, rfl, Nat.le_refl _⟩
  simp [detachJNI, Bridge.detachCurrentThread]

theorem Released.after {s₀ : Bridge} (h : Released t r s s') (well : Well s₀ s)
    (released : s.released = s₀.released) (nextId : s₀.nextId ≤ s.nextId) :
    Released t r s₀ s' :=
  ⟨h.env, h.detached, well.trans h.well, by rw [h.released, released], nextId.trans h.nextId⟩

/-- The lookups either all succeed, and the environment is as ready as before,
or one fails and everything has been released. -/
theorem Ready.lookUp (h : Ready t r s) (found : Method → Bool) (table : List (Method × Int))
    (codes : ∀ entry ∈ table, entry.2 ≠ 1) :
    ((lookUp t found table s).1 = 1 ∧ Ready t r (lookUp t found table s).2 ∧
        Well s (lookUp t found table s).2 ∧
        (lookUp t found table s).2.released = s.released ∧
        s.nextId ≤ (lookUp t found table s).2.nextId) ∨
      ((lookUp t found table s).1 ≠ 1 ∧ Released t r s (lookUp t found table s).2) := by
  induction table generalizing s with
  | nil => exact .inl ⟨rfl, h, .refl _ _, rfl, Nat.le_refl _⟩
  | cons entry table ih =>
      obtain ⟨ready, good⟩ :=
        h.invoke (.getStaticMethodID entry.1.key.1 entry.1.key.2)
      rw [CCallJava.lookUp]
      split
      · have rest := ih ready (fun e he => codes e (List.mem_cons_of_mem _ he))
        cases rest with
        | inl ok =>
            obtain ⟨one, last, well, same, le⟩ := ok
            exact .inl ⟨one, last, good.trans well, same, le⟩
        | inr no => exact .inr ⟨no.1, no.2.after good rfl (Nat.le_refl _)⟩
      · refine .inr ⟨codes entry List.mem_cons_self, ?_⟩
        exact ready.release.after good rfl (Nat.le_refl _)

/-- One call of a ready environment is sound and releases it. -/
theorem Ready.run (h : Ready t r s) (vm : Vm) (found : Method → Bool) (call : JniCall) :
    Released t r s (call.run vm t found s) := by
  have codes : ∀ entry ∈ initTable, entry.2 ≠ 1 := by decide
  have looked := h.lookUp found initTable codes
  have init : initUsbDriver t found s = CCallJava.lookUp t found initTable s := by
    simp [initUsbDriver, h.env]
  rw [← init] at looked
  have shape := run_shape (t := t) vm found call s
  cases looked with
  | inr no =>
      cases shape with
      | inl refused => rw [refused.2]; exact no.2
      | inr ran => exact absurd ran.1 no.1
  | inl ok =>
      obtain ⟨one, ready, well, same, le⟩ := ok
      cases shape with
      | inl refused => exact absurd one refused.1
      | inr ran =>
          obtain ⟨_, last, body, done⟩ := ran
          obtain ⟨lastReady, bodyWell, bodySame⟩ := ready.body body
          rw [done]
          exact lastReady.release.after (well.trans bodyWell) (bodySame.trans same)
            (le.trans body.nextId_le)

/-! From an environment whose thread is detached or whose class is gone. -/

/-- Some use was not a good one. -/
def Spoilt (s : Bridge) : Prop := ∃ u ∈ s.uses, ¬ u.Good

theorem Spoilt.mono (h : Spoilt s) (grows : s.uses <+: s'.uses) : Spoilt s' := by
  obtain ⟨u, hu, bad⟩ := h
  exact ⟨u, grows.subset hu, bad⟩

/-- `GetStaticMethodID` is invoked before anything else. -/
theorem stale_run (env : s.jniEnv = some t) (stale : ¬ (t ∈ s.attached ∧ s.classLive = true))
    (vm : Vm) (found : Method → Bool) (call : JniCall) : Spoilt (call.run vm t found s) := by
  have first : Spoilt (s.invoke t (.getStaticMethodID "OpenDevice" "(II)I")) := by
    refine ⟨_, List.mem_append_right _ (List.mem_singleton.mpr rfl), ?_⟩
    intro good
    obtain ⟨_, attached, live⟩ := good
    apply stale
    simp only [Bridge.envAttached, env, Option.any_some, decide_eq_true_eq] at attached
    exact ⟨attached, live.resolve_left (by simp)⟩
  have started : Spoilt (initUsbDriver t found s).2 := by
    simp only [initUsbDriver, env, initTable]
    rw [lookUp]
    split
    · exact first.mono (lookUp_grows ..)
    · exact first.mono (releaseUsbDriver_grows ..)
  exact started.mono (run_shape vm found call s).grows

theorem run_grows (vm : Vm) (t : Thread) (found : Method → Bool) (call : JniCall) (s : Bridge) :
    s.uses <+: (call.run vm t found s).uses :=
  (initUsbDriver_grows t found s).trans (run_shape vm found call s).grows

theorem runCalls_grows (vm : Vm) (t : Thread) (calls : List ((Method → Bool) × JniCall))
    (s : Bridge) : s.uses <+: (runCalls vm t calls s).uses := by
  have grows (s : Bridge) (call : (Method → Bool) × JniCall) :
      s.uses <+: (call.2.run vm t call.1 s).uses := run_grows vm t call.1 call.2 s
  exact prefix_foldl Bridge.uses grows calls s

theorem batch_grows (vm : Vm) (b : Batch) (s : Bridge) : s.uses <+: (b.run vm s).uses :=
  (setJniEnv_grows b.thread b.classFound s).trans (runCalls_grows vm b.thread b.calls _)

theorem runBatches_grows (vm : Vm) (batches : List Batch) (s : Bridge) :
    s.uses <+: (runBatches vm batches s).uses :=
  prefix_foldl Bridge.uses (fun s b => batch_grows vm b s) batches s

/-! Batches. -/

theorem setJniEnv_well (t : Thread) (classFound : Bool) (s : Bridge) :
    Well s (setJniEnv t classFound s) ∧ (setJniEnv t classFound s).released = s.released ∧
      s.nextId ≤ (setJniEnv t classFound s).nextId ∧
      (setJniEnv t classFound s).jniEnv = some t := by
  have good : Use.Good ⟨.findClass, t, some t,
      Bridge.envAttached { s.attachCurrentThread t with jniEnv := some t },
      Bridge.classLive { s.attachCurrentThread t with jniEnv := some t }⟩ := by
    refine ⟨rfl, ?_, .inl rfl⟩
    simp [Bridge.envAttached, Bridge.attachCurrentThread]
  cases classFound with
  | false => exact ⟨.snoc _ good, rfl, Nat.le_refl _, rfl⟩
  | true => exact ⟨.snoc _ good, rfl, Nat.le_succ _, rfl⟩

theorem setJniEnv_ready (t : Thread) (s : Bridge) :
    Ready t ⟨s.nextId, t⟩ (setJniEnv t true s) :=
  ⟨rfl, List.mem_cons_self, rfl, List.mem_cons_self, Nat.lt_succ_self _⟩

/-- At most one call, and the class was found if there is one. -/
def Batch.fits (b : Batch) : Prop := b.calls = [] ∨ (b.classFound = true ∧ b.calls.length = 1)

/-- Sound so far, and the next reference has not been released. -/
structure SoundSoFar (s : Bridge) : Prop where
  good : ∀ u ∈ s.uses, u.Good
  once : s.released.Nodup
  older : ∀ r ∈ s.released, r.id < s.nextId

theorem batch_sound (vm : Vm) {b : Batch} (fits : b.fits) (h : SoundSoFar s) :
    SoundSoFar (b.run vm s) := by
  obtain ⟨well, same, le, env⟩ := setJniEnv_well b.thread b.classFound s
  simp only [Batch.run]
  cases fits with
  | inl none_ =>
      rw [none_]
      refine ⟨well.forall_mem h.good, ?_, ?_⟩
      · show (setJniEnv b.thread b.classFound s).released.Nodup
        rw [same]
        exact h.once
      · intro r hr
        have old : r ∈ s.released := by rwa [← same]
        exact (h.older r old).trans_le le
  | inr one =>
      obtain ⟨call, only⟩ := List.length_eq_one_iff.mp one.2
      rw [one.1] at well same ⊢
      rw [only]
      have done := (setJniEnv_ready b.thread s).run vm call.1 call.2
      have released : (call.2.run vm b.thread call.1 (setJniEnv b.thread true s)).released =
          s.released ++ [⟨s.nextId, b.thread⟩] := by rw [done.released, same]
      have le : s.nextId + 1 ≤ (call.2.run vm b.thread call.1 (setJniEnv b.thread true s)).nextId :=
        done.nextId
      refine ⟨(well.trans done.well).forall_mem h.good, ?_, ?_⟩
      · show (call.2.run vm b.thread call.1 (setJniEnv b.thread true s)).released.Nodup
        rw [released]
        refine List.nodup_append.mpr ⟨h.once, by simp, ?_⟩
        intro r old r' new same
        have older := h.older r old
        rw [same, List.mem_singleton.mp new] at older
        exact Nat.lt_irrefl _ older
      · intro r hr
        have hr : r ∈ s.released ++ [⟨s.nextId, b.thread⟩] := by rwa [← released]
        refine Nat.lt_of_lt_of_le ?_ le
        cases List.mem_append.mp hr with
        | inl old => exact Nat.lt_succ_of_lt (h.older r old)
        | inr new => rw [List.mem_singleton.mp new]; exact Nat.lt_succ_self _

theorem runBatches_sound (vm : Vm) {batches : List Batch} (fits : ∀ b ∈ batches, b.fits)
    (h : SoundSoFar s) : SoundSoFar (runBatches vm batches s) := by
  induction batches generalizing s with
  | nil => exact h
  | cons b batches ih =>
      have later : ∀ b ∈ batches, b.fits := fun b hb => fits b (List.mem_cons_of_mem _ hb)
      exact ih later (batch_sound vm (fits b List.mem_cons_self) h)

theorem batch_spoilt (vm : Vm) {b : Batch} (unfit : ¬ b.fits) (s : Bridge) :
    Spoilt (b.run vm s) := by
  obtain ⟨_, _, _, env⟩ := setJniEnv_well b.thread b.classFound s
  simp only [Batch.run]
  cases hcalls : b.calls with
  | nil => exact absurd (.inl hcalls) unfit
  | cons call calls =>
      cases hfound : b.classFound with
      | false =>
          rw [hfound] at env
          have spoilt := stale_run env (by intro ready; cases ready.2) vm call.1 call.2
          exact spoilt.mono (runCalls_grows vm b.thread calls _)
      | true =>
          have done := (setJniEnv_ready b.thread s).run vm call.1 call.2
          cases calls with
          | nil => exact absurd (.inr ⟨hfound, by simp [hcalls]⟩) unfit
          | cons again calls =>
              have spoilt := stale_run done.env (by intro ready; exact done.detached ready.1) vm
                again.1 again.2
              exact spoilt.mono (runCalls_grows vm b.thread calls _)

/-- The bridge is sound exactly on the runs in which every call comes directly
after a `SetJniEnv` that finds the class. -/
theorem bridge_sound_iff (vm : Vm) (batches : List Batch) :
    Sound (runBatches vm batches Bridge.init) ↔ ∀ b ∈ batches, b.fits := by
  constructor
  · intro sound b hmem
    by_contra unfit
    obtain ⟨before, after, rfl⟩ := List.append_of_mem hmem
    have spoilt := (batch_spoilt vm unfit (runBatches vm before Bridge.init)).mono
      (runBatches_grows vm after _)
    obtain ⟨u, hu, bad⟩ := spoilt
    refine bad (sound.1 u ?_)
    simpa [runBatches] using hu
  · intro fits
    have start : SoundSoFar Bridge.init := ⟨by simp [Bridge.init], by simp [Bridge.init],
      by simp [Bridge.init]⟩
    have done := runBatches_sound vm fits start
    exact ⟨done.good, done.once⟩

/-- Without a scanner attached. -/
def openCall : (Method → Bool) × JniCall := (fun _ => true, .openDevice 0 0 ⟨[], false, none⟩)

def closeCall : (Method → Bool) × JniCall := (fun _ => true, .closeDevice)

example : ∀ u ∈ (runBatches ⟨fun _ => 0, fun _ => false⟩
    [⟨0, true, [openCall]⟩, ⟨1, true, [closeCall]⟩] Bridge.init).uses, u.Good := by decide

/-- One thread sets the environment, opens and closes. -/
theorem open_close_unsound :
    ¬ Sound (runBatches ⟨fun _ => 0, fun _ => false⟩ [⟨0, true, [openCall, closeCall]⟩]
      Bridge.init) := by
  intro sound
  exact absurd sound.2 (by decide)

end NdkThreadSample.CCallJava

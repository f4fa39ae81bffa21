import Mathlib.Data.List.Count
import NdkThreadSample.Library.LabelledRun
import NdkThreadSample.UsbDriver.Effects

/-!
The registrations of `mUsbReceiver` under `OpenDevice` and `CloseDevice`. Every
`OpenDevice` that finds the scanner registers the receiver once more; the flag
`bAttached` that `CloseDevice` asks is nowhere set, so nothing unregisters it,
and the registrations count the opens that found the scanner.
-/

namespace NdkThreadSample.UsbDriver
open LabelledRun
variable {s : State}

inductive DeviceCall
  | openDevice (iVid iPid : Int) (env : OpenEnv)
  | closeDevice
  deriving DecidableEq

def DeviceCall.event : DeviceCall → Event
  | .openDevice iVid iPid env => .openDevice iVid iPid env
  | .closeDevice => .closeDevice

def callStep (s : State) (call : DeviceCall) : State := step s call.event

/-- An `OpenDevice` with a device of the scanner's ids attached. -/
def DeviceCall.finds : DeviceCall → Bool
  | .openDevice _ _ env => env.deviceList.any (fun device => formatIds 0x05e3 0x0102 == device.ids)
  | .closeDevice => false

/-- What is asked of the receiver after one call. -/
structure Balanced (call : DeviceCall) (s : State) : Prop where
  once : s.registrations ≤ 1
  opened : call.finds = true → 0 < s.registrations
  closed : call = .closeDevice → s.registrations = 0
  paired : .unregisterReceiver false ∉ s.log

/-! The calls on the receiver that an operation makes. -/

def UsbCall.onReceiver : UsbCall → Bool
  | .registerReceiver | .unregisterReceiver _ => true
  | _ => false

def receiverCalls (log : List UsbCall) : List UsbCall := log.filter UsbCall.onReceiver

theorem Worked.receiverCalls {s t : State} (h : Worked s t) :
    receiverCalls t.log = receiverCalls s.log := by
  apply h.filter_eq
  intro x working
  cases x with
  | registerReceiver | unregisterReceiver _ => cases working
  | _ => rfl

/-- The state after calls of which `n` found the scanner. -/
structure Counted (n : Nat) (s : State) : Prop where
  flag : s.bAttached = false
  list : s.mDevList = List.replicate s.mListSize (formatIds 0x05e3 0x0102)
  registrations : s.registrations = n
  calls : receiverCalls s.log = List.replicate n .registerReceiver

theorem Counted.init : Counted 0 State.init := ⟨rfl, rfl, rfl, rfl⟩

theorem Counted.same {n : Nat} {s t : State} (h : Counted n s) (same : SameSetup s t)
    (worked : Worked s t) : Counted n t where
  flag := same.bAttached.trans h.flag
  list := by rw [same.mDevList, same.mListSize, h.list]
  registrations := same.registrations.trans h.registrations
  calls := worked.receiverCalls.trans h.calls

theorem Counted.setManager {n : Nat} (h : Counted n s) (set : Bool) :
    Counted n { s with mUsbManager := set } := ⟨h.flag, h.list, h.registrations, h.calls⟩

theorem closeDevice_counted {n : Nat} (h : Counted n s) : Counted n (closeDevice s).2 := by
  have dropped := h.same (dropConnection_sameSetup s) (dropConnection_worked s)
  have cleared : Counted n { dropConnection s with mUsbDevice := none, mUsbManager := false } :=
    ⟨dropped.flag, dropped.list, dropped.registrations, dropped.calls⟩
  simp only [closeDevice]
  rw [unregister_of_flag]
  · exact cleared
  · exact cleared.flag

theorem addDevList_counted {n : Nat} (h : Counted n s) :
    Counted n (addDevList (formatIds 0x05e3 0x0102) s) where
  flag := h.flag
  list := by
    simp only [addDevList]
    rw [h.list, List.length_append, List.length_replicate, List.length_singleton,
      List.replicate_succ']
  registrations := h.registrations
  calls := h.calls

/-- After an `addDevList` exactly the scanner's ids are listed. -/
theorem listed_counted {n : Nat} (h : Counted n s) :
    listed (addDevList (formatIds 0x05e3 0x0102) s) =
      fun device => formatIds 0x05e3 0x0102 == device.ids := by
  funext device
  simp only [listed]
  rw [(addDevList_counted h).list, List.take_replicate, Nat.min_self]
  simp [addDevList, List.any_replicate]

theorem asked_counted {n : Nat} (h : Counted n s) (device : UsbDevice) :
    Counted (n + 1) (asked device s) where
  flag := h.flag
  list := h.list
  registrations := congrArg (· + 1) h.registrations
  calls := by
    simp only [asked, receiverCalls, List.filter_append]
    rw [← receiverCalls, h.calls, List.replicate_succ']
    rfl

theorem callStep_counted {n : Nat} (h : Counted n s) (call : DeviceCall) :
    Counted (n + if call.finds then 1 else 0) (callStep s call) := by
  cases call with
  | closeDevice => exact closeDevice_counted h
  | openDevice iVid iPid env =>
      have added := addDevList_counted h
      simp only [callStep, DeviceCall.event, step_openDevice, findUsbList_eq, listed_counted h,
        DeviceCall.finds, ← List.isSome_find?]
      cases env.deviceList.find? fun device => formatIds 0x05e3 0x0102 == device.ids with
      | none => exact added.setManager true
      | some device =>
          have asked := asked_counted added device
          cases env.hasPermission with
          | false => exact asked
          | true =>
              have opened := asked.same (setDevice_sameSetup (some device) env.opened _)
                (setDevice_worked device env.opened _ rfl)
              exact opened

theorem run_counted {past : List DeviceCall} (run : Run (ofFn callStep) State.init past s) :
    Counted (past.countP DeviceCall.finds) s := by
  have keep : ∀ past s call s', Counted (past.countP DeviceCall.finds) s →
      ofFn callStep s call s' → Counted ((past ++ [call]).countP DeviceCall.finds) s' := by
    intro past s call s' h hs
    rw [hs, List.countP_append, List.countP_singleton]
    exact callStep_counted h call
  have start : Counted (([] : List DeviceCall).countP DeviceCall.finds) State.init := Counted.init
  simpa using run.history keep start

/-- With `n` opens that found the scanner the law says that `n` is at most one
after any call, and zero after a `CloseDevice`. -/
theorem Counted.balanced_iff {n : Nat} (h : Counted n s) (call : DeviceCall)
    (counts : call.finds = true → 0 < n) :
    Balanced call s ↔ n ≤ 1 ∧ (call = .closeDevice → n = 0) := by
  have paired : .unregisterReceiver false ∉ s.log := by
    intro hmem
    have kept : .unregisterReceiver false ∈ receiverCalls s.log :=
      List.mem_filter.mpr ⟨hmem, rfl⟩
    rw [h.calls] at kept
    cases List.eq_of_mem_replicate kept
  constructor
  · intro b
    exact ⟨h.registrations ▸ b.once, fun close => h.registrations ▸ b.closed close⟩
  · intro b
    refine ⟨?_, ?_, ?_, paired⟩
    · rw [h.registrations]; exact b.1
    · rw [h.registrations]; exact counts
    · rw [h.registrations]; exact b.2

/-- `later` may follow `earlier`. -/
def DeviceCall.allows (earlier later : DeviceCall) : Prop :=
  earlier.finds = true → later ≠ .closeDevice ∧ later.finds = false

theorem countP_le_one {calls : List DeviceCall} (h : calls.Pairwise DeviceCall.allows) :
    calls.countP DeviceCall.finds ≤ 1 := by
  induction calls with
  | nil => simp
  | cons call calls ih =>
      have later := List.pairwise_cons.mp h
      rw [List.countP_cons]
      cases found : call.finds with
      | false => simpa using ih later.2
      | true =>
          have rest : calls.countP DeviceCall.finds = 0 := by
            apply List.countP_eq_zero.mpr
            intro other hmem
            simp [(later.1 other hmem found).2]
          simp [rest]

theorem allows_snoc_iff (past : List DeviceCall) (call : DeviceCall) :
    (past ++ [call]).Pairwise DeviceCall.allows ↔
      past.Pairwise DeviceCall.allows ∧ (past ++ [call]).countP DeviceCall.finds ≤ 1 ∧
        (call = .closeDevice → (past ++ [call]).countP DeviceCall.finds = 0) := by
  constructor
  · intro h
    obtain ⟨front, _, apart⟩ := List.pairwise_append.mp h
    refine ⟨front, countP_le_one h, ?_⟩
    intro close
    subst close
    apply List.countP_eq_zero.mpr
    intro earlier hmem found
    cases List.mem_append.mp hmem with
    | inl old => exact (apart earlier old .closeDevice List.mem_cons_self found).1 rfl
    | inr new =>
        rw [List.mem_singleton.mp new] at found
        cases found
  · intro h
    obtain ⟨front, one, none_⟩ := h
    refine List.pairwise_append.mpr ⟨front, List.pairwise_singleton _ _, ?_⟩
    intro earlier hmem later hlater found
    rw [List.mem_singleton.mp hlater]
    have some_ : 0 < past.countP DeviceCall.finds := List.countP_pos_iff.mpr ⟨earlier, hmem, found⟩
    rw [List.countP_append, List.countP_singleton] at one none_
    constructor
    · intro close
      have := none_ close
      omega
    · by_contra again
      rw [if_pos (by simpa using again)] at one
      omega

/-- The receiver is balanced along a run exactly when no `OpenDevice` that finds
the scanner is followed by a `CloseDevice` or by another such `OpenDevice`. -/
theorem receiver_balanced_iff (calls : List DeviceCall) :
    EachStep (ofFn callStep) State.init calls (fun _ _ call s => Balanced call s) ↔
      calls.Pairwise DeviceCall.allows := by
  induction calls using List.reverseRecOn with
  | nil => simp [EachStep]
  | append_singleton past call ih =>
      rw [EachStep.snoc_iff, ih, allows_snoc_iff]
      have last {s s' : State} (run : Run (ofFn callStep) State.init past s)
          (hs : ofFn callStep s call s') :
          Balanced call s' ↔ (past ++ [call]).countP DeviceCall.finds ≤ 1 ∧
            (call = .closeDevice → (past ++ [call]).countP DeviceCall.finds = 0) := by
        apply (run_counted (run.snoc hs)).balanced_iff call
        intro found
        rw [List.countP_append, List.countP_singleton, if_pos found]
        omega
      apply and_congr_right
      intro _
      constructor
      · intro balanced
        have run : Run (ofFn callStep) State.init past _ := (Run.ofFn_iff callStep).mpr rfl
        exact (last run rfl).mp (balanced _ _ run rfl)
      · intro counts s s' run hs
        exact (last run hs).mpr counts

/-- Nothing unregisters the receiver of an `OpenDevice`. -/
theorem receiver_outlives_closeDevice :
    ¬ EachStep (ofFn callStep) State.init
      [.openDevice 0 0 ⟨[scanner], true, some 7⟩, .closeDevice]
      (fun _ _ call s => Balanced call s) := by
  intro h
  have balanced := h [_] .closeDevice [] _ _ rfl (.cons rfl (.nil _)) rfl
  exact absurd (balanced.closed rfl) (by decide)

end NdkThreadSample.UsbDriver

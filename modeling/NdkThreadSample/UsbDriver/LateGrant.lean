import NdkThreadSample.UsbDriver.Connection

/-!
Answers to `requestPermission` that arrive after `CloseDevice`. The receiver is
never unregistered (`bAttached` is nowhere set), so a grant can still come in;
`CloseDevice` has cleared `mUsbManager`, and `setDevice` calls `openDevice` on
null. Otherwise `mUsbManager` is set exactly while the latest call of the
application is an `OpenDevice`.
-/

namespace NdkThreadSample.UsbDriver
open LabelledRun
variable {s t : State} {c : UsbDeviceConnection} {x : UsbCall}

inductive AppCall
  | openDevice
  | closeDevice
  deriving DecidableEq, Repr

def Event.appCall : Event → Option AppCall
  | .openDevice _ _ _ => some .openDevice
  | .closeDevice => some .closeDevice
  | _ => none

/-- The latest `OpenDevice` or `CloseDevice` of the application. -/
def latestCall (past : List Event) : Option AppCall := (past.filterMap Event.appCall).getLast?

theorem latestCall_snoc (past : List Event) (e : Event) :
    latestCall (past ++ [e]) = e.appCall.or (latestCall past) := by
  simp only [latestCall]
  rw [List.filterMap_append, List.getLast?_append]
  cases h : e.appCall <;> simp [h]

/-- The delivery of a permission that the user has granted. -/
def Event.isGrant : Event → Bool
  | .receive (.permission (some _) granted) _ => granted
  | _ => false

def CallsNull (log : List UsbCall) : Prop := ∃ device, .openDeviceOnNull device ∈ log

theorem Worked.callsNull (h : Worked s t) : CallsNull t.log ↔ CallsNull s.log := by
  apply exists_congr
  intro device
  exact h.mem_iff (by simp [UsbCall.onConnection])

theorem setDevice_callsNull (device : UsbDevice) (opened : Option Int) (s : State) :
    CallsNull (setDevice (some device) opened s).log ↔
      CallsNull s.log ∨ s.mUsbManager = false := by
  cases manager : s.mUsbManager with
  | true => simpa using (setDevice_worked device opened s manager).callsNull
  | false =>
      rw [setDevice_onNull device opened s manager]
      simp [CallsNull, State.call]

theorem closeDevice_callsNull (s : State) :
    CallsNull (closeDevice s).2.log ↔ CallsNull s.log := by
  rw [← (dropConnection_worked s).callsNull]
  simp only [closeDevice, unregister, CallsNull]
  split <;> simp [State.call]

theorem asked_callsNull (device : UsbDevice) (s : State) :
    CallsNull (asked device s).log ↔ CallsNull s.log := by
  simp [asked, CallsNull]

theorem findUsbList_callsNull (env : OpenEnv) (s : State) :
    CallsNull (findUsbList env s).2.log ↔ CallsNull s.log := by
  rw [findUsbList_eq]
  split
  · rfl
  · next device _ =>
      split
      · rw [setDevice_callsNull, asked_callsNull]
        simp [asked]
      · exact asked_callsNull device s

theorem Event.isQuiet_spec {e : Event} (quiet : e.isQuiet = true) :
    e.isGrant = false ∧ e.appCall = none := by
  cases e using Event.byEffect with
  | quiet e _ => 
      simp only [isQuiet] at quiet
      split at quiet <;> simp_all [isGrant, appCall]
  | _ => cases quiet

/-- Only a grant can reach a null manager. -/
theorem step_callsNull (s : State) (e : Event) :
    CallsNull (step s e).log ↔ CallsNull s.log ∨ (e.isGrant = true ∧ s.mUsbManager = false) := by
  have plain {t : State} (same : CallsNull t.log ↔ CallsNull s.log) (no : e.isGrant = false) :
      CallsNull t.log ↔ CallsNull s.log ∨ (e.isGrant = true ∧ s.mUsbManager = false) := by
    simp [same, no]
  cases e using Event.byEffect with
  | openDevice iVid iPid env => exact plain (findUsbList_callsNull env _) rfl
  | closeDevice => exact plain (closeDevice_callsNull s) rfl
  | grant device opened =>
      rw [step_grant, setDevice_callsNull]
      simp [Event.isGrant]
  | detached device opened =>
      refine plain ?_ rfl
      rw [step_detached]
      split
      · exact closeDevice_callsNull s
      · rfl
  | quiet e quiet => exact plain (step_quiet s e quiet).worked.callsNull (Event.isQuiet_spec quiet).1

theorem Enabled.live {e : Event} (h : Enabled s e) : s.exited = false := by
  cases e with
  | receive b opened => exact h.1
  | _ => exact h

/-- The manager is set exactly while the latest call is an `OpenDevice`. -/
def Tracks (past : List Event) (s : State) : Prop :=
  s.mUsbManager = (!s.exited && latestCall past == some .openDevice)

theorem tracks_step {past : List Event} {e : Event} (h : Tracks past s) (enabled : Enabled s e) :
    Tracks (past ++ [e]) (step s e) := by
  have live := enabled.live
  rw [Tracks, latestCall_snoc]
  cases e using Event.byEffect with
  | openDevice iVid iPid env =>
      obtain ⟨set, same⟩ := findUsbList_manages env (addDevList (formatIds 0x05e3 0x0102) s)
      rw [step_openDevice, set, same]
      show true = (!s.exited && _)
      rw [live]
      rfl
  | closeDevice =>
      show (closeDevice s).2.mUsbManager = _
      simp [closeDevice_mUsbManager, Event.appCall]
  | grant device opened =>
      have same := setDevice_sameSetup (some device) opened
        { s with pending := s.pending.erase device }
      rw [step_grant, same.mUsbManager, same.exited]
      exact h
  | detached device opened =>
      rw [step_detached]
      split
      · simp [closeDevice_mUsbManager]
      · exact h
  | quiet e quiet =>
      have same := (step_quiet s e quiet).sameSetup
      rw [same.mUsbManager, same.exited, (Event.isQuiet_spec quiet).2]
      exact h

/-- What the driver promises about late answers, after the events `past`. -/
def NoLateOpen (past : List Event) (s : State) : Prop :=
  ¬ CallsNull s.log ∧ (latestCall past = some .closeDevice → s.mConnection = none)

/-- No manager is null when it is used, and nothing is open between a
`CloseDevice` and the next `OpenDevice`, exactly when no grant is delivered
unless the latest call is an `OpenDevice`. -/
theorem no_late_open_iff (es : List Event) :
    EachPoint (guarded Enabled step) State.init es NoLateOpen ↔
      EachStep (guarded Enabled step) State.init es (fun past _ e _ =>
        e.isGrant = true → latestCall past = some .openDevice) := by
  have closed {past : List Event} {s : State} (tracks : Tracks past s) (owned : Owned s)
      (close : latestCall past = some .closeDevice) : s.mConnection = none := by
    apply owned.managed
    rw [tracks, close]
    simp
  apply EachPoint.iff_steps (I := fun past s => Tracks past s ∧ Owned s)
  · intro past s e s' inv hs
    rw [hs.2]
    exact ⟨tracks_step inv.1 hs.1, inv.2.step e⟩
  · exact ⟨rfl, Owned.init⟩
  · refine ⟨?_, by simp [latestCall]⟩
    intro null
    obtain ⟨device, hmem⟩ := null
    cases hmem
  · intro past s e s' _ inv safe hs
    obtain ⟨enabled, rfl⟩ := hs
    have manager : s.mUsbManager = false ↔ latestCall past ≠ some .openDevice := by
      rw [inv.1, enabled.live]
      simp
    have after := closed (tracks_step inv.1 enabled) (inv.2.step e)
    rw [NoLateOpen, step_callsNull, manager]
    constructor
    · intro now grant
      by_contra other
      exact now.1 (.inr ⟨grant, other⟩)
    · intro early
      refine ⟨?_, after⟩
      intro null
      cases null with
      | inl old => exact safe.1 old
      | inr grant => exact grant.2 (early grant.1)

/-- The user grants after the application has given up. -/
def grantAfterClose : List Event :=
  [.openDevice 0 0 ⟨[scanner], false, none⟩, .closeDevice,
    .receive (.permission (some scanner) true) (some 7)]

theorem grant_after_close_opens_on_null :
    ¬ EachPoint (guarded Enabled step) State.init grantAfterClose NoLateOpen := by
  intro h
  have waiting : Enabled ((grantAfterClose.take 2).foldl step State.init)
      (.receive (.permission (some scanner) true) (some 7)) :=
    ⟨by decide, by decide, scanner, rfl, by decide⟩
  have opened : Enabled State.init (.openDevice 0 0 ⟨[scanner], false, none⟩) := rfl
  have run : Run (guarded Enabled step) State.init grantAfterClose _ :=
    .cons ⟨opened, rfl⟩ (.cons ⟨rfl, rfl⟩ (.cons ⟨waiting, rfl⟩ (.nil _)))
  exact (h grantAfterClose [] _ rfl run).1 ⟨scanner, by decide⟩

end NdkThreadSample.UsbDriver

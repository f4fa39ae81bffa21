import NdkThreadSample.UsbDriver.LateGrant

/-!
How long the connection of a successful `OpenDevice` lasts. `FindUsbList` asks
for the permission even when it is held, so an answer is on its way after
`OpenDevice` has returned 1, and a granted answer makes `setDevice` close the
connection and open another. Nothing else ends it before the application calls
again or the device is detached.
-/

namespace NdkThreadSample.UsbDriver
open LabelledRun
variable {s s₁ t : State} {c : UsbDeviceConnection}

/-- The application opens or closes, or the device is detached. -/
def Event.endsSession : Event → Bool
  | .openDevice _ _ _ | .closeDevice | .receive (.detached _) _ => true
  | _ => false

/-- The connection `c` is the driver's, is open, and `getUsbFd` is its descriptor. -/
structure Stable (c : UsbDeviceConnection) (s : State) : Prop where
  held : s.mConnection = some c
  open_ : c ∉ closed s.log
  fd : getUsbFd s = c.fileDescriptor

theorem Owned.stable (h : Owned s) (held : s.mConnection = some c) : Stable c s :=
  ⟨held, ((h.law.open_iff_held c).mpr held).2, (h.bound c held).fd⟩

theorem Quiet.stable (h : Quiet s t) (stable : Stable c s) : Stable c t := by
  obtain ⟨calls, pending, rfl, used⟩ := h
  refine ⟨stable.held, ?_, stable.fd⟩
  have none_ : closed calls = [] := by
    apply List.filterMap_eq_nil_iff.mpr
    intro x hx
    obtain ⟨d, _, on⟩ := used x hx
    exact closed_of_transferOn on
  show c ∉ closed (s.log ++ calls)
  rw [closed, List.filterMap_append, ← closed, ← closed, none_, List.append_nil]
  exact stable.open_

theorem setDevice_closes (held : s.mConnection = some c) (device : UsbDevice)
    (opened : Option Int) : c ∈ closed (setDevice (some device) opened s).log := by
  have given : c ∈ closed (vacate s).log := by
    simp only [vacate, held, shut]
    simp [closed, State.call, UsbCall.closed]
  have grew : (vacate s).log <+: (setDevice (some device) opened s).log := by
    simp only [setDevice]
    split
    · cases opened with
      | none => exact List.prefix_append _ _
      | some fd => exact (List.prefix_append _ _).trans (List.prefix_append _ _)
    · exact List.prefix_append _ _
  exact (grew.filterMap _).subset given

/-- Until the next `OpenDevice`, `CloseDevice` or detach the connection lasts
exactly when no grant is delivered. -/
theorem session_stable_iff {before : List Event}
    (run : Run (guarded Enabled step) State.init before s) (iVid iPid : Int) (env : OpenEnv)
    (enabled : Enabled s (.openDevice iVid iPid env)) (opened : openDevice iVid iPid env s = (1, s₁))
    (held : s₁.mConnection = some c) (es : List Event)
    (window : ∀ e ∈ es, e.endsSession = false) :
    EachPoint (guarded Enabled step) s₁ es (fun _ t => Stable c t) ↔
      EachStep (guarded Enabled step) s₁ es (fun _ _ e _ => e.isGrant = false) := by
  have after : s₁ = step s (.openDevice iVid iPid env) := (congrArg Prod.snd opened).symm
  have owned : Owned s₁ := guarded_owned Owned.init (run.snoc ⟨enabled, after⟩)
  apply EachPoint.iff_steps (I := fun _ _ => True) (fun _ _ _ _ _ _ => trivial) trivial
    (owned.stable held)
  intro past t e t' mem _ stable hs
  obtain ⟨enabled, rfl⟩ := hs
  have within := window e mem
  cases e using Event.byEffect with
  | openDevice _ _ _ | closeDevice | detached _ _ => cases within
  | grant device reopened =>
      rw [step_grant]
      have gone := setDevice_closes (s := { t with pending := t.pending.erase device })
        stable.held device reopened
      constructor
      · intro still
        exact absurd gone still.open_
      · intro denied
        cases denied
  | quiet e quiet =>
      have no := (Event.isQuiet_spec quiet).1
      simp [no, (step_quiet t e quiet).stable stable]

/-! A first `OpenDevice` with the permission already held. -/

def permitted : OpenEnv := ⟨[scanner], true, some 7⟩

def opened : State := (openDevice 0 0 permitted State.init).2

theorem session_stable_iff_permitted :
    EachPoint (guarded Enabled step) opened [.sendData [1, 2, 3, 4] 4 [0] 100 4]
        (fun _ t => Stable ⟨0, scanner, 7⟩ t) ↔
      EachStep (guarded Enabled step) opened [.sendData [1, 2, 3, 4] 4 [0] 100 4]
        (fun _ _ e _ => e.isGrant = false) :=
  session_stable_iff (.nil _) 0 0 permitted rfl rfl rfl _ (by decide)

/-- The answer to the request of that same `OpenDevice` replaces its connection. -/
theorem own_grant_replaces_connection :
    ¬ EachPoint (guarded Enabled step) opened [.receive (.permission (some scanner) true) (some 8)]
        (fun _ t => Stable ⟨0, scanner, 7⟩ t) := by
  intro h
  have waiting : Enabled opened (.receive (.permission (some scanner) true) (some 8)) :=
    ⟨by decide, by decide, scanner, rfl, by decide⟩
  have stable := h _ [] _ rfl (.cons ⟨waiting, rfl⟩ (.nil _))
  exact absurd stable.held (by decide)

end NdkThreadSample.UsbDriver

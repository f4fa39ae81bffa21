import NdkThreadSample.Library.Custody
import NdkThreadSample.Library.LabelledRun
import NdkThreadSample.UsbDriver.Effects

/-!
Who owns a connection. `mConnection` is a slot with custody of at most one
connection: read as custody actions, the log is a legal trace that ends with
what the slot holds. `Ledger` keeps this for the log alone, since `setDevice`
closes a connection before it overwrites the field, and `Owned` ties the other
fields to it.
-/

namespace NdkThreadSample.UsbDriver
open Custody LabelledRun

def UsbCall.act : UsbCall → Option (Act UsbDeviceConnection)
  | .openDevice _ none => some .attempt
  | .openDevice _ (some c) => some (.acquire c)
  | .close c => some (.release c)
  | .claimInterface c _ | .releaseInterface c _ => some (.use c)
  | .bulkTransfer c _ _ _ _ | .controlTransfer c _ _ _ _ _ _ _ => some (.use c)
  | _ => none

def UsbCall.obtained : UsbCall → Option UsbDeviceConnection
  | .openDevice _ result => result
  | _ => none

def UsbCall.closed : UsbCall → Option UsbDeviceConnection
  | .close c => some c
  | _ => none

/-- The connections that the calls of a log obtained, and those that they closed. -/
def obtained (log : List UsbCall) : List UsbDeviceConnection := log.filterMap UsbCall.obtained

def closed (log : List UsbCall) : List UsbDeviceConnection := log.filterMap UsbCall.closed

variable {log log' : List UsbCall} {held : Option UsbDeviceConnection} {next : Nat}
  {c : UsbDeviceConnection} {x : UsbCall} {s t : State}

theorem acquired_act (log : List UsbCall) :
    (log.filterMap UsbCall.act).filterMap Act.acquired = obtained log := by
  rw [List.filterMap_filterMap, obtained]
  apply List.filterMap_congr
  intro x _
  cases x with
  | openDevice device result => cases result <;> rfl
  | _ => rfl

theorem released_act (log : List UsbCall) :
    (log.filterMap UsbCall.act).filterMap Act.released = closed log := by
  rw [List.filterMap_filterMap, closed]
  apply List.filterMap_congr
  intro x _
  cases x with
  | openDevice device result => cases result <;> rfl
  | _ => rfl

theorem act_of_transferOn (hx : x.transferOn = some c) : x.act = some (.use c) := by
  rcases UsbCall.transfer_inv hx with ⟨_, _, _, _, rfl⟩ | ⟨_, _, _, _, _, _, _, rfl⟩ <;> rfl

theorem obtained_of_transferOn (hx : x.transferOn = some c) : x.obtained = none := by
  rcases UsbCall.transfer_inv hx with ⟨_, _, _, _, rfl⟩ | ⟨_, _, _, _, _, _, _, rfl⟩ <;> rfl

theorem closed_of_transferOn (hx : x.transferOn = some c) : x.closed = none := by
  rcases UsbCall.transfer_inv hx with ⟨_, _, _, _, rfl⟩ | ⟨_, _, _, _, _, _, _, rfl⟩ <;> rfl

/-- The interface was claimed at some point of `log` and released at its end. -/
def Unclaimed (c : UsbDeviceConnection) (log : List UsbCall) : Prop :=
  ∃ before, log = before ++ [.releaseInterface c c.device.interface0] ∧
    .claimInterface c c.device.interface0 ∈ before

/-- Every connection is closed right after its claimed interface is released. -/
def ReleasedFirst (log : List UsbCall) : Prop :=
  ∀ before c after, log = before ++ .close c :: after → Unclaimed c before

theorem ReleasedFirst.snoc (h : ReleasedFirst log) (hx : ∀ c, x = .close c → Unclaimed c log) :
    ReleasedFirst (log ++ [x]) := by
  intro before c after hlog
  cases split_snoc hlog with
  | inl new =>
      obtain ⟨rfl, hc, _⟩ := new
      exact hx c hc.symm
  | inr old =>
      obtain ⟨front, _, hlog⟩ := old
      exact h before c front hlog

/-- What the calls on connections have come to. -/
structure Ledger (log : List UsbCall) (held : Option UsbDeviceConnection) (next : Nat) :
    Prop where
  legal : Legal none (log.filterMap UsbCall.act) held
  fresh : ∀ c ∈ obtained log, c.serial < next
  once : (obtained log).Nodup
  released : ReleasedFirst log

/-- A call that obtains no connection keeps the ledger when it may be made. -/
theorem Ledger.keep {held' : Option UsbDeviceConnection} (h : Ledger log held next)
    (quiet : x.obtained = none) (legal : Legal none ((log ++ [x]).filterMap UsbCall.act) held')
    (unclaimed : ∀ c, x = .close c → Unclaimed c log) : Ledger (log ++ [x]) held' next := by
  have same : obtained (log ++ [x]) = obtained log := by simp [obtained, quiet]
  refine ⟨legal, ?_, ?_, h.released.snoc unclaimed⟩
  · rw [same]
    exact h.fresh
  · rw [same]
    exact h.once

theorem Ledger.other (h : Ledger log held next) (hx : x.act = none) :
    Ledger (log ++ [x]) held next := by
  have quiet : x.obtained = none := by
    cases x with
    | openDevice device result => cases result <;> cases hx
    | _ => rfl
  apply h.keep quiet
  · simpa [hx] using h.legal
  · intro c hc
    subst hc
    cases hx

theorem Ledger.use (h : Ledger log (some c) next) (hx : x.act = some (.use c))
    (quiet : x.obtained = none) : Ledger (log ++ [x]) (some c) next := by
  apply h.keep quiet
  · simpa [hx] using h.legal.snoc (.use c)
  · intro d hd
    subst hd
    cases hx

theorem Ledger.close (h : Ledger log (some c) next) (unclaimed : Unclaimed c log) :
    Ledger (log ++ [.close c]) none next := by
  apply h.keep rfl
  · simpa [UsbCall.act] using h.legal.snoc (.release c)
  · intro d hd
    rwa [← UsbCall.close.inj hd]

theorem Ledger.refused (h : Ledger log none next) (device : UsbDevice) :
    Ledger (log ++ [.openDevice device none]) none next := by
  apply h.keep rfl
  · simpa [UsbCall.act] using h.legal.snoc .attempt
  · intro d hd
    cases hd

theorem Ledger.open (h : Ledger log none next) (device : UsbDevice) (hc : c.serial = next) :
    Ledger (log ++ [.openDevice device (some c)]) (some c) (next + 1) := by
  have same : obtained (log ++ [.openDevice device (some c)]) = obtained log ++ [c] := by
    simp [obtained, UsbCall.obtained]
  refine ⟨by simpa [UsbCall.act] using h.legal.snoc (.acquire c), ?_, ?_, h.released.snoc ?_⟩
  · intro d hd
    rw [same] at hd
    cases List.mem_append.mp hd with
    | inl old => exact Nat.lt_succ_of_lt (h.fresh d old)
    | inr new => rw [List.mem_singleton.mp new]; omega
  · rw [same]
    refine List.nodup_append.mpr ⟨h.once, by simp, ?_⟩
    intro d old e new
    have older := h.fresh d old
    rw [List.mem_singleton.mp new]
    intro same
    subst same
    omega
  · intro d hd
    cases hd

theorem Ledger.quiet (h : Ledger s.log s.mConnection s.nextSerial) (k : Quiet s t) :
    Ledger t.log t.mConnection t.nextSerial := by
  obtain ⟨calls, pending, rfl, used⟩ := k
  show Ledger (s.log ++ calls) s.mConnection s.nextSerial
  induction calls using List.reverseRecOn with
  | nil => simpa using h
  | append_singleton calls x ih =>
      obtain ⟨c, held, hx⟩ := used x (by simp)
      have before := ih (fun y hy => used y (by simp [hy]))
      rw [held] at before ⊢
      rw [← List.append_assoc]
      exact before.use (act_of_transferOn hx) (obtained_of_transferOn hx)

/-- The fields belong to `c`, and its interface has been claimed. -/
structure Bound (s : State) (c : UsbDeviceConnection) : Prop where
  interface : s.mUsbInterface = some c.device.interface0
  out : s.outPoint = some c.device.interface0.endpoint1
  inp : s.inPoint = some c.device.interface0.endpoint0
  fd : s.mUsbFd = c.fileDescriptor
  claimed : .claimInterface c c.device.interface0 ∈ s.log

structure Owned (s : State) : Prop where
  ledger : Ledger s.log s.mConnection s.nextSerial
  bound : ∀ c, s.mConnection = some c → Bound s c
  managed : s.mUsbManager = false → s.mConnection = none

theorem Owned.init : Owned State.init where
  ledger := ⟨.nil none, by simp [obtained, State.init], by simp [obtained, State.init],
    by intro before c after h; simp [State.init] at h⟩
  bound c hc := by cases hc
  managed _ := rfl

theorem Owned.quiet (h : Owned s) (k : Quiet s t) : Owned t := by
  have ledger := h.ledger.quiet k
  obtain ⟨calls, pending, rfl, _⟩ := k
  refine ⟨ledger, ?_, h.managed⟩
  intro c hc
  have b := h.bound c hc
  exact ⟨b.interface, b.out, b.inp, b.fd, List.mem_append_left calls b.claimed⟩

theorem Owned.other (h : Owned s) (hx : x.act = none) : Owned (s.call x) := by
  refine ⟨h.ledger.other hx, ?_, h.managed⟩
  intro c hc
  have b := h.bound c hc
  exact ⟨b.interface, b.out, b.inp, b.fd, List.mem_append_left [x] b.claimed⟩

theorem Owned.idle (ledger : Ledger s.log none s.nextSerial) (empty : s.mConnection = none) :
    Owned s := by
  refine ⟨by rw [empty]; exact ledger, ?_, fun _ => empty⟩
  intro c hc
  rw [empty] at hc
  cases hc

/-- The held connection is given up: its interface is released, then it is closed. -/
theorem Owned.shut (h : Owned s) (held : s.mConnection = some c) :
    Ledger (shut c s).log none (shut c s).nextSerial := by
  have b := h.bound c held
  have claimed := h.ledger
  rw [held] at claimed
  have unclaimed := claimed.use (x := .releaseInterface c c.device.interface0) rfl rfl
  have done := unclaimed.close ⟨s.log, rfl, b.claimed⟩
  simpa [UsbDriver.shut, b.interface, State.call] using done

theorem Owned.vacate (h : Owned s) : Ledger (vacate s).log none (vacate s).nextSerial := by
  cases held : s.mConnection with
  | none => simpa [UsbDriver.vacate, held] using h.ledger
  | some c => simpa [UsbDriver.vacate, held] using h.shut held

theorem Owned.setDevice (h : Owned s) (device : Option UsbDevice) (opened : Option Int) :
    Owned (setDevice device opened s) := by
  cases device with
  | none => exact h
  | some device =>
      have empty := h.vacate
      simp only [UsbDriver.setDevice]
      simp only [vacate_mUsbManager]
      split
      · cases opened with
        | none => exact .idle (by simpa [State.call] using empty.refused device) rfl
        | some fd =>
            have acquired := empty.open (c := ⟨_, device, fd⟩) device rfl
            refine ⟨acquired.use rfl rfl, ?_, ?_⟩
            · intro c hc
              cases hc
              exact ⟨rfl, rfl, rfl, rfl, by simp [State.call]⟩
            · intro unmanaged
              simp_all [State.call, vacate_mUsbManager]
      · next unmanaged =>
          have none_ := h.managed (by simpa using unmanaged)
          have same : UsbDriver.vacate s = s := by simp [UsbDriver.vacate, none_]
          rw [same]
          exact h.other rfl

theorem Owned.dropConnection (h : Owned s) :
    Ledger (dropConnection s).log none (dropConnection s).nextSerial := by
  cases held : s.mConnection with
  | none => simpa [UsbDriver.dropConnection, held] using h.ledger
  | some c => simpa [UsbDriver.dropConnection, held] using h.shut held

theorem Owned.unregister (h : Owned s) (empty : s.mConnection = none) : Owned (unregister s) := by
  have ledger := h.ledger
  rw [empty] at ledger
  simp only [UsbDriver.unregister]
  split
  · exact .idle (ledger.other rfl) empty
  · exact h

theorem Owned.closeDevice (h : Owned s) : Owned (closeDevice s).2 :=
  Owned.unregister (.idle h.dropConnection (dropConnection_mConnection s))
    (dropConnection_mConnection s)

/-- `Owned` reads none of the fields that `FindUsbList` sets before it opens. -/
theorem Owned.setup (h : Owned s) (mUsbManager : Bool) (mDevList : List (List Char))
    (mListSize registrations : Nat) (pending : List UsbDevice) (exited : Bool)
    (managed : mUsbManager = false → s.mConnection = none) :
    Owned { s with mUsbManager, mDevList, mListSize, registrations, pending, exited } where
  ledger := h.ledger
  bound c hc := by
    have b := h.bound c hc
    exact ⟨b.interface, b.out, b.inp, b.fd, b.claimed⟩
  managed := managed

theorem Owned.asked (h : Owned s) (device : UsbDevice) : Owned (asked device s) := by
  have called := (h.other (x := .requestPermission device) rfl).other (x := .registerReceiver) rfl
  have set := called.setup true s.mDevList s.mListSize (s.registrations + 1)
    (s.pending ++ [device]) s.exited (by simp)
  simpa [UsbDriver.asked, State.call] using set

theorem Owned.findUsbList (h : Owned s) (env : OpenEnv) : Owned (findUsbList env s).2 := by
  rw [findUsbList_eq]
  split
  · exact h.setup true s.mDevList s.mListSize s.registrations s.pending s.exited (by simp)
  · next device _ =>
      split
      · exact (h.asked device).setDevice (some device) env.opened
      · exact h.asked device

theorem Owned.step (h : Owned s) (e : Event) : Owned (step s e) := by
  cases e using Event.byEffect with
  | openDevice iVid iPid env =>
      exact (h.setup s.mUsbManager _ _ s.registrations s.pending s.exited h.managed).findUsbList env
  | closeDevice => exact h.closeDevice
  | grant device opened =>
      have answered := h.setup s.mUsbManager s.mDevList s.mListSize s.registrations
        (s.pending.erase device) s.exited h.managed
      exact answered.setDevice (some device) opened
  | detached device opened =>
      rw [step_detached]
      split
      · exact h.closeDevice.setup _ _ _ _ _ true h.closeDevice.managed
      · exact h
  | quiet e quiet => exact h.quiet (step_quiet s e quiet)

/-- A connection that a transfer goes to has been obtained before it and not closed. -/
theorem Ledger.transfer_open {before after : List UsbCall}
    (h : Ledger (before ++ x :: after) held next) (hx : x.transferOn = some c) :
    c ∈ obtained before ∧ c ∉ closed before := by
  have legal := h.legal
  rw [List.filterMap_append, List.filterMap_cons, act_of_transferOn hx] at legal
  obtain ⟨slot, _, front, now, _⟩ := legal.at_split
  cases now
  have once := h.once
  rw [obtained, List.filterMap_append] at once
  have fresh : ((before.filterMap UsbCall.act).filterMap Act.acquired).Nodup := by
    rw [acquired_act]
    exact (List.nodup_append.mp once).1
  have open_ := ((front.fresh_once fresh).2 c).mpr rfl
  rwa [acquired_act, released_act] at open_

/-- The law of the driver's connections, at one state. -/
structure ConnectionLaw (s : State) : Prop where
  /-- One obtained from `openDevice` and not closed is `mConnection`, and conversely. -/
  open_iff_held : ∀ c, (c ∈ obtained s.log ∧ c ∉ closed s.log) ↔ s.mConnection = some c
  obtained_once : (obtained s.log).Nodup
  closed_once : (closed s.log).Nodup
  released_first : ReleasedFirst s.log
  bound : ∀ c, s.mConnection = some c →
    s.mUsbInterface = some c.device.interface0 ∧ s.outPoint = some c.device.interface0.endpoint1 ∧
      s.inPoint = some c.device.interface0.endpoint0 ∧ s.mUsbFd = c.fileDescriptor
  transfers_open : ∀ before x after c, s.log = before ++ x :: after → x.transferOn = some c →
    c ∈ obtained before ∧ c ∉ closed before

theorem Owned.law (h : Owned s) : ConnectionLaw s := by
  have fresh : ((s.log.filterMap UsbCall.act).filterMap Act.acquired).Nodup := by
    rw [acquired_act]
    exact h.ledger.once
  obtain ⟨closed_once, open_iff⟩ := h.ledger.legal.fresh_once fresh
  simp only [acquired_act, released_act] at closed_once open_iff
  refine ⟨open_iff, h.ledger.once, closed_once, h.ledger.released, ?_, ?_⟩
  · intro c hc
    have b := h.bound c hc
    exact ⟨b.interface, b.out, b.inp, b.fd⟩
  · intro before x after c hlog hx
    have ledger := h.ledger
    rw [hlog] at ledger
    exact ledger.transfer_open hx

theorem guarded_owned {es : List Event} (start : Owned s)
    (run : Run (guarded Enabled UsbDriver.step) s es t) : Owned t :=
  run.invariant (fun s e s' hi hs => by rw [hs.2]; exact hi.step e) start

/-- Every state that events of any kind and in any order lead to obeys the law. -/
theorem connection_law (es : List Event) :
    EachPoint (ofFn UsbDriver.step) State.init es (fun _ s => ConnectionLaw s) := by
  refine EachPoint.of_history (I := fun _ s => Owned s) ?_ ?_ ?_
  · intro past s e s' owned hs
    rw [hs]
    exact owned.step e
  · exact Owned.init
  · intro past s owned
    exact owned.law

end NdkThreadSample.UsbDriver

import NdkThreadSample.UsbDriver.Effects

/-!
The calls that each method adds to the log, for any property that holds of the
calls it can make, and the fields that giving a connection up leaves alone.
-/

namespace NdkThreadSample.UsbDriver
open Growth
variable {P : UsbCall → Prop} {s : State} {c : UsbDeviceConnection} {device : UsbDevice}

/-- The calls that give a connection up. -/
structure GivesUp (P : UsbCall → Prop) (c : UsbDeviceConnection) : Prop where
  release : ∀ i, P (.releaseInterface c i)
  close : P (.close c)

/-- The calls that make a connection to the device, or try to. -/
structure Reaches (P : UsbCall → Prop) (device : UsbDevice) : Prop where
  refused : P (.openDevice device none)
  onNull : P (.openDeviceOnNull device)
  made : ∀ c, c.device = device → P (.openDevice device (some c))
  claimed : ∀ c, c.device = device → P (.claimInterface c device.interface0)

theorem shut_gains (gives : GivesUp P c) (s : State) : Gains P s.log (shut c s).log := by
  simp only [shut]
  cases s.mUsbInterface with
  | none => exact .snoc _ gives.close
  | some i =>
      have released : Gains P s.log (s.call (.releaseInterface c i)).log := .snoc _ (gives.release i)
      exact released.trans (.snoc _ gives.close)

theorem vacate_gains (gives : ∀ c, s.mConnection = some c → GivesUp P c) :
    Gains P s.log (vacate s).log := by
  simp only [vacate]
  cases held : s.mConnection with
  | none => exact .refl _ _
  | some c => exact shut_gains (gives c held) s

theorem dropConnection_gains (gives : ∀ c, s.mConnection = some c → GivesUp P c) :
    Gains P s.log (dropConnection s).log := by
  simp only [dropConnection]
  cases held : s.mConnection with
  | none => exact .refl _ _
  | some c => exact shut_gains (gives c held) s

theorem closeDevice_gains (gives : ∀ c, s.mConnection = some c → GivesUp P c)
    (unregistered : ∀ b, P (.unregisterReceiver b)) : Gains P s.log (closeDevice s).2.log := by
  simp only [closeDevice, unregister]
  split
  · exact (dropConnection_gains gives).trans (.snoc _ (unregistered _))
  · exact dropConnection_gains gives

theorem setDevice_gains (gives : ∀ c, s.mConnection = some c → GivesUp P c)
    (reaches : Reaches P device) (opened : Option Int) :
    Gains P s.log (setDevice (some device) opened s).log := by
  have vacated := vacate_gains gives
  simp only [setDevice]
  split
  · cases opened with
    | none => exact vacated.trans (.snoc _ reaches.refused)
    | some fd =>
        have made : Gains P s.log ((vacate s).call
            (.openDevice device (some ⟨(vacate s).nextSerial, device, fd⟩))).log :=
          vacated.trans (.snoc _ (reaches.made _ rfl))
        exact made.trans (.snoc _ (reaches.claimed ⟨_, device, fd⟩ rfl))
  · exact vacated.trans (.snoc _ reaches.onNull)

theorem asked_gains (requested : P (.requestPermission device)) (registered : P .registerReceiver)
    (s : State) : Gains P s.log (asked device s).log := by
  refine ⟨[.requestPermission device, .registerReceiver], rfl, fun x hx => ?_⟩
  rcases List.mem_pair.mp hx with rfl | rfl
  · exact requested
  · exact registered

/-! What is left alone. -/

structure SameOffice (s t : State) : Prop where
  pending : t.pending = s.pending
  nextSerial : t.nextSerial = s.nextSerial
  mConnection : t.mConnection = s.mConnection
  mUsbFd : t.mUsbFd = s.mUsbFd

theorem shut_sameOffice (c : UsbDeviceConnection) (s : State) : SameOffice s (shut c s) := by
  simp only [shut]
  cases s.mUsbInterface <;> exact ⟨rfl, rfl, rfl, rfl⟩

theorem vacate_sameOffice (s : State) : SameOffice s (vacate s) := by
  unfold vacate
  split
  · exact ⟨rfl, rfl, rfl, rfl⟩
  · next c _ =>
      have same := shut_sameOffice c s
      exact ⟨same.pending, same.nextSerial, same.mConnection, same.mUsbFd⟩

/-- `closeDevice` ends without a connection. -/
structure Closed (s t : State) : Prop where
  pending : t.pending = s.pending
  nextSerial : t.nextSerial = s.nextSerial
  mConnection : t.mConnection = none
  mUsbFd : t.mUsbFd = s.mUsbFd

theorem closeDevice_closed (s : State) : Closed s (closeDevice s).2 := by
  have dropped : Closed s (dropConnection s) := by
    unfold dropConnection
    split
    · next none_ => exact ⟨rfl, rfl, none_, rfl⟩
    · next c _ =>
        have same := shut_sameOffice c s
        exact ⟨same.pending, same.nextSerial, rfl, same.mUsbFd⟩
  simp only [closeDevice, unregister]
  split <;> exact ⟨dropped.pending, dropped.nextSerial, dropped.mConnection, dropped.mUsbFd⟩

/-- How `setDevice` ends: it made a connection, was refused one, or had no manager. -/
inductive SetResult (device : UsbDevice) (s t : State) : Option Int → Prop
  | made {fd : Int} (log : t.log = (vacate s).log ++
        [.openDevice device (some ⟨s.nextSerial, device, fd⟩),
          .claimInterface ⟨s.nextSerial, device, fd⟩ device.interface0])
      (mConnection : t.mConnection = some ⟨s.nextSerial, device, fd⟩)
      (nextSerial : t.nextSerial = s.nextSerial + 1) (mUsbFd : t.mUsbFd = fd) :
      SetResult device s t (some fd)
  | refused (log : t.log = (vacate s).log ++ [.openDevice device none])
      (mConnection : t.mConnection = none) (nextSerial : t.nextSerial = s.nextSerial)
      (mUsbFd : t.mUsbFd = s.mUsbFd) : SetResult device s t none
  | unmanaged {opened : Option Int} (unset : s.mUsbManager = false)
      (log : t.log = (vacate s).log ++ [.openDeviceOnNull device])
      (mConnection : t.mConnection = s.mConnection) (nextSerial : t.nextSerial = s.nextSerial)
      (mUsbFd : t.mUsbFd = s.mUsbFd) : SetResult device s t opened

theorem setDevice_result (device : UsbDevice) (opened : Option Int) (s : State) :
    SetResult device s (setDevice (some device) opened s) opened := by
  have same := vacate_sameOffice s
  simp only [setDevice, vacate_mUsbManager]
  split
  · cases opened with
    | none => exact .refused rfl rfl same.nextSerial same.mUsbFd
    | some fd =>
        refine .made ?_ ?_ (congrArg (· + 1) same.nextSerial) rfl
        · simp [State.call, same.nextSerial]
        · simp [State.call, same.nextSerial]
  · next unset =>
      exact .unmanaged (by simpa using unset) rfl same.mConnection same.nextSerial same.mUsbFd

theorem setDevice_pending (device : UsbDevice) (opened : Option Int) (s : State) :
    (setDevice (some device) opened s).pending = s.pending := by
  have vacated := (vacate_sameOffice s).pending
  simp only [setDevice]
  split
  · cases opened <;> exact vacated
  · exact vacated

end NdkThreadSample.UsbDriver

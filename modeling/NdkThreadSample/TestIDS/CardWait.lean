import NdkThreadSample.TestIDS.Session

/-!
The decision of `WaitForCard`. A scan needs a closed cover, free sensors 2 to 4
and a card at sensor 1. `CoverFlagIs` and `SensorFlagIs` answer false both for
a flag that differs and for a status that could not be read, and the latter
asks for all the sensors of its mask; the first two tests of `WaitForCard` are
made with a negation.
-/

namespace NdkThreadSample.TestIDS
variable (C : Common) {s : Ids} {tab : PfnTab}

/-- The poll brings a status. -/
def Poll.read (poll : Poll) : Prop := poll.connect = .ok ∧ poll.getStatus = .ok

instance (poll : Poll) : Decidable poll.read :=
  inferInstanceAs (Decidable (_ = _ ∧ _ = _))

theorem getDevStatus_read (stResult : StatusResult) (poll : Poll)
    (open_ : s.pstPfnTab = some tab) :
    ((getDevStatus C stResult poll s).1 = true ↔ poll.read) ∧
      (poll.read → (getDevStatus C stResult poll s).2.1 = poll.stResult) := by
  simp only [getDevStatus, open_, Poll.read]
  by_cases connected : poll.connect = .ok
  · cases online : s.s_bDevOnLine <;> simp [connected, online, Ids.issue]
  · simp [connected]

theorem coverFlagIs_iff (enFlag : Nat) (poll : Poll) (open_ : s.pstPfnTab = some tab) :
    (coverFlagIs C enFlag poll s).1 = true ↔ poll.read ∧ enFlag = poll.stResult.ulCOVER := by
  obtain ⟨read, result⟩ := getDevStatus_read C StatusResult.zero poll open_
  simp only [coverFlagIs, open_, Bool.and_eq_true, decide_eq_true_eq, read]
  constructor
  · intro h
    exact ⟨h.1, by rw [h.2, result h.1]⟩
  · intro h
    exact ⟨h.1, by rw [h.2, result h.1]⟩

/-- The answer is about all the sensors of the mask. -/
theorem sensorFlagIs_iff (enSensorFlag enFlag : Nat) (poll : Poll)
    (open_ : s.pstPfnTab = some tab) :
    (sensorFlagIs C enSensorFlag enFlag poll s).1 = true ↔ poll.read ∧
      (enSensorFlag &&& C.sensors.sensor1 ≠ 0 → enFlag = poll.stResult.ulSensor1) ∧
      (enSensorFlag &&& C.sensors.sensor2 ≠ 0 → enFlag = poll.stResult.ulSensor2) ∧
      (enSensorFlag &&& C.sensors.sensor3 ≠ 0 → enFlag = poll.stResult.ulSensor3) ∧
      (enSensorFlag &&& C.sensors.sensor4 ≠ 0 → enFlag = poll.stResult.ulSensor4) := by
  obtain ⟨read, result⟩ := getDevStatus_read C StatusResult.zero poll open_
  simp only [sensorFlagIs, open_]
  by_cases was : poll.read
  · simp only [read.mpr was, if_true, result was, was, true_and]
    split_ifs <;> simp_all
  · have unread : (getDevStatus C StatusResult.zero poll s).1 = false := by
      simpa [was] using read
    simp [unread, was]

/-- The mask of `WaitForCard` selects sensors 2 to 4 and not sensor 1. -/
theorem blocked_mask :
    (C.sensors.sensor2 ||| C.sensors.sensor3 ||| C.sensors.sensor4) &&& C.sensors.sensor1 = 0 ∧
      (C.sensors.sensor2 ||| C.sensors.sensor3 ||| C.sensors.sensor4) &&& C.sensors.sensor2 ≠ 0 ∧
      (C.sensors.sensor2 ||| C.sensors.sensor3 ||| C.sensors.sensor4) &&& C.sensors.sensor3 ≠ 0 ∧
      (C.sensors.sensor2 ||| C.sensors.sensor3 ||| C.sensors.sensor4) &&& C.sensors.sensor4 ≠ 0 := by
  obtain ⟨h1, h2, h3, h4⟩ := C.sensors.nonzero
  obtain ⟨d12, d13, d14, d23, d24, d34⟩ := C.sensors.disjoint
  simp only [Nat.and_or_distrib_right, Nat.and_self, ne_eq, Nat.or_eq_zero_iff]
  rw [Nat.and_comm C.sensors.sensor2, Nat.and_comm C.sensors.sensor3,
    Nat.and_comm C.sensors.sensor4]
  simp [d12, d13, d14, h2, h3, h4]

theorem waitForCard_iff (cover blocked inserted : Poll) (open_ : s.pstPfnTab = some tab) :
    (waitForCard C cover blocked inserted s).1 = true ↔
      ¬ (cover.read ∧ C.statusDsFlagLow = cover.stResult.ulCOVER) ∧
      ¬ (blocked.read ∧ C.statusDsFlagLow = blocked.stResult.ulSensor2 ∧
          C.statusDsFlagLow = blocked.stResult.ulSensor3 ∧
          C.statusDsFlagLow = blocked.stResult.ulSensor4) ∧
      inserted.read ∧ C.statusDsFlagLow = inserted.stResult.ulSensor1 := by
  obtain ⟨m1, m2, m3, m4⟩ := blocked_mask C
  obtain ⟨h1, _, _, _⟩ := C.sensors.nonzero
  obtain ⟨d12, d13, d14, _, _, _⟩ := C.sensors.disjoint
  have polled := (coverFlagIs_talks C C.statusDsFlagLow cover s).gScanConf.2.trans open_
  have polledTwice := (sensorFlagIs_talks C
    (C.sensors.sensor2 ||| C.sensors.sensor3 ||| C.sensors.sensor4) C.statusDsFlagLow blocked
    (coverFlagIs C C.statusDsFlagLow cover s).2).gScanConf.2.trans polled
  have coverLow := coverFlagIs_iff C C.statusDsFlagLow cover open_
  have allLow := sensorFlagIs_iff C
    (C.sensors.sensor2 ||| C.sensors.sensor3 ||| C.sensors.sensor4) C.statusDsFlagLow blocked polled
  have cardLow := sensorFlagIs_iff C C.sensors.sensor1 C.statusDsFlagLow inserted polledTwice
  simp only [m1, m2, m3, m4, ne_eq, not_true_eq_false, not_false_iff, false_imp_iff, true_imp_iff,
    true_and] at allLow
  simp only [d12, d13, d14, h1, Nat.and_self, ne_eq, not_true_eq_false, not_false_iff,
    false_imp_iff, true_imp_iff, and_true] at cardLow
  simp only [waitForCard, open_]
  rw [← coverLow, ← allLow, ← cardLow]
  split
  · simp_all
  · split <;> simp_all

/-- What a true answer promises about the polls of the call. -/
def PromisesCard (cover blocked inserted : Poll) (answer : Bool) : Prop :=
  answer = true →
    (cover.read ∧ cover.stResult.ulCOVER ≠ C.statusDsFlagLow) ∧
    (blocked.read ∧ blocked.stResult.ulSensor2 ≠ C.statusDsFlagLow ∧
      blocked.stResult.ulSensor3 ≠ C.statusDsFlagLow ∧
      blocked.stResult.ulSensor4 ≠ C.statusDsFlagLow) ∧
    (inserted.read ∧ inserted.stResult.ulSensor1 = C.statusDsFlagLow)

/-- The call has no session, finds no card, finds the cover open or all three
sensors blocked, or reads both statuses and finds none of them blocked. -/
def Decided (cover blocked inserted : Poll) (s : Ids) : Prop :=
  s.pstPfnTab = none ∨
  ¬ (inserted.read ∧ inserted.stResult.ulSensor1 = C.statusDsFlagLow) ∨
  (cover.read ∧ cover.stResult.ulCOVER = C.statusDsFlagLow) ∨
  (blocked.read ∧ blocked.stResult.ulSensor2 = C.statusDsFlagLow ∧
    blocked.stResult.ulSensor3 = C.statusDsFlagLow ∧
    blocked.stResult.ulSensor4 = C.statusDsFlagLow) ∨
  (cover.read ∧ blocked.read ∧ blocked.stResult.ulSensor2 ≠ C.statusDsFlagLow ∧
    blocked.stResult.ulSensor3 ≠ C.statusDsFlagLow ∧
    blocked.stResult.ulSensor4 ≠ C.statusDsFlagLow)

theorem waitForCard_promises_iff (cover blocked inserted : Poll) (s : Ids) :
    PromisesCard C cover blocked inserted (waitForCard C cover blocked inserted s).1 ↔
      Decided C cover blocked inserted s := by
  cases open_ : s.pstPfnTab with
  | none => simp [PromisesCard, Decided, waitForCard, open_]
  | some tab =>
      rw [PromisesCard, waitForCard_iff C cover blocked inserted open_]
      simp only [Decided, open_, reduceCtorEq, false_or, eq_comm (a := C.statusDsFlagLow)]
      constructor
      · intro promise
        by_cases card : inserted.read ∧ inserted.stResult.ulSensor1 = C.statusDsFlagLow
        · by_cases openCover : cover.read ∧ cover.stResult.ulCOVER = C.statusDsFlagLow
          · exact .inr (.inl openCover)
          · by_cases all : blocked.read ∧ blocked.stResult.ulSensor2 = C.statusDsFlagLow ∧
                blocked.stResult.ulSensor3 = C.statusDsFlagLow ∧
                blocked.stResult.ulSensor4 = C.statusDsFlagLow
            · exact .inr (.inr (.inl all))
            · obtain ⟨coverRead, sensors, _⟩ := promise ⟨openCover, all, card⟩
              exact .inr (.inr (.inr ⟨coverRead.1, sensors⟩))
        · exact .inl card
      · rintro decided ⟨shut, some_, card⟩
        rcases decided with noCard | openCover | all | ⟨coverRead, sensors⟩
        · exact absurd card noCard
        · exact absurd openCover shut
        · exact absurd all some_
        · exact ⟨⟨coverRead, fun low => shut ⟨coverRead, low⟩⟩, sensors, card⟩

/-! Sensor 2 is blocked while sensors 3 and 4 are free. -/

def polled (ulCOVER ulSensor1 ulSensor2 ulSensor3 ulSensor4 : Nat) : Poll where
  connect := .ok
  getStatus := .ok
  stResult := ⟨ulCOVER, ulSensor1, ulSensor2, ulSensor3, ulSensor4⟩

theorem blocked_sensor_is_missed :
    ¬ PromisesCard latinCommon (polled 1 0 0 1 1) (polled 1 0 0 1 1) (polled 1 0 0 1 1)
      (waitForCard latinCommon (polled 1 0 0 1 1) (polled 1 0 0 1 1) (polled 1 0 0 1 1)
        { Ids.init with pstPfnTab := some ⟨1⟩ }).1 := by
  intro promise
  have free := (promise (by decide)).2.1.2.1
  exact free rfl

end NdkThreadSample.TestIDS

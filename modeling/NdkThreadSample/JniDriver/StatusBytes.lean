import NdkThreadSample.JniDriver.Entries

/-!
The five sensor values on their way to Java. They are stored as bytes and then
copied as a C string, so the copy ends at the first value that is zero.
-/

namespace NdkThreadSample.JniDriver
open CText ManagedArray TestIDS

def values (stResult : StatusResult) : List Nat :=
  [stResult.ulCOVER, stResult.ulSensor1, stResult.ulSensor2, stResult.ulSensor3,
    stResult.ulSensor4]

def Header.charMax (H : Header) : Nat := if H.charSigned then 127 else 255

def Delivers (stResult : StatusResult) (r : StatusReturn) : Prop :=
  r.ret = 0 → (r.szStatus.take 5).map UInt16.toNat = values stResult

/-- The driver is open, answers and has a status. -/
def Reported (connect : IdsRet) (status : IdsRet × StatusResult) (s : Ids) : Prop :=
  s.pstPfnTab ≠ none ∧ connect = .ok ∧ status.1 = .ok

def leading (stResult : StatusResult) : List Nat := (values stResult).takeWhile (· ≠ 0)

/-- From the first zero value on the array holds the values already. -/
def HeldBefore (stResult : StatusResult) (szStatus : List JChar) : Prop :=
  ((szStatus.take 5).drop (leading stResult).length).map UInt16.toNat =
    (values stResult).drop (leading stResult).length

theorem Header.toNat_widen (H : Header) {v : Nat} (fits : v ≤ H.charMax) :
    (widen H.charSigned (.ofNat v)).toNat = v := by
  have small : v < 256 := by
    unfold Header.charMax at fits
    split at fits <;> omega
  have hbyte : (UInt8.ofNat v).toNat = v := UInt8.toNat_ofNat_of_lt' small
  cases signed : H.charSigned with
  | false => simpa [widen] using hbyte
  | true =>
      simp only [Header.charMax, signed, if_true] at fits
      have hmsb : (UInt8.ofNat v).toBitVec.msb = false := by
        rw [BitVec.msb_eq_false_iff_two_mul_lt]
        change 2 * (UInt8.ofNat v).toNat < 2 ^ 8
        omega
      change ((UInt8.ofNat v).toBitVec.signExtend 16).toNat = v
      rw [BitVec.signExtend_eq_setWidth_of_msb_false hmsb, BitVec.toNat_setWidth]
      change (UInt8.ofNat v).toNat % 2 ^ 16 = v
      omega

/-- The bytes before the first zero one are the leading values. -/
theorem takeWhile_bytes {vs : List Nat} (fits : ∀ v ∈ vs, v < 256) :
    (vs.map UInt8.ofNat).takeWhile (· ≠ 0) = (vs.takeWhile (· ≠ 0)).map UInt8.ofNat := by
  induction vs with
  | nil => rfl
  | cons v vs ih =>
      have hv : v < 256 := fits v List.mem_cons_self
      have hzero : UInt8.ofNat v = 0 ↔ v = 0 := by
        rw [← UInt8.toNat_inj, UInt8.toNat_ofNat_of_lt' hv]
        rfl
      have hvs := ih (fun w hw => fits w (List.mem_cons_of_mem _ hw))
      by_cases h : v = 0
      · simp [h]
      · have hne : UInt8.ofNat v ≠ 0 := fun he => h (hzero.mp he)
        simpa [h, hne] using hvs

section
variable (H : Header) (javaVM : Int) (userData : IdsRet) (iType : Int)
  (szStatus : JavaArray JChar) (connect : IdsRet) (status : IdsRet × StatusResult) (s : Ids)

theorem getStatus_ret_eq_zero_iff :
    (getStatus H javaVM userData iType szStatus connect status s).ret = 0 ↔
      Reported connect status s := by
  simp only [getStatus, H.retCode_eq_zero]
  cases open_ : s.pstPfnTab with
  | none => simp [idsCsGetStatus, setUserData_pstPfnTab, open_, Reported]
  | some tab =>
      by_cases hc : connect = .ok <;> by_cases hs : status.1 = .ok <;>
        simp [idsCsGetStatus, setUserData_pstPfnTab, open_, Reported, hc, hs]

/-- Only the values before the first zero one are copied. -/
theorem getStatus_szStatus (room : 5 ≤ szStatus.content.length)
    (fits : ∀ v ∈ values status.2, v ≤ H.charMax) (reported : Reported connect status s) :
    (getStatus H javaVM userData iType szStatus connect status s).szStatus =
      write szStatus.content 0
        ((leading status.2).map fun v => widen H.charSigned (.ofNat v)) := by
  have ret := (getStatus_ret_eq_zero_iff H javaVM userData iType szStatus connect status s).mpr
    reported
  obtain ⟨isOpen, rfl, hs⟩ := reported
  obtain ⟨tab, open_⟩ := Option.ne_none_iff_exists'.mp isOpen
  have tmp : (idsCsGetStatus iType (zeros 256) .ok status (setUserData javaVM userData s)).2.1 =
      write (zeros 256) 0 ((values status.2).map UInt8.ofNat) := by
    simp [idsCsGetStatus, setUserData_pstPfnTab, open_, hs, values]
  have text : (cstr (write (zeros 256) 0 ((values status.2).map UInt8.ofNat))).chars =
      (leading status.2).map UInt8.ofNat := by
    rw [zeros, cstr_write_cleared]
    refine takeWhile_bytes ?_
    intro v hv
    have := fits v hv
    unfold Header.charMax at this
    split at this <;> omega
  have short : (leading status.2).length ≤ 5 := (List.takeWhile_prefix _).length_le
  simp only [getStatus] at ret ⊢
  rw [if_pos ret, tmp, release_c2jniString, text, List.map_map]
  · rfl
  · rw [text, List.length_map]
    omega

end

/-- The five values arrive whenever 0 is returned exactly when no status is
reported or the array holds already what the copy leaves out. -/
theorem status_delivered_iff (H : Header) (javaVM : Int) (userData : IdsRet) (iType : Int)
    (szStatus : JavaArray JChar) (connect : IdsRet) (status : IdsRet × StatusResult) (s : Ids)
    (room : 5 ≤ szStatus.content.length) (fits : ∀ v ∈ values status.2, v ≤ H.charMax) :
    Delivers status.2 (getStatus H javaVM userData iType szStatus connect status s) ↔
      ¬ Reported connect status s ∨ HeldBefore status.2 szStatus.content := by
  rw [Delivers, getStatus_ret_eq_zero_iff]
  by_cases reported : Reported connect status s
  · have copied : ((leading status.2).map fun v => widen H.charSigned (.ofNat v)).map
        UInt16.toNat = leading status.2 := by
      refine map_back ?_
      intro v hv
      exact H.toNat_widen (fits v (List.takeWhile_subset _ hv))
    have rest : values status.2 =
        leading status.2 ++ (values status.2).drop (leading status.2).length :=
      List.prefix_iff_eq_append.mp (List.takeWhile_prefix _) |>.symm
    have short : (leading status.2).length ≤ 5 := (List.takeWhile_prefix _).length_le
    rw [getStatus_szStatus H javaVM userData iType szStatus connect status s room fits reported,
      take_write _ _ (by rwa [List.length_map]), List.map_append, copied, List.length_map]
    simp only [reported, true_imp_iff, not_true, false_or, HeldBefore]
    constructor
    · intro h
      rw [rest] at h
      exact List.append_cancel_left h
    · intro h
      rw [h, ← rest]
  · simp [reported]

/-! A new array and a status whose third value is zero. -/

theorem status_delivered_iff_sample :
    let szStatus : JavaArray JChar := ⟨[0, 0, 0, 0, 0, 0], true⟩
    5 ≤ szStatus.content.length ∧ (∀ v ∈ values ⟨1, 1, 0, 1, 1⟩, v ≤ sampleHeader.charMax) ∧
      (Delivers ⟨1, 1, 0, 1, 1⟩
          (getStatus sampleHeader 7 .ok 0 szStatus .ok (.ok, ⟨1, 1, 0, 1, 1⟩) opened) ↔
        ¬ Reported .ok (.ok, ⟨1, 1, 0, 1, 1⟩) opened ∨
          HeldBefore ⟨1, 1, 0, 1, 1⟩ szStatus.content) :=
  ⟨by decide, by decide, status_delivered_iff sampleHeader 7 .ok 0 ⟨[0, 0, 0, 0, 0, 0], true⟩ .ok
    (.ok, ⟨1, 1, 0, 1, 1⟩) opened (by decide) (by decide)⟩

/-- The values after the first zero one do not arrive. -/
theorem values_after_zero_are_lost :
    ¬ Delivers ⟨1, 1, 0, 1, 1⟩
      (getStatus sampleHeader 7 .ok 0 ⟨[0, 0, 0, 0, 0, 0], true⟩ .ok
        (.ok, ⟨1, 1, 0, 1, 1⟩) opened) := by
  intro delivers
  exact absurd (delivers rfl) (by decide)

end NdkThreadSample.JniDriver

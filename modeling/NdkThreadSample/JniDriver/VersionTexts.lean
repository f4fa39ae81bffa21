import NdkThreadSample.JniDriver.TextResults

/-!
The versions of `getDevInfo`. Each is written as the hexadecimal texts of its
four bytes with dots between them, and the text determines the 32 bits that the
version number is read as. The temporaries of the entry are wide enough for any
version; the arrays get the text without a terminator.
-/

namespace NdkThreadSample.JniDriver
open CText ManagedArray TestIDS

/-! Reading a version back. -/

def digitValue (c : UInt8) : Option Nat :=
  if 48 ≤ c ∧ c ≤ 57 then some (c.toNat - 48)
  else if 97 ≤ c ∧ c ≤ 102 then some (c.toNat - 87)
  else none

def readHex (cs : List UInt8) : Option Nat :=
  cs.foldlM (fun n c => (digitValue c).map (16 * n + ·)) 0

def readVersion (cs : List UInt8) : Option Nat :=
  match (cs.splitOn 46).mapM readHex with
  | some [b3, b2, b1, b0] => some (((b3 * 256 + b2) * 256 + b1) * 256 + b0)
  | _ => none

theorem digitValue_hexDigit (d : Fin 16) : digitValue (hexDigit d) = some d.val := by
  revert d; decide

theorem hexDigit_ne_dot (d : Fin 16) : (46 : UInt8) ≠ hexDigit d := by
  revert d; decide

theorem readHex_hexByte {b : Nat} (byte : b < 256) : readHex (hexByte b).chars = some b := by
  have low : (Fin.ofNat 16 b).val = b % 16 := rfl
  have high : (Fin.ofNat 16 (b / 16)).val = b / 16 % 16 := rfl
  by_cases single : b < 16
  · simp only [hexByte, single, if_true, readHex, List.foldlM_cons, List.foldlM_nil,
      digitValue_hexDigit, Option.map_some, low]
    simp [Nat.mod_eq_of_lt single]
  · simp only [hexByte, single, if_false, readHex, List.foldlM_cons, List.foldlM_nil,
      digitValue_hexDigit, Option.map_some, low, high, Option.bind_eq_bind, Option.bind_some]
    simp only [Option.pure_def, Option.some.injEq]
    omega

theorem dot_free (b : Nat) : (46 : UInt8) ∉ (hexByte b).chars := by
  simp only [hexByte]
  split <;> simp [hexDigit_ne_dot]

theorem length_hexByte (b : Nat) : (hexByte b).chars.length ≤ 2 := by
  simp only [hexByte]
  split <;> simp

theorem chars_versionText (ulVer : Nat) :
    (versionText ulVer).chars =
      (hexByte (ulVer / 2 ^ 24 % 256)).chars ++ 46 :: ((hexByte (ulVer / 2 ^ 16 % 256)).chars ++
        46 :: ((hexByte (ulVer / 2 ^ 8 % 256)).chars ++ 46 :: (hexByte (ulVer % 256)).chars)) := by
  simp [versionText, dot]

theorem length_versionText (ulVer : Nat) : (versionText ulVer).chars.length ≤ 11 := by
  have h3 := length_hexByte (ulVer / 2 ^ 24 % 256)
  have h2 := length_hexByte (ulVer / 2 ^ 16 % 256)
  have h1 := length_hexByte (ulVer / 2 ^ 8 % 256)
  have h0 := length_hexByte (ulVer % 256)
  simp only [chars_versionText, List.length_append, List.length_cons]
  omega

theorem readVersion_versionText (ulVer : Nat) :
    readVersion (versionText ulVer).chars = some (ulVer % 2 ^ 32) := by
  have byte (n : Nat) : readHex (hexByte (n % 256)).chars = some (n % 256) :=
    readHex_hexByte (Nat.mod_lt n (by decide))
  rw [chars_versionText, readVersion]
  simp only [List.splitOn_append_cons_self, List.splitOn_eq_singleton (dot_free _),
    List.singleton_append, List.mapM_cons, List.mapM_nil, byte]
  simp only [Option.bind_eq_bind, Option.pure_def, Option.bind_some, Option.some.injEq]
  omega

/-! The arrays of `getDevInfo`. -/

inductive Version
  | drv
  | fw
  | hw
  deriving DecidableEq, Repr

def ulVer (info : DevInfo) : Version → Nat
  | .drv => info.ulDrvVer
  | .fw => info.ulFWVer
  | .hw => info.ulHWVer

def szVer (r : DevInfoReturn) : Version → List JChar
  | .drv => r.szDrvVer
  | .fw => r.szFWVer
  | .hw => r.szHWVer

def tmpVer (r : DevInfoReturn) : Version → Option Buffer
  | .drv => r.tmp.szDrvVer
  | .fw => r.tmp.szFWVer
  | .hw => r.tmp.szHWVer

section
variable (H : Header) (javaVM : Int) (userData : IdsRet) (arrays : Version → JavaArray JChar)
  (connect : IdsRet) (devInfo : IdsRet × DevInfo) (s : Ids)

def devInfoReturn : DevInfoReturn :=
  getDevInfo H javaVM userData (arrays .drv) (arrays .fw) (arrays .hw) connect devInfo s

/-- The driver is open, answers and knows its versions. -/
def Known : Prop := s.pstPfnTab ≠ none ∧ connect = .ok ∧ devInfo.1 = .ok

theorem getDevInfo_ret_eq_zero_iff :
    (devInfoReturn H javaVM userData arrays connect devInfo s).ret = 0 ↔
      Known connect devInfo s := by
  simp only [devInfoReturn, getDevInfo, H.retCode_eq_zero]
  cases open_ : s.pstPfnTab with
  | none => simp [idsCsGetDevInfo, setUserData_pstPfnTab, open_, Known]
  | some tab =>
      by_cases connected : connect = .ok <;> by_cases known : devInfo.1 = .ok <;>
        simp [idsCsGetDevInfo, setUserData_pstPfnTab, open_, Known, connected, known]

theorem getDevInfo_refused (refused : ¬ Known connect devInfo s) (v : Version) :
    szVer (devInfoReturn H javaVM userData arrays connect devInfo s) v = (arrays v).content ∧
      tmpVer (devInfoReturn H javaVM userData arrays connect devInfo s) v = some (zeros 256) := by
  have lent (a : JavaArray JChar) : release a.elements = a.content := release_lend _ _
  simp only [devInfoReturn, getDevInfo, H.retCode_eq_zero]
  cases open_ : s.pstPfnTab with
  | none =>
      cases v <;> simp [idsCsGetDevInfo, setUserData_pstPfnTab, open_, szVer, tmpVer, lent]
  | some tab =>
      by_cases connected : connect = .ok
      · have unknown : devInfo.1 ≠ .ok := by simpa [Known, open_, connected] using refused
        cases v <;>
          simp [idsCsGetDevInfo, setUserData_pstPfnTab, open_, connected, unknown, szVer, tmpVer,
            lent]
      · cases v <;>
          simp [idsCsGetDevInfo, setUserData_pstPfnTab, open_, connected, szVer, tmpVer, lent]

theorem getDevInfo_known (known : Known connect devInfo s) (v : Version) :
    szVer (devInfoReturn H javaVM userData arrays connect devInfo s) v =
        release (c2jniString H.charSigned (arrays v).elements
          (strcpy (zeros 256) (versionText (ulVer devInfo.2 v)))) ∧
      tmpVer (devInfoReturn H javaVM userData arrays connect devInfo s) v =
        some (strcpy (zeros 256) (versionText (ulVer devInfo.2 v))) := by
  obtain ⟨isOpen, rfl, ok⟩ := known
  obtain ⟨tab, open_⟩ := Option.ne_none_iff_exists'.mp isOpen
  have zero : H.retCode .ok = 0 := (H.retCode_eq_zero .ok).mpr rfl
  cases v <;>
    simp [devInfoReturn, getDevInfo, idsCsGetDevInfo, setUserData_pstPfnTab, open_, ok, zero,
      szVer, tmpVer, ulVer]

/-- What Java reads up to the first NUL, one byte from each character. -/
def asRead (array : List JChar) : List UInt8 := (array.takeWhile (· ≠ 0)).map narrow

theorem getDevInfo_szVer (known : Known connect devInfo s) (v : Version)
    (room : 11 ≤ (arrays v).content.length) :
    szVer (devInfoReturn H javaVM userData arrays connect devInfo s) v =
      write (arrays v).content 0
        ((versionText (ulVer devInfo.2 v)).chars.map (widen H.charSigned)) := by
  have short := length_versionText (ulVer devInfo.2 v)
  rw [(getDevInfo_known H javaVM userData arrays connect devInfo s known v).1,
    release_c2jniString _ _ _ (by rw [cstr_strcpy]; omega), cstr_strcpy]

/-- What a call does. Success puts the text of each version over the start of
its array, from which the 32 bits of the version can be read when the array has
a NUL behind the text; a failure leaves the arrays alone, and no temporary is
ever overrun. -/
structure DeliversVersions (r : DevInfoReturn) : Prop where
  success : r.ret = 0 ↔ Known connect devInfo s
  temporaries : ∀ v, ∃ tmp, tmpVer r v = some tmp ∧ tmp.length = 256
  failed : r.ret ≠ 0 → ∀ v, szVer r v = (arrays v).content
  text : r.ret = 0 → ∀ v, 11 < (arrays v).content.length →
    (Reads (szVer r v) (versionText (ulVer devInfo.2 v)) ↔
      EndsWith (arrays v).content (versionText (ulVer devInfo.2 v)))
  readBack : r.ret = 0 → ∀ v, 11 < (arrays v).content.length →
    EndsWith (arrays v).content (versionText (ulVer devInfo.2 v)) →
      readVersion (asRead (szVer r v)) = some (ulVer devInfo.2 v % 2 ^ 32)

theorem getDevInfo_reads (known : Known connect devInfo s) (v : Version)
    (room : 11 < (arrays v).content.length) :
    Reads (szVer (devInfoReturn H javaVM userData arrays connect devInfo s) v)
        (versionText (ulVer devInfo.2 v)) ↔
      EndsWith (arrays v).content (versionText (ulVer devInfo.2 v)) := by
  have short := length_versionText (ulVer devInfo.2 v)
  rw [getDevInfo_szVer H javaVM userData arrays connect devInfo s known v room.le]
  exact reads_write_iff H.charSigned _ _ (by omega)

theorem getDevInfo_tmpVer (v : Version) :
    ∃ tmp, tmpVer (devInfoReturn H javaVM userData arrays connect devInfo s) v = some tmp ∧
      tmp.length = 256 := by
  have size : (zeros 256).length = 256 := List.length_replicate
  by_cases known : Known connect devInfo s
  · have short := length_versionText (ulVer devInfo.2 v)
    have kept := (length_strcpy_iff (zeros 256) (versionText (ulVer devInfo.2 v))).mpr
      (by rw [size]; omega)
    exact ⟨_, (getDevInfo_known H javaVM userData arrays connect devInfo s known v).2,
      kept.trans size⟩
  · exact ⟨_, (getDevInfo_refused H javaVM userData arrays connect devInfo s known v).2, size⟩

theorem getDevInfo_delivers_versions :
    DeliversVersions arrays connect devInfo s
      (devInfoReturn H javaVM userData arrays connect devInfo s) := by
  have ret := getDevInfo_ret_eq_zero_iff H javaVM userData arrays connect devInfo s
  have reads := getDevInfo_reads H javaVM userData arrays connect devInfo s
  refine ⟨ret, getDevInfo_tmpVer H javaVM userData arrays connect devInfo s, ?_, ?_, ?_⟩
  · intro failed v
    exact (getDevInfo_refused H javaVM userData arrays connect devInfo s (mt ret.mpr failed) v).1
  · intro succeeded v room
    exact reads (ret.mp succeeded) v room
  · intro succeeded v room ends
    have read : asRead _ = _ := (reads (ret.mp succeeded) v room).mpr ends
    rw [read, readVersion_versionText]

end

end NdkThreadSample.JniDriver

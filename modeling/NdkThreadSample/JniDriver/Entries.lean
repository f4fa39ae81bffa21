import NdkThreadSample.TestIDS.Device
import NdkThreadSample.Library.ManagedArray

/-!
The entries that `JniDriver` has in Java. Each hands the VM to the driver as
user data and calls into the test program, `init` in the other order; a text is
copied to the caller's `char` array, or from it, one character at a time.
Whether `char` is signed and the values of the result codes are not fixed by
the repository.
-/

namespace NdkThreadSample.JniDriver
open CText ManagedArray TestIDS

abbrev JChar := UInt16

/-- The entries take a driver call for successful when it returns 0. -/
structure Header extends Common where
  charSigned : Bool
  retCode : IdsRet → Int
  retCode_eq_zero : ∀ ret, retCode ret = 0 ↔ ret = .ok

/-- An array of the caller and whether the VM pins it. -/
structure JavaArray (α : Type) where
  content : List α
  pinned : Bool
  deriving DecidableEq, Repr

def JavaArray.elements {α : Type} (a : JavaArray α) : Handed α := lend a.pinned a.content

/-- A `char` where a `jchar` is expected. -/
def widen (charSigned : Bool) (c : UInt8) : JChar :=
  if charSigned then c.toInt8.toInt16.toUInt16 else c.toUInt16

def narrow (c : JChar) : UInt8 := c.toUInt8

/-- `szjni[j] = szc[j]` for the next `n` indices. -/
def c2jniLoop (charSigned : Bool) (szc : Buffer) : Nat → Nat → Handed JChar → Handed JChar
  | 0, _, szjni => szjni
  | n + 1, j, szjni =>
      c2jniLoop charSigned szc n (j + 1) (poke szjni j (widen charSigned (szc.getD j 0)))

/-- No terminator is written after the last character. -/
def c2jniString (charSigned : Bool) (szjni : Handed JChar) (szc : Buffer) : Handed JChar :=
  c2jniLoop charSigned szc (cstr szc).chars.length 0 szjni

/-- `szc[j] = szjni[j]` for the next `n` indices. -/
def jni2cLoop (szjni : Handed JChar) : Nat → Nat → Buffer → Buffer
  | 0, _, szc => szc
  | n + 1, j, szc =>
      jni2cLoop szjni n (j + 1) (write szc j [narrow ((peek szjni j).getD 0)])

/-- The size of `szc` is not known here and no terminator is written. -/
def jni2cString (szjni : Handed JChar) (jnilen : Nat) (szc : Buffer) : Buffer :=
  jni2cLoop szjni jnilen 0 szc

section
variable (H : Header) (javaVM : Int) (userData : IdsRet)

def setUserData (s : Ids) : Ids := (idsCsSetUserData javaVM userData s).2

/-- An entry without arrays. -/
def forwardCode (command : Ids → IdsRet × Ids) (s : Ids) : Int × Ids :=
  let r := command (setUserData javaVM userData s)
  (H.retCode r.1, r.2)

def forwardFlag (command : Ids → Bool × Ids) (s : Ids) : Int × Ids :=
  let r := command (setUserData javaVM userData s)
  (if r.1 then 1 else 0, r.2)

structure InitReturn where
  ret : Int
  imgPath : List JChar
  tmpsPath : Buffer
  state : Ids
  deriving DecidableEq

/-- `env` is the address of the environment as an `int`; it takes the place of
the descriptor. `entry` is what `Dll_IDS_Entry` returns, `reply` what `pInit`
returns. -/
def init (env : Int) (imgPath : JavaArray JChar) (_fd : Int) (entry : Option PfnTab)
    (reply : IdsRet) (s : Ids) : InitReturn :=
  let arrayBody := imgPath.elements
  let alen := imgPath.content.length
  let tmpsPath := jni2cString arrayBody alen (zeros 256)
  let fd := env
  let (iRet, s) := openDevice H.toCommon (cstr tmpsPath) fd entry reply s
  let s := setUserData javaVM userData s
  ⟨if iRet then 1 else 0, release arrayBody, tmpsPath, s⟩

def uninit : Ids → Int × Ids := forwardFlag javaVM userData closeDevice

def calibrate (reply : IdsRet) : Ids → Int × Ids :=
  forwardCode H javaVM userData (idsCsCalibrate reply)

def reset (reply : IdsRet) : Ids → Int × Ids :=
  forwardCode H javaVM userData (idsCsReset reply)

def connect (reply : IdsRet) : Ids → Int × Ids :=
  forwardCode H javaVM userData (idsCsConnect reply)

def move (iPos : Int) (iTimeOut : Nat) (reply : IdsRet) : Ids → Int × Ids :=
  forwardCode H javaVM userData (idsCsMove iPos iTimeOut reply)

def waitForCard (cover blocked inserted : Poll) : Ids → Int × Ids :=
  forwardFlag javaVM userData (TestIDS.waitForCard H.toCommon cover blocked inserted)

def backIdCard (reply : IdsRet) : Ids → Int × Ids :=
  forwardFlag javaVM userData (TestIDS.backIdCard H.toCommon reply)

def setScan (iDpi iMode iSize iType : Int) : Ids → Int × Ids :=
  forwardFlag javaVM userData (TestIDS.setScan iDpi iMode iSize iType)

structure DevInfoReturn where
  ret : Int
  szDrvVer : List JChar
  szFWVer : List JChar
  szHWVer : List JChar
  tmp : VersionBuffers
  state : Ids
  deriving DecidableEq

def getDevInfo (szDrvVer szFWVer szHWVer : JavaArray JChar) (connect : IdsRet)
    (devInfo : IdsRet × DevInfo) (s : Ids) : DevInfoReturn :=
  let s := setUserData javaVM userData s
  let tmp : VersionBuffers := ⟨some (zeros 256), some (zeros 256), some (zeros 256)⟩
  let (ret, tmp, s) := idsCsGetDevInfo tmp connect devInfo s
  let iRet := H.retCode ret
  let store (array : JavaArray JChar) (text : Option Buffer) : Handed JChar :=
    match text with
    | some text =>
        if iRet = 0 then c2jniString H.charSigned array.elements text else array.elements
    | none => array.elements
  ⟨iRet, release (store szDrvVer tmp.szDrvVer), release (store szFWVer tmp.szFWVer),
    release (store szHWVer tmp.szHWVer), tmp, s⟩

structure StatusReturn where
  ret : Int
  szStatus : List JChar
  state : Ids
  deriving DecidableEq

def getStatus (iType : Int) (szStatus : JavaArray JChar) (connect : IdsRet)
    (status : IdsRet × StatusResult) (s : Ids) : StatusReturn :=
  let s := setUserData javaVM userData s
  let (ret, tmpStatus, s) := idsCsGetStatus iType (zeros 256) connect status s
  let iRet := H.retCode ret
  let arrayBody1 :=
    if iRet = 0 then c2jniString H.charSigned szStatus.elements tmpStatus else szStatus.elements
  ⟨iRet, release arrayBody1, s⟩

structure ScanReturn where
  ret : Int
  cFileNameFront : List JChar
  cFileNameBack : List JChar
  penCardDir : List Int
  tmp : ScanBuffers
  state : Ids
  deriving DecidableEq

def scan (conf : ScanConf) (cFileNameFront cFileNameBack : JavaArray JChar)
    (penCardDir : JavaArray Int) (reply : IdsRet × ScanResult) (s : Ids) : ScanReturn :=
  let s := setUserData javaVM userData s
  let arrayBody3 := penCardDir.elements
  let tmp : ScanBuffers := ⟨zeros 256, zeros 256, (release arrayBody3).headD 0⟩
  let (ret, tmp, s) := idsCsScan conf tmp reply s
  let arrayBody3 := poke arrayBody3 0 tmp.penCardDir
  let iRet := H.retCode ret
  let (arrayBody1, arrayBody2) :=
    if iRet = 0 then
      (c2jniString H.charSigned cFileNameFront.elements tmp.cFileNameFront,
        c2jniString H.charSigned cFileNameBack.elements tmp.cFileNameBack)
    else (cFileNameFront.elements, cFileNameBack.elements)
  ⟨iRet, release arrayBody1, release arrayBody2, release arrayBody3, tmp, s⟩

/-- Memory from `new`, whose bytes may be anything. -/
structure Fresh (size : Nat) where
  bytes : Buffer
  length_eq : bytes.length = size

structure CardReturn where
  ret : Int
  szIDCard : List JChar
  pucData : Buffer
  state : Ids
  deriving DecidableEq

/-- The elements of `szIDCard` are not even asked for. -/
def scanAndReadIdCard (bScanImage bReadRF : Int) (szIDCard : JavaArray JChar)
    (pucData : Fresh (3000 * 1000 * 2 * 3)) (reply : CardReplies) (s : Ids) : CardReturn :=
  let s := setUserData javaVM userData s
  let r := TestIDS.scanAndReadIdCard H.toCommon (bScanImage ≠ 0) (bReadRF ≠ 0) pucData.bytes reply s
  ⟨if r.bRet then 1 else 0, szIDCard.content, r.szIDCard, r.state⟩

end

theorem setUserData_pstPfnTab (javaVM : Int) (userData : IdsRet) (s : Ids) :
    (setUserData javaVM userData s).pstPfnTab = s.pstPfnTab := by
  cases open_ : s.pstPfnTab <;> simp [setUserData, idsCsSetUserData, forward, open_, Ids.issue]

/-! What the copying loops leave. -/

theorem narrow_widen (charSigned : Bool) (c : UInt8) : narrow (widen charSigned c) = c := by
  cases charSigned with
  | false => simp [narrow, widen]
  | true =>
      apply UInt8.toBitVec_inj.mp
      change (c.toBitVec.signExtend 16).setWidth 8 = c.toBitVec
      apply BitVec.eq_of_getLsbD_eq
      intro i hi
      have hwide : i < 16 := by omega
      simp only [BitVec.getLsbD_setWidth, BitVec.getLsbD_signExtend, hi, hwide, decide_true,
        Bool.true_and, if_true]

theorem widen_eq_zero_iff (charSigned : Bool) (c : UInt8) : widen charSigned c = 0 ↔ c = 0 := by
  constructor
  · intro h
    have hnarrow := narrow_widen charSigned c
    rw [h] at hnarrow
    exact hnarrow.symm
  · rintro rfl
    cases charSigned <;> rfl

theorem release_c2jniLoop (charSigned : Bool) (szc : Buffer) (n j : Nat) (szjni : Handed JChar)
    (inside : j + n ≤ szc.length) (room : j + n ≤ (release szjni).length) :
    release (c2jniLoop charSigned szc n j szjni) =
      write (release szjni) j (((szc.drop j).take n).map (widen charSigned)) := by
  induction n generalizing j szjni with
  | zero => simp [c2jniLoop]
  | succ n ih =>
      have hj : j < szc.length := by omega
      have hfirst : ((szc.drop j).take (n + 1)).map (widen charSigned) =
          widen charSigned (szc.getD j 0) ::
            ((szc.drop (j + 1)).take n).map (widen charSigned) := by
        rw [List.drop_eq_getElem_cons hj, List.take_succ_cons, List.map_cons]
        simp [hj]
      rw [c2jniLoop, ih (j + 1) _ (by omega) (by simp; omega), release_poke, hfirst]
      exact write_cons _ (by omega) _ _

/-- The characters of the text lie over the start of the array. -/
theorem release_c2jniString (charSigned : Bool) (szjni : JavaArray JChar) (szc : Buffer)
    (room : (cstr szc).chars.length ≤ szjni.content.length) :
    release (c2jniString charSigned szjni.elements szc) =
      write szjni.content 0 ((cstr szc).chars.map (widen charSigned)) := by
  have inside : (cstr szc).chars.length ≤ szc.length :=
    (List.takeWhile_prefix _).length_le
  have same : release szjni.elements = szjni.content := release_lend _ _
  rw [c2jniString, release_c2jniLoop charSigned szc _ 0 _ (by omega) (by rw [same]; omega),
    List.drop_zero, take_cstr, same]

theorem jni2cLoop_eq (szjni : Handed JChar) (n j : Nat) (szc : Buffer)
    (inside : j + n ≤ (release szjni).length) (reached : j ≤ szc.length) :
    jni2cLoop szjni n j szc = write szc j ((((release szjni).drop j).take n).map narrow) := by
  induction n generalizing j szc with
  | zero => simp [jni2cLoop]
  | succ n ih =>
      have hj : j < (release szjni).length := by omega
      have hfirst : (((release szjni).drop j).take (n + 1)).map narrow =
          [narrow ((peek szjni j).getD 0)] ++
            (((release szjni).drop (j + 1)).take n).map narrow := by
        rw [peek_eq, List.getElem?_eq_getElem hj, Option.getD_some,
          List.drop_eq_getElem_cons hj, List.take_succ_cons, List.map_cons]
        rfl
      have hnext : j + 1 ≤ (write szc j [narrow ((peek szjni j).getD 0)]).length := by
        rw [length_write_at szc _ reached]
        exact Nat.le_max_right _ _
      rw [jni2cLoop, ih (j + 1) _ (by omega) hnext, hfirst]
      exact write_append szc reached _ _

/-- The low bytes of the array lie over the start of the buffer, or over more than that. -/
theorem jni2cString_eq (szjni : JavaArray JChar) (szc : Buffer) :
    jni2cString szjni.elements szjni.content.length szc =
      write szc 0 (szjni.content.map narrow) := by
  have same : release szjni.elements = szjni.content := release_lend _ _
  rw [jni2cString, jni2cLoop_eq _ _ 0 _ (by rw [same]; omega) (Nat.zero_le _), same,
    List.drop_zero, List.take_length]

/-! A header and an open driver for concrete runs. -/

def sampleHeader : Header :=
  { latinCommon with
    charSigned := true
    retCode := fun ret =>
      match ret with
      | .ok => 0
      | .err => 1
      | .errRf => 2
      | .errJam => 3
      | .other _ => 4
    retCode_eq_zero := by
      intro ret
      cases ret <;> simp }

def opened : Ids := { Ids.init with pstPfnTab := some ⟨1⟩ }

end NdkThreadSample.JniDriver

import NdkThreadSample.Library.CText
import Mathlib.Data.UInt

/-!
What the driver test program takes from `../common`: the records and result
codes of the driver, the constants of its headers and the text functions of
`idparse.h`. None of these headers is part of the repository, so the constants
and the text functions are parameters; the records have the fields that the
program reads or writes. `sizeof` of a `char` array field is the length of its
list, an enumeration that the program casts from an integer is that integer,
and each `EN_DS_FLAG` is a bit of its own.
-/

namespace NdkThreadSample.TestIDS
open CText

abbrev Buffer := List UInt8

abbrev Text := CStr UInt8

def zeros (n : Nat) : Buffer := List.replicate n 0

def padded (n : Nat) (bytes : Buffer) : Buffer := bytes ++ zeros (n - bytes.length)

inductive IdsRet
  | ok
  | err
  | errRf
  | errJam
  | other (code : Int)
  deriving DecidableEq, Repr

structure DevDesc where
  idVendor : Int
  idProduct : Int
  iFileDesc : Int
  deriving DecidableEq, Repr

structure DevInfo where
  ulDrvVer : Nat
  ulFWVer : Nat
  ulHWVer : Nat
  deriving DecidableEq, Repr

structure StatusResult where
  ulCOVER : Nat
  ulSensor1 : Nat
  ulSensor2 : Nat
  ulSensor3 : Nat
  ulSensor4 : Nat
  deriving DecidableEq, Repr

def StatusResult.zero : StatusResult := ⟨0, 0, 0, 0, 0⟩

structure ImageConf where
  lBrightness : Int
  lContrast : Int
  lGamma : Int
  deriving DecidableEq, Repr

structure ScanConf where
  type : Int
  mode : Int
  side : Int
  dpi : Int
  front : ImageConf
  back : ImageConf
  deriving DecidableEq, Repr

def ScanConf.zero : ScanConf := ⟨0, 0, 0, 0, ⟨0, 0, 0⟩, ⟨0, 0, 0⟩⟩

structure ScanResult where
  cFileNameFront : Buffer
  cFileNameBack : Buffer
  enCardDir : Int
  deriving DecidableEq, Repr

structure CardInfoCN where
  ucName : Buffer
  ucGender : Buffer
  ucNation : Buffer
  ucBirth : Buffer
  ucAddress : Buffer
  ucIDNumber : Buffer
  ucIssued : Buffer
  ucDateBegin : Buffer
  ucDateEnd : Buffer
  cHeadName : Buffer
  cLeftName : Buffer
  cRightName : Buffer
  deriving DecidableEq, Repr

structure CardInfoRF where
  ucType : UInt8
  cardInfoCN : CardInfoCN
  deriving DecidableEq, Repr

structure SensorFlags where
  sensor1 : Nat
  sensor2 : Nat
  sensor3 : Nat
  sensor4 : Nat
  nonzero : sensor1 ≠ 0 ∧ sensor2 ≠ 0 ∧ sensor3 ≠ 0 ∧ sensor4 ≠ 0
  disjoint : sensor1 &&& sensor2 = 0 ∧ sensor1 &&& sensor3 = 0 ∧ sensor1 &&& sensor4 = 0 ∧
    sensor2 &&& sensor3 = 0 ∧ sensor2 &&& sensor4 = 0 ∧ sensor3 &&& sensor4 = 0

/-- The headers under `../common`. `transSex` reports whether it knows the code
it is given, and what it leaves in the buffer. -/
structure Common where
  scanDpi300 : Int
  scanModeColor : Int
  scanSideDup : Int
  cardTypeIdCn : Int
  movePosScan : Int
  movePosInsert : Int
  statusTypeDs : Int
  statusDsFlagLow : Nat
  sensors : SensorFlags
  unicodeByte2Char : Buffer → Nat → Text
  removSpace : Text → Text
  transSex : Text → Bool × Text
  transNation : Text → Text

/-! A header for concrete runs: UTF-16 text in the Latin range, the two genders
and one nation. -/

def lowBytes : Buffer → Buffer
  | lo :: _ :: rest => lo :: lowBytes rest
  | rest => rest

def latinCommon : Common where
  scanDpi300 := 300
  scanModeColor := 2
  scanSideDup := 3
  cardTypeIdCn := 1
  movePosScan := 1
  movePosInsert := 0
  statusTypeDs := 0
  statusDsFlagLow := 0
  sensors := ⟨1, 2, 4, 8, by decide, by decide⟩
  unicodeByte2Char src len := cstr (lowBytes (src.take len))
  removSpace t := cstr (t.chars.filter (· ≠ 32))
  transSex t :=
    if t.chars = [49] then (true, ⟨[231, 148, 183], by decide⟩)
    else if t.chars = [50] then (true, ⟨[229, 165, 179], by decide⟩)
    else (false, t)
  transNation t := if t.chars = [48, 49] then ⟨[230, 177, 137], by decide⟩ else t

end NdkThreadSample.TestIDS

import NdkThreadSample.TestIDS.Commands

/-!
Opening and closing the driver, the scan settings, the sensor polls and the
card operations of the driver test program.
-/

namespace NdkThreadSample.TestIDS
open CText

def closeDevice (s : Ids) : Bool × Ids :=
  match s.pstPfnTab with
  | none => (false, s)
  | some tab => (true, { s.issue tab .pUninit with pstPfnTab := none })

/-- `entry` is what `Dll_IDS_Entry` returns, `init` what `pInit` returns. -/
def openDevice (C : Common) (imgPath : Text) (fd : Int) (entry : Option PfnTab) (init : IdsRet)
    (s : Ids) : Bool × Ids :=
  let s := (closeDevice s).2
  let stDevDesc : DevDesc := ⟨0x05e3, 0x0102, fd⟩
  let s := { s with pstPfnTab := entry }
  let (bRet, s) : Bool × Ids :=
    match s.pstPfnTab with
    | none => (false, s)
    | some tab =>
      let s := s.issue tab (.pInit imgPath stDevDesc init)
      if init = .ok then (true, s) else (false, { s with pstPfnTab := none })
  let gScanConf :=
    { ScanConf.zero with
      dpi := C.scanDpi300, mode := C.scanModeColor, side := C.scanSideDup,
      type := C.cardTypeIdCn }
  (bRet, { s with gScanConf := gScanConf })

def setScan (iDpi iMode iSize iType : Int) (s : Ids) : Bool × Ids :=
  if iDpi ≠ 150 ∨ iDpi ≠ 300 then (false, s)
  else if iMode > 4 ∨ iMode < 0 then (false, s)
  else if iSize > 3 ∨ iSize < 1 then (false, s)
  else if iType > 2 ∨ iType < 1 then (false, s)
  else (true, { s with
    gScanConf := { s.gScanConf with dpi := iDpi, mode := iMode, side := iSize, type := iType } })

/-- What the driver answers when a status is polled: the result of `pConnect`,
and the result and the record of `pGetStatus`. -/
structure Poll where
  connect : IdsRet
  getStatus : IdsRet
  stResult : StatusResult
  deriving DecidableEq, Repr

def getDevStatus (C : Common) (stResult : StatusResult) (poll : Poll) (s : Ids) :
    Bool × StatusResult × Ids :=
  match s.pstPfnTab with
  | none => (false, stResult, s)
  | some tab =>
    let s := s.issue tab .pConnect
    let s :=
      if poll.connect ≠ .ok then { s with s_bDevOnLine := false }
      else if s.s_bDevOnLine = false then { s with s_bDevOnLine := true }
      else s
    if s.s_bDevOnLine then
      (poll.getStatus = .ok, poll.stResult, s.issue tab (.pGetStatus C.statusTypeDs))
    else (s.s_bDevOnLine, stResult, s)

def coverFlagIs (C : Common) (enFlag : Nat) (poll : Poll) (s : Ids) : Bool × Ids :=
  match s.pstPfnTab with
  | none => (false, s)
  | some _ =>
    let (read, stResult, s) := getDevStatus C StatusResult.zero poll s
    (read && enFlag = stResult.ulCOVER, s)

def sensorFlagIs (C : Common) (enSensorFlag enFlag : Nat) (poll : Poll) (s : Ids) : Bool × Ids :=
  match s.pstPfnTab with
  | none => (false, s)
  | some _ =>
    let (read, stResult, s) := getDevStatus C StatusResult.zero poll s
    let bRet : Bool :=
      if read then
        if enSensorFlag &&& C.sensors.sensor1 ≠ 0 ∧ enFlag ≠ stResult.ulSensor1 then false
        else if enSensorFlag &&& C.sensors.sensor2 ≠ 0 ∧ enFlag ≠ stResult.ulSensor2 then false
        else if enSensorFlag &&& C.sensors.sensor3 ≠ 0 ∧ enFlag ≠ stResult.ulSensor3 then false
        else if enSensorFlag &&& C.sensors.sensor4 ≠ 0 ∧ enFlag ≠ stResult.ulSensor4 then false
        else true
      else false
    (bRet, s)

/-- The three polls are those of the cover, of sensors 2 to 4 and of sensor 1. -/
def waitForCard (C : Common) (cover blocked inserted : Poll) (s : Ids) : Bool × Ids :=
  match s.pstPfnTab with
  | none => (false, s)
  | some _ =>
    let (open_, s) := coverFlagIs C C.statusDsFlagLow cover s
    if open_ then (false, s) else
    let mask := C.sensors.sensor2 ||| C.sensors.sensor3 ||| C.sensors.sensor4
    let (shut, s) := sensorFlagIs C mask C.statusDsFlagLow blocked s
    if shut then (false, s) else
    sensorFlagIs C C.sensors.sensor1 C.statusDsFlagLow inserted s

/-- What the driver answers to the four calls of `ScanAndReadIdCard`. -/
structure CardReplies where
  readRF1 : IdsRet
  move : IdsRet
  scan : IdsRet
  readRF2 : IdsRet × CardInfoRF
  deriving DecidableEq, Repr

structure CardResult where
  bRet : Bool
  szIDCard : Buffer
  state : Ids
  deriving DecidableEq

def scanAndReadIdCard (C : Common) (bScanImage bReadRF : Bool) (szIDCard : Buffer)
    (reply : CardReplies) (s : Ids) : CardResult :=
  match s.pstPfnTab with
  | none => ⟨false, szIDCard, s⟩
  | some tab =>
    let (bRet, s) : Bool × Ids :=
      if bReadRF then (reply.readRF1 = .ok, s.issue tab (.pReadRF C.cardTypeIdCn false 0))
      else (true, s)
    let bRet : Bool := bRet && reply.move = .ok
    let s := s.issue tab (.pMove C.movePosScan 10000)
    let (bRet, s) : Bool × Ids :=
      if bRet && bScanImage then (reply.scan = .ok, s.issue tab (.pScan s.gScanConf))
      else (bRet, s)
    if bReadRF then
      let s := s.issue tab (.pReadRF C.cardTypeIdCn true 0)
      match reply.readRF2.1 with
      | .ok => ⟨bRet, (transIDCard C reply.readRF2.2.cardInfoCN szIDCard).2, s⟩
      | _ => ⟨bRet, szIDCard, s⟩
    else ⟨bRet, szIDCard, s⟩

def backIdCard (C : Common) (move : IdsRet) (s : Ids) : Bool × Ids :=
  match s.pstPfnTab with
  | none => (false, s)
  | some tab => (move ≠ .errJam, s.issue tab (.pMove C.movePosInsert 10000))

end NdkThreadSample.TestIDS

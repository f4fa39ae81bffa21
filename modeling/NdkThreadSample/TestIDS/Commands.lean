import NdkThreadSample.TestIDS.IdCard

/-!
The globals of the driver test program and its `IDS_CS_*` commands. Every call
through the function table is recorded in `issued` with the table it goes
through; what the driver answers to a call is an argument of the operation that
makes it. A driver function may fill its result record whatever code it returns.
-/

namespace NdkThreadSample.TestIDS
open CText

/-- The address of a driver function table. -/
structure PfnTab where
  addr : Nat
  deriving DecidableEq, Repr

inductive TabCall
  | pInit (imgPath : Text) (stDevDesc : DevDesc) (ret : IdsRet)
  | pUninit
  | pSetUserData (iUserDataPtr : Int)
  | pCalibrate
  | pConnect
  | pGetDevInfo
  | pReset
  | pGetStatus (type : Int)
  | pMove (pos : Int) (ulTimeout : Nat)
  | pScan (stScanConf : ScanConf)
  | pReadRF (cardType : Int) (wantsResult : Bool) (ulTimeout : Nat)
  deriving DecidableEq

structure Issued where
  tab : PfnTab
  call : TabCall
  deriving DecidableEq

structure Ids where
  pstPfnTab : Option PfnTab
  gScanConf : ScanConf
  s_bDevOnLine : Bool
  issued : List Issued
  deriving DecidableEq

def Ids.init : Ids := ⟨none, ScanConf.zero, false, []⟩

def Ids.issue (s : Ids) (tab : PfnTab) (call : TabCall) : Ids :=
  { s with issued := s.issued ++ [⟨tab, call⟩] }

/-- The commands that only pass a call on to an open driver. -/
def forward (call : TabCall) (reply : IdsRet) (s : Ids) : IdsRet × Ids :=
  match s.pstPfnTab with
  | none => (.err, s)
  | some tab => (reply, s.issue tab call)

def idsCsSetUserData (iUserDataPtr : Int) : IdsRet → Ids → IdsRet × Ids :=
  forward (.pSetUserData iUserDataPtr)

def idsCsCalibrate : IdsRet → Ids → IdsRet × Ids := forward .pCalibrate

def idsCsReset : IdsRet → Ids → IdsRet × Ids := forward .pReset

def idsCsConnect : IdsRet → Ids → IdsRet × Ids := forward .pConnect

def idsCsMove (pos : Int) (ulTimeout : Nat) : IdsRet → Ids → IdsRet × Ids :=
  forward (.pMove pos ulTimeout)

/-! The texts of `sprintf (buf, "%x.%x.%x.%x", ...)`. -/

def hexDigit (d : Fin 16) : UInt8 := if d.val < 10 then .ofNat (48 + d) else .ofNat (87 + d)

theorem hexDigit_ne_zero (d : Fin 16) : (0 : UInt8) ≠ hexDigit d := by
  revert d; decide

/-- `%x` of an eight bit field. -/
def hexByte (b : Nat) : Text :=
  let hi := hexDigit (Fin.ofNat 16 (b / 16))
  let lo := hexDigit (Fin.ofNat 16 b)
  if b < 16 then ⟨[lo], by simpa using hexDigit_ne_zero _⟩
  else ⟨[hi, lo], by simpa using ⟨hexDigit_ne_zero _, hexDigit_ne_zero _⟩⟩

def dot : Text := ⟨[46], by decide⟩

/-- The bytes of a version number from the highest to the lowest. -/
def versionText (ulVer : Nat) : Text :=
  hexByte (ulVer / 2 ^ 24 % 256) ++ dot ++ hexByte (ulVer / 2 ^ 16 % 256) ++ dot ++
    hexByte (ulVer / 2 ^ 8 % 256) ++ dot ++ hexByte (ulVer % 256)

/-- The three version buffers; a null pointer is `none`. -/
structure VersionBuffers where
  szDrvVer : Option Buffer
  szFWVer : Option Buffer
  szHWVer : Option Buffer
  deriving DecidableEq, Repr

def idsCsGetDevInfo (bufs : VersionBuffers) (connect : IdsRet) (devInfo : IdsRet × DevInfo)
    (s : Ids) : IdsRet × VersionBuffers × Ids :=
  match s.pstPfnTab with
  | none => (.err, bufs, s)
  | some tab =>
    let s := s.issue tab .pConnect
    if connect ≠ .ok then (connect, bufs, s) else
    let s := s.issue tab .pGetDevInfo
    if devInfo.1 = .ok then
      match bufs.szDrvVer, bufs.szFWVer, bufs.szHWVer with
      | some szDrvVer, some szFWVer, some szHWVer =>
        (devInfo.1,
          ⟨some (strcpy szDrvVer (versionText devInfo.2.ulDrvVer)),
            some (strcpy szFWVer (versionText devInfo.2.ulFWVer)),
            some (strcpy szHWVer (versionText devInfo.2.ulHWVer))⟩, s)
      | _, _, _ => (devInfo.1, bufs, s)
    else (devInfo.1, bufs, s)

def idsCsGetStatus (iType : Int) (szStatus : Buffer) (connect : IdsRet)
    (status : IdsRet × StatusResult) (s : Ids) : IdsRet × Buffer × Ids :=
  match s.pstPfnTab with
  | none => (.err, szStatus, s)
  | some tab =>
    let s := s.issue tab .pConnect
    if connect ≠ .ok then (connect, szStatus, s) else
    let s := s.issue tab (.pGetStatus iType)
    if status.1 = .ok then
      -- each value is stored into a `char`
      (status.1,
        write szStatus 0 [.ofNat status.2.ulCOVER, .ofNat status.2.ulSensor1,
          .ofNat status.2.ulSensor2, .ofNat status.2.ulSensor3, .ofNat status.2.ulSensor4], s)
    else (status.1, szStatus, s)

structure ScanBuffers where
  cFileNameFront : Buffer
  cFileNameBack : Buffer
  penCardDir : Int
  deriving DecidableEq, Repr

def idsCsScan (conf : ScanConf) (bufs : ScanBuffers) (scan : IdsRet × ScanResult)
    (s : Ids) : IdsRet × ScanBuffers × Ids :=
  match s.pstPfnTab with
  | none => (.err, bufs, s)
  | some tab =>
    let s := s.issue tab (.pScan conf)
    if scan.1 = .ok then
      (scan.1,
        ⟨strcpy bufs.cFileNameFront (cstr scan.2.cFileNameFront),
          strcpy bufs.cFileNameBack (cstr scan.2.cFileNameBack), scan.2.enCardDir⟩, s)
    else (scan.1, bufs, s)

/-- The buffers that `IDS_CS_ReadRF` fills; the twelve arrays have the names of
the record's fields. -/
structure ReadRFBuffers where
  pucType : UInt8
  fields : CardInfoCN
  deriving DecidableEq, Repr

def copyFields (dst src : CardInfoCN) : CardInfoCN where
  ucName := memcpy dst.ucName src.ucName
  ucGender := memcpy dst.ucGender src.ucGender
  ucNation := memcpy dst.ucNation src.ucNation
  ucBirth := memcpy dst.ucBirth src.ucBirth
  ucAddress := memcpy dst.ucAddress src.ucAddress
  ucIDNumber := memcpy dst.ucIDNumber src.ucIDNumber
  ucIssued := memcpy dst.ucIssued src.ucIssued
  ucDateBegin := memcpy dst.ucDateBegin src.ucDateBegin
  ucDateEnd := memcpy dst.ucDateEnd src.ucDateEnd
  cHeadName := memcpy dst.cHeadName src.cHeadName
  cLeftName := memcpy dst.cLeftName src.cLeftName
  cRightName := memcpy dst.cRightName src.cRightName

def idsCsReadRF (C : Common) (cardType : Int) (bufs : ReadRFBuffers) (ulTimeout : Nat)
    (rf : IdsRet × CardInfoRF) (s : Ids) : IdsRet × ReadRFBuffers × Ids :=
  match s.pstPfnTab with
  | none => (.err, bufs, s)
  | some tab =>
    let s := s.issue tab (.pReadRF cardType true ulTimeout)
    if rf.1 = .ok then
      -- the record is passed by value, so the translated copy is lost here
      let _translated := transIDCardSelf C rf.2.cardInfoCN
      (rf.1, ⟨rf.2.ucType, copyFields bufs.fields rf.2.cardInfoCN⟩, s)
    else (rf.1, bufs, s)

end NdkThreadSample.TestIDS

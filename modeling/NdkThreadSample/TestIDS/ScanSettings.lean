import NdkThreadSample.TestIDS.Session

/-!
The scan settings over a run. By the intention of the code a scan uses the
settings of the latest `SetScan` in range since the driver was last opened, or
the defaults of `OpenDevice`. The first test of `SetScan` holds of every
resolution, so no `SetScan` is ever accepted.
-/

namespace NdkThreadSample.TestIDS
open CText LabelledRun

structure Settings where
  dpi : Int
  mode : Int
  side : Int
  type : Int
  deriving DecidableEq, Repr

def ScanConf.settings (conf : ScanConf) : Settings := ⟨conf.dpi, conf.mode, conf.side, conf.type⟩

def defaultSettings (C : Common) : Settings :=
  ⟨C.scanDpi300, C.scanModeColor, C.scanSideDup, C.cardTypeIdCn⟩

def inRange (iDpi iMode iSize iType : Int) : Bool :=
  (iDpi = 150 || iDpi = 300) && (0 ≤ iMode && iMode ≤ 4) && (1 ≤ iSize && iSize ≤ 3) &&
    (1 ≤ iType && iType ≤ 2)

/-- The settings that a call asks for, given those in force before it. -/
def Call.settings (C : Common) (current : Settings) : Call → Settings
  | .op (.openDevice _ _ _ _) => defaultSettings C
  | .setScan iDpi iMode iSize iType =>
      if inRange iDpi iMode iSize iType then ⟨iDpi, iMode, iSize, iType⟩ else current
  | .op _ => current

def latest (C : Common) (past : List Call) : Settings :=
  past.foldl (Call.settings C) (defaultSettings C)

theorem latest_snoc (C : Common) (past : List Call) (c : Call) :
    latest C (past ++ [c]) = c.settings C (latest C past) := by
  simp [latest]

/-- What the law asks of one call after the calls `past`. -/
def LatestWins (C : Common) (past : List Call) (s : Ids) (c : Call) (s' : Ids) : Prop :=
  match c with
  | .op (.scanAndReadIdCard _ _ _ _) =>
      ∀ i ∈ s'.issued.drop s.issued.length, ∀ conf, i.call = .pScan conf →
        conf.settings = latest C past
  | .setScan iDpi iMode iSize iType =>
      ((setScan iDpi iMode iSize iType s).1 = true ↔ inRange iDpi iMode iSize iType = true) ∧
        ((setScan iDpi iMode iSize iType s).1 = false → s'.gScanConf = s.gScanConf)
  | .op _ => True

theorem setScan_rejects (iDpi iMode iSize iType : Int) (s : Ids) :
    setScan iDpi iMode iSize iType s = (false, s) := by
  have never : iDpi ≠ 150 ∨ iDpi ≠ 300 := by omega
  simp [setScan, never]

theorem openDevice_settings (C : Common) (imgPath : Text) (fd : Int) (entry : Option PfnTab)
    (init : IdsRet) (s : Ids) :
    (openDevice C imgPath fd entry init s).2.gScanConf.settings = defaultSettings C := rfl

/-- While a session is open the configuration holds the latest settings, as
long as no `SetScan` in range has been made. -/
def Current (C : Common) (past : List Call) (s : Ids) : Prop :=
  (∀ iDpi iMode iSize iType, .setScan iDpi iMode iSize iType ∈ past →
    inRange iDpi iMode iSize iType = false) →
  s.pstPfnTab ≠ none → s.gScanConf.settings = latest C past

theorem current_step (C : Common) (past : List Call) (s : Ids) (c : Call)
    (h : Current C past s) : Current C (past ++ [c]) (step C s c) := by
  intro rejected open_
  have before : ∀ iDpi iMode iSize iType, .setScan iDpi iMode iSize iType ∈ past →
      inRange iDpi iMode iSize iType = false :=
    fun _ _ _ _ hmem => rejected _ _ _ _ (List.mem_append_left _ hmem)
  rw [latest_snoc]
  cases c with
  | setScan iDpi iMode iSize iType =>
      have out := rejected iDpi iMode iSize iType (by simp)
      simp only [step, setScan_rejects] at open_ ⊢
      simpa [Call.settings, out] using h before open_
  | op o =>
      cases o using Op.byEffect with
      | openDevice imgPath fd entry init => exact openDevice_settings C imgPath fd entry init s
      | closeDevice => exact absurd (closeDevice_closes s) open_
      | talk o talk =>
          obtain ⟨conf, tab⟩ := (op_talks C o s talk).gScanConf
          have kept : Call.settings C (latest C past) (.op o) = latest C past := by
            cases o with
            | openDevice _ _ _ _ => cases talk
            | _ => rfl
          simp only [step] at open_ ⊢
          rw [kept, conf]
          exact h before (by rwa [tab] at open_)

theorem scan_issues_current (C : Common) (bScanImage bReadRF : Bool) (szIDCard : Buffer)
    (reply : CardReplies) (s : Ids) (i : Issued) (conf : ScanConf)
    (hi : i ∈ (scanAndReadIdCard C bScanImage bReadRF szIDCard reply s).state.issued.drop
      s.issued.length) (hc : i.call = .pScan conf) :
    s.pstPfnTab ≠ none ∧ conf = s.gScanConf := by
  cases open_ : s.pstPfnTab with
  | none => simp [scanAndReadIdCard, open_] at hi
  | some tab =>
      simp only [scanAndReadIdCard_state C bScanImage bReadRF szIDCard reply open_,
        List.drop_left, cardCalls, List.mem_append, List.mem_ite_nil_right,
        List.mem_singleton] at hi
      rcases hi with ((⟨_, rfl⟩ | rfl) | ⟨_, rfl⟩) | ⟨_, rfl⟩ <;> cases hc
      exact ⟨by simp, rfl⟩

/-- The law holds along a run exactly when no `SetScan` of the run is in range. -/
theorem latest_settings_win_iff (C : Common) (calls : List Call) :
    EachStep (ofFn (step C)) Ids.init calls (LatestWins C) ↔
      ∀ iDpi iMode iSize iType, .setScan iDpi iMode iSize iType ∈ calls →
        inRange iDpi iMode iSize iType = false := by
  constructor
  · intro h iDpi iMode iSize iType hmem
    obtain ⟨past, rest, hcalls⟩ := List.append_of_mem hmem
    have hrun : Run (ofFn (step C)) Ids.init past _ := (Run.ofFn_iff (step C)).mpr rfl
    have law := (h past _ rest _ _ hcalls hrun rfl).1
    rw [setScan_rejects] at law
    simpa using law
  · intro rejected past c rest s s' hcalls hrun hstep
    have past_rejected : ∀ iDpi iMode iSize iType, .setScan iDpi iMode iSize iType ∈ past →
        inRange iDpi iMode iSize iType = false := by
      intro _ _ _ _ hmem
      exact rejected _ _ _ _ (hcalls ▸ List.mem_append_left _ hmem)
    have current : Current C past s := by
      have start : Current C [] Ids.init := fun _ open_ => absurd rfl open_
      simpa using hrun.history (I := Current C)
        (fun past s c s' hi hs => by rw [hs]; exact current_step C past s c hi) start
    cases c with
    | setScan iDpi iMode iSize iType =>
        have out := rejected iDpi iMode iSize iType (by rw [hcalls]; simp)
        rw [ofFn] at hstep
        simp [LatestWins, hstep, step, setScan_rejects, out]
    | op o =>
        cases o with
        | scanAndReadIdCard bScanImage bReadRF szIDCard reply =>
            intro i hi conf hc
            rw [hstep] at hi
            obtain ⟨open_, rfl⟩ := scan_issues_current C bScanImage bReadRF szIDCard reply s i conf hi hc
            exact current past_rejected open_
        | _ => trivial

theorem setScan_in_range_is_lost :
    ¬ EachStep (ofFn (step latinCommon)) Ids.init
      [.op (.openDevice CStr.empty 0 (some ⟨1⟩) .ok), .setScan 150 0 1 1]
      (LatestWins latinCommon) := by
  intro h
  have law := h [_] (.setScan 150 0 1 1) [] _ _ rfl (.cons rfl (.nil _)) rfl
  exact absurd (law.1.mpr (by decide)) (by decide)

end NdkThreadSample.TestIDS

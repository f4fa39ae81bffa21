import NdkThreadSample.TestIDS.Session

/-!
What the custody of the function table says about the issued calls themselves:
when a session is open by the calls alone, that `pInit` and `pUninit` alternate,
and that nothing is asked of the driver outside a session.
-/

namespace NdkThreadSample.TestIDS
open CText Custody LabelledRun

def Issued.isInit (i : Issued) : Bool :=
  match i.call with
  | .pInit _ _ _ => true
  | _ => false

def Issued.initOk (i : Issued) : Bool :=
  match i.call with
  | .pInit _ _ ret => ret = .ok
  | _ => false

def Issued.isUninit (i : Issued) : Bool :=
  match i.call with
  | .pUninit => true
  | _ => false

/-- The last `pInit` succeeded and no `pUninit` has followed it. -/
def SessionOpen (t : List Issued) : Prop :=
  ∃ pre i post, t = pre ++ i :: post ∧ i.initOk = true ∧
    ∀ j ∈ post, j.isInit = false ∧ j.isUninit = false

def InitOnlyWhenClosed (t : List Issued) : Prop :=
  ∀ pre i post, t = pre ++ i :: post → i.isInit = true → ¬ SessionOpen pre

def OthersInsideSession (t : List Issued) : Prop :=
  ∀ pre i post, t = pre ++ i :: post → i.isInit = false → SessionOpen pre

/-- After a successful `pInit` there is at most one `pUninit` up to the next
`pInit`, and exactly one when there is a next `pInit`. -/
def UninitOnce (t : List Issued) : Prop :=
  ∀ pre i mid post, t = pre ++ i :: (mid ++ post) → i.initOk = true →
    (∀ j ∈ mid, j.isInit = false) →
    mid.countP Issued.isUninit ≤ 1 ∧
      ∀ j rest, post = j :: rest → j.isInit = true → mid.countP Issued.isUninit = 1

/-- What a call is to the session, and its act. -/
theorem Issued.kind (i : Issued) :
    (i.isInit = true ∧ i.isUninit = false ∧ i.initOk = true ∧ i.act = .acquire i.tab) ∨
    (i.isInit = true ∧ i.isUninit = false ∧ i.initOk = false ∧ i.act = .attempt) ∨
    (i.isInit = false ∧ i.isUninit = true ∧ i.initOk = false ∧ i.act = .release i.tab) ∨
    (i.isInit = false ∧ i.isUninit = false ∧ i.initOk = false ∧ i.act = .use i.tab) := by
  obtain ⟨tab, call⟩ := i
  cases call with
  | pInit imgPath stDevDesc ret =>
      by_cases accepted : ret = .ok
      · exact .inl ⟨rfl, rfl, decide_eq_true accepted, if_pos accepted⟩
      · exact .inr (.inl ⟨rfl, rfl, decide_eq_false accepted, if_neg accepted⟩)
  | pUninit => exact .inr (.inr (.inl ⟨rfl, rfl, rfl, rfl⟩))
  | _ => exact .inr (.inr (.inr ⟨rfl, rfl, rfl, rfl⟩))

theorem act_acquired (i : Issued) :
    i.act.acquired = if i.initOk then some i.tab else none := by
  obtain ⟨_, _, ok, act⟩ | ⟨_, _, ok, act⟩ | ⟨_, _, ok, act⟩ | ⟨_, _, ok, act⟩ := i.kind <;>
    rw [ok, act] <;> rfl

theorem act_released (i : Issued) :
    i.act.released = if i.isUninit then some i.tab else none := by
  obtain ⟨_, un, _, act⟩ | ⟨_, un, _, act⟩ | ⟨_, un, _, act⟩ | ⟨_, un, _, act⟩ := i.kind <;>
    rw [un, act] <;> rfl

theorem act_of_initOk {i : Issued} (h : i.initOk = true) : i.act = .acquire i.tab := by
  obtain ⟨_, _, _, act⟩ | ⟨_, _, ok, _⟩ | ⟨_, _, ok, _⟩ | ⟨_, _, ok, _⟩ := i.kind
  · exact act
  all_goals exact absurd h (by simp [ok])

theorem initOk_isInit {i : Issued} (h : i.isInit = false) : i.initOk = false := by
  obtain ⟨init, _⟩ | ⟨_, _, ok, _⟩ | ⟨_, _, ok, _⟩ | ⟨_, _, ok, _⟩ := i.kind
  · exact absurd h (by simp [init])
  all_goals exact ok

theorem act_of_isInit {i : Issued} (h : i.isInit = true) :
    i.act = .acquire i.tab ∨ i.act = .attempt := by
  obtain ⟨_, _, _, act⟩ | ⟨_, _, _, act⟩ | ⟨init, _⟩ | ⟨init, _⟩ := i.kind
  · exact .inl act
  · exact .inr act
  all_goals exact absurd h (by simp [init])

theorem act_of_not_isInit {i : Issued} (h : i.isInit = false) :
    i.act = .release i.tab ∨ i.act = .use i.tab := by
  obtain ⟨init, _⟩ | ⟨init, _⟩ | ⟨_, _, _, act⟩ | ⟨_, _, _, act⟩ := i.kind
  · exact absurd h (by simp [init])
  · exact absurd h (by simp [init])
  · exact .inl act
  · exact .inr act

theorem kind_of_act_use {i : Issued} {tab : PfnTab} (h : i.act = .use tab) :
    i.isInit = false ∧ i.isUninit = false := by
  obtain ⟨_, _, _, act⟩ | ⟨_, _, _, act⟩ | ⟨_, _, _, act⟩ | ⟨init, un, _⟩ := i.kind
  case inr.inr.inr => exact ⟨init, un⟩
  all_goals rw [act] at h; cases h

theorem initOk_of_act_acquire {i : Issued} {tab : PfnTab} (h : i.act = .acquire tab) :
    i.initOk = true := by
  obtain ⟨_, _, ok, _⟩ | ⟨_, _, _, act⟩ | ⟨_, _, _, act⟩ | ⟨_, _, _, act⟩ := i.kind
  · exact ok
  all_goals rw [act] at h; cases h

/-- On a legal trace the calls alone tell what the slot holds. -/
theorem sessionOpen_iff {t : List Issued} {held : Option PfnTab}
    (legal : Legal none (t.map Issued.act) held) : SessionOpen t ↔ held ≠ none := by
  constructor
  · rintro ⟨pre, i, post, rfl, hok, hpost⟩
    rw [List.map_append, List.map_cons, act_of_initOk hok] at legal
    have hheld := legal.holds_of_quiet (r := i.tab) ?_ ?_
    · simp [hheld]
    · intro a ha
      obtain ⟨j, hj, rfl⟩ := List.mem_map.mp ha
      simp [act_acquired, initOk_isInit (hpost j hj).1]
    · intro a ha
      obtain ⟨j, hj, rfl⟩ := List.mem_map.mp ha
      simp [act_released, (hpost j hj).2]
  · intro hne
    obtain ⟨tab, rfl⟩ := Option.ne_none_iff_exists'.mp hne
    obtain ⟨pre, post, ht, hused⟩ := legal.latest
    obtain ⟨l, u, rfl, _, hu⟩ := List.map_eq_append_iff.mp ht
    obtain ⟨i, v, rfl, hi, hv⟩ := List.map_eq_cons_iff.mp hu
    refine ⟨l, i, v, rfl, initOk_of_act_acquire hi, ?_⟩
    intro j hj
    have hmem : j.act ∈ post := by rw [← hv]; exact List.mem_map_of_mem hj
    exact kind_of_act_use (hused _ hmem)

theorem legal_at {pre post : List Issued} {i : Issued} {held : Option PfnTab}
    (legal : Legal none ((pre ++ i :: post).map Issued.act) held) :
    ∃ x y, Legal none (pre.map Issued.act) x ∧ Next x i.act y ∧
      Legal y (post.map Issued.act) held := by
  rw [List.map_append, List.map_cons] at legal
  exact legal.at_split

theorem legal_initOnlyWhenClosed {t : List Issued} {held : Option PfnTab}
    (legal : Legal none (t.map Issued.act) held) : InitOnlyWhenClosed t := by
  rintro pre i post rfl hinit hopen
  obtain ⟨x, y, hpre, hn, _⟩ := legal_at legal
  have hx := (sessionOpen_iff hpre).mp hopen
  rcases act_of_isInit hinit with h | h <;> rw [h] at hn <;> cases hn <;> exact hx rfl

theorem legal_othersInsideSession {t : List Issued} {held : Option PfnTab}
    (legal : Legal none (t.map Issued.act) held) : OthersInsideSession t := by
  rintro pre i post rfl hother
  obtain ⟨x, y, hpre, hn, _⟩ := legal_at legal
  refine (sessionOpen_iff hpre).mpr ?_
  rcases act_of_not_isInit hother with h | h <;> rw [h] at hn <;> cases hn <;> simp

theorem countP_isUninit (t : List Issued) :
    t.countP Issued.isUninit = ((t.map Issued.act).filterMap Act.released).length := by
  induction t with
  | nil => rfl
  | cons i t ih =>
      simp only [List.countP_cons, List.map_cons, List.filterMap_cons, act_released, ih]
      cases i.isUninit <;> simp

theorem legal_uninitOnce {t : List Issued} {held : Option PfnTab}
    (legal : Legal none (t.map Issued.act) held) : UninitOnce t := by
  rintro pre i mid post rfl hok hmid
  obtain ⟨x, y, _, hn, hrest⟩ := legal_at legal
  rw [act_of_initOk hok] at hn
  cases hn
  rw [List.map_append] at hrest
  obtain ⟨z, hz, hpost⟩ := hrest.append_inv
  have quiet : (mid.map Issued.act).filterMap Act.acquired = [] := by
    refine List.filterMap_eq_nil_iff.mpr ?_
    intro a ha
    obtain ⟨j, hj, rfl⟩ := List.mem_map.mp ha
    simp [act_acquired, initOk_isInit (hmid j hj)]
  obtain ⟨hle, heq⟩ := hz.releases_le_one quiet
  rw [← countP_isUninit] at hle heq
  refine ⟨hle, ?_⟩
  rintro j rest rfl hj
  refine heq (by simp) ?_
  -- the next `pInit` finds the slot empty
  cases hpost with
  | cons hn' _ =>
      rcases act_of_isInit hj with h | h <;> rw [h] at hn' <;> cases hn' <;> rfl

/-- With no session open an operation fails before it touches a buffer. -/
theorem op_closed (C : Common) (o : Op) (s : Ids) (closed : s.pstPfnTab = none)
    (other : ∀ imgPath fd entry init, o ≠ .openDevice imgPath fd entry init) :
    (o.run C s).report.failure ∧ (o.run C s).buffers = o.buffers := by
  cases o with
  | openDevice imgPath fd entry init => exact absurd rfl (other imgPath fd entry init)
  | closeDevice => simp [Op.run, ofFlag, closeDevice, closed, Report.failure, Op.buffers]
  | setUserData ptr reply | calibrate reply | reset reply | connect reply
  | move pos ulTimeout reply =>
      simp [Op.run, ofCode, idsCsSetUserData, idsCsCalibrate, idsCsReset, idsCsConnect, idsCsMove,
        forward, closed, Report.failure, Op.buffers]
  | getDevInfo bufs conn devInfo =>
      simp [Op.run, idsCsGetDevInfo, closed, Report.failure, Op.buffers]
  | getStatus iType szStatus conn status =>
      simp [Op.run, idsCsGetStatus, closed, Report.failure, Op.buffers]
  | scan conf bufs reply => simp [Op.run, idsCsScan, closed, Report.failure, Op.buffers]
  | readRF cardType bufs ulTimeout reply =>
      simp [Op.run, idsCsReadRF, closed, Report.failure, Op.buffers]
  | coverFlagIs enFlag poll =>
      simp [Op.run, ofFlag, coverFlagIs, closed, Report.failure, Op.buffers]
  | sensorFlagIs mask enFlag poll =>
      simp [Op.run, ofFlag, sensorFlagIs, closed, Report.failure, Op.buffers]
  | waitForCard cover blocked inserted =>
      simp [Op.run, ofFlag, waitForCard, closed, Report.failure, Op.buffers]
  | scanAndReadIdCard bScanImage bReadRF szIDCard reply =>
      simp [Op.run, scanAndReadIdCard, closed, Report.failure, Op.buffers]
  | backIdCard reply => simp [Op.run, ofFlag, backIdCard, closed, Report.failure, Op.buffers]

theorem openDevice_true_iff (C : Common) (imgPath : Text) (fd : Int) (entry : Option PfnTab)
    (init : IdsRet) (s : Ids) :
    (openDevice C imgPath fd entry init s).1 = true ↔
      (openDevice C imgPath fd entry init s).2.pstPfnTab ≠ none := by
  cases entry with
  | none => simp [openDevice]
  | some tab => by_cases h : init = .ok <;> simp [openDevice, h, Ids.issue]

theorem closeDevice_true_iff (s : Ids) :
    (closeDevice s).1 = true ↔ s.pstPfnTab ≠ none := by
  cases open_ : s.pstPfnTab <;> simp [closeDevice, open_]

/-- Over every run the driver is called within alternating sessions only, and
each operation reports the session it finds. -/
theorem driver_sessions (C : Common) (calls : List Call) :
    (∀ s, Run (ofFn (step C)) Ids.init calls s →
      (s.pstPfnTab ≠ none ↔ SessionOpen s.issued) ∧ InitOnlyWhenClosed s.issued ∧
        UninitOnce s.issued ∧ OthersInsideSession s.issued) ∧
    EachStep (ofFn (step C)) Ids.init calls (fun _ s c s' =>
      (∀ o, c = .op o → ¬ SessionOpen s.issued →
        (∀ imgPath fd entry init, o ≠ .openDevice imgPath fd entry init) →
        (o.run C s).report.failure ∧ (o.run C s).buffers = o.buffers) ∧
      (∀ imgPath fd entry init, c = .op (.openDevice imgPath fd entry init) →
        ((openDevice C imgPath fd entry init s).1 = true ↔ SessionOpen s'.issued)) ∧
      (c = .op .closeDevice → ((closeDevice s).1 = true ↔ SessionOpen s.issued))) := by
  constructor
  · intro s run
    have legal := run_custody C run
    exact ⟨(sessionOpen_iff legal).symm, legal_initOnlyWhenClosed legal, legal_uninitOnce legal,
      legal_othersInsideSession legal⟩
  · intro past c rest s s' _ run hstep
    have legal := run_custody C run
    have legal' := run_custody C (run.snoc hstep)
    refine ⟨?_, ?_, ?_⟩
    · intro o _ hclosed other
      have closed : s.pstPfnTab = none :=
        Classical.not_not.mp (fun h => hclosed ((sessionOpen_iff legal).mpr h))
      exact op_closed C o s closed other
    · rintro imgPath fd entry init rfl
      rw [sessionOpen_iff legal', openDevice_true_iff, hstep]
      rfl
    · intro _
      rw [sessionOpen_iff legal, closeDevice_true_iff]

end NdkThreadSample.TestIDS

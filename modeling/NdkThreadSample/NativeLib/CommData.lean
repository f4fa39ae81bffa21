import NdkThreadSample.Library.CText
import NdkThreadSample.Library.LabelledRun

/-!
The event data of the sample: `postEventFromNative` passes the buffer to `send`
or `recv` and stores what they return as the size for the next event. An index
out of range ends a call with an exception, and what was written before it
stays. The arrays themselves are there; `size` may have any length.
-/

namespace NdkThreadSample.NativeLib
open CText LabelledRun

structure CommData where
  buffer : List Int8
  size : List Int
  deriving DecidableEq, Repr

def SEND : Int := 1

def RECV : Int := 2

/-- The elements that a loop from index `i` appends to its text; `none` is an
index out of range. -/
def appendLoop (buffer : List Int8) : Nat → Nat → Option (List Int8)
  | 0, _ => some []
  | n + 1, i => do
    let b ← buffer[i]?
    let rest ← appendLoop buffer n (i + 1)
    return b :: rest

/-- `buffer[i] = (byte) (buffer[i] + 100)` for the next `n` indices, and whether
the loop gets to its end. -/
def addLoop : Nat → Nat → List Int8 → Bool × List Int8
  | 0, _, buffer => (true, buffer)
  | n + 1, i, buffer =>
    match buffer[i]? with
    | none => (false, buffer)
    | some b => addLoop n (i + 1) (buffer.set i (b + 100))

def send (buffer : List Int8) (length : Int) : Option Int := do
  let _text ← appendLoop buffer length.toNat 0
  return length

def recv (buffer : List Int8) (length : Int) : Option Int × List Int8 :=
  let (done, buffer) := addLoop 10 0 buffer
  if done then
    (do
      let _text ← appendLoop buffer length.toNat 0
      return 10, buffer)
  else (none, buffer)

/-- How an event ends, and the data it leaves. -/
structure Posted where
  thrown : Bool
  card : CommData
  deriving DecidableEq, Repr

def storeSize (data : CommData) (result : Option Int) : Posted :=
  match result with
  | none => ⟨true, data⟩
  | some n => ⟨false, { data with size := data.size.set 0 n }⟩

/-- The `switch` on the code. -/
def dispatch (code : Int) (data : CommData) : Posted :=
  if code = SEND then
    match data.size[0]? with
    | none => ⟨true, data⟩
    | some length => storeSize data (send data.buffer length)
  else if code = RECV then
    match data.size[0]? with
    | none => ⟨true, data⟩
    | some length =>
      let (result, buffer) := recv data.buffer length
      storeSize { data with buffer := buffer } result
  else ⟨false, data⟩

/-- `live` tells whether there is still a `NativeClass` behind the reference; a
null card is `none`. -/
def postEventFromNative (live : Bool) (code : Int) (card : Option CommData) :
    Bool × Option CommData :=
  if !live then (false, card)
  else
    match card with
    | none => (false, none)
    | some data =>
      let posted := dispatch code data
      (posted.thrown, some posted.card)

/-- The data after an event for a live `NativeClass`. -/
def post (data : CommData) (code : Int) : CommData :=
  (postEventFromNative true code (some data)).2.getD data

/-! What each event should keep. -/

structure Bounded (n : Int) (data : CommData) : Prop where
  size : data.size[0]? = some n
  nonneg : 0 ≤ n
  fits : n ≤ data.buffer.length

structure Keeps (data : CommData) (code : Int) : Prop where
  inRange : (postEventFromNative true code (some data)).1 = false
  bounded : ∃ n, Bounded n (post data code)
  beyond : ∀ n, data.size[0]? = some n →
    (post data code).buffer.drop n.toNat = data.buffer.drop n.toNat

/-! The two loops. -/

theorem appendLoop_eq (buffer : List Int8) (n i : Nat) (room : i + n ≤ buffer.length) :
    appendLoop buffer n i = some ((buffer.drop i).take n) := by
  induction n generalizing i with
  | zero => simp [appendLoop]
  | succ n ih =>
      have inside : i < buffer.length := by omega
      rw [appendLoop, ih (i + 1) (by omega), List.getElem?_eq_getElem inside,
        List.drop_eq_getElem_cons inside]
      rfl

theorem addLoop_eq (n i : Nat) (buffer : List Int8) (room : i + n ≤ buffer.length) :
    addLoop n i buffer = (true, write buffer i (((buffer.drop i).take n).map (· + 100))) := by
  induction n generalizing i buffer with
  | zero => simp [addLoop]
  | succ n ih =>
      have inside : i < buffer.length := by omega
      have rest : (buffer.set i (buffer[i] + 100)).drop (i + 1) = buffer.drop (i + 1) :=
        List.drop_set_of_lt (Nat.lt_succ_self i)
      rw [addLoop, List.getElem?_eq_getElem inside]
      simp only
      rw [ih (i + 1) _ (by simp; omega), rest, write_cons _ inside,
        List.drop_eq_getElem_cons inside]
      rfl

theorem addLoop_short (n i : Nat) (buffer : List Int8) (start : i ≤ buffer.length)
    (short : buffer.length < i + n) : (addLoop n i buffer).1 = false := by
  induction n generalizing i buffer with
  | zero => omega
  | succ n ih =>
      by_cases inside : i < buffer.length
      · rw [addLoop, List.getElem?_eq_getElem inside]
        exact ih (i + 1) _ (by simp; omega) (by simp; omega)
      · rw [addLoop, List.getElem?_eq_none (by omega)]

theorem length_addLoop (n i : Nat) (buffer : List Int8) :
    (addLoop n i buffer).2.length = buffer.length := by
  induction n generalizing i buffer with
  | zero => rfl
  | succ n ih =>
      rw [addLoop]
      split
      · rfl
      · rw [ih, List.length_set]

theorem add_hundred_ne (b : Int8) : b + 100 ≠ b := by
  intro h
  simp at h

/-! One event on bounded data. -/

section
variable {n : Int} {data : CommData}

theorem Bounded.appends (h : Bounded n data) {buffer : List Int8}
    (same : buffer.length = data.buffer.length) :
    appendLoop buffer n.toNat 0 = some (buffer.take n.toNat) := by
  have fits := h.fits
  rw [appendLoop_eq buffer n.toNat 0 (by omega), List.drop_zero]

theorem Bounded.dispatch_send (h : Bounded n data) : dispatch SEND data = ⟨false, data⟩ := by
  obtain ⟨buffer, size⟩ := data
  cases size with
  | nil => cases h.size
  | cons first rest =>
      cases h.size
      simp [dispatch, send, storeSize, h.appends rfl]

theorem Bounded.dispatch_recv (h : Bounded n data) (room : 10 ≤ data.buffer.length) :
    dispatch RECV data =
      ⟨false, { buffer := write data.buffer 0 ((data.buffer.take 10).map (· + 100)),
                size := data.size.set 0 10 }⟩ := by
  have same := length_addLoop 10 0 data.buffer
  have added := addLoop_eq 10 0 data.buffer (by omega)
  rw [List.drop_zero] at added
  rw [added] at same
  have other : RECV ≠ SEND := by decide
  simp only [dispatch, recv, if_neg other, if_true, h.size, added, h.appends same]
  rfl

theorem Bounded.dispatch_recv_short (h : Bounded n data) (short : data.buffer.length < 10) :
    (dispatch RECV data).thrown = true ∧ (dispatch RECV data).card.size = data.size ∧
      (dispatch RECV data).card.buffer.length = data.buffer.length := by
  have same := length_addLoop 10 0 data.buffer
  have stops := addLoop_short 10 0 data.buffer (Nat.zero_le _) (by omega)
  have other : RECV ≠ SEND := by decide
  simp [dispatch, recv, storeSize, other, h.size, stops, same]

theorem dispatch_other {code : Int} (send : code ≠ SEND) (recv : code ≠ RECV) :
    dispatch code data = ⟨false, data⟩ := by
  simp [dispatch, send, recv]

/-- The data stay bounded; only a `RECV` changes the size, and never to less
than ten. -/
theorem Bounded.post (h : Bounded n data) (code : Int) :
    ∃ m, Bounded m (post data code) ∧ (code ≠ RECV → m = n) ∧ (10 ≤ n → 10 ≤ m) := by
  change ∃ m, Bounded m (dispatch code data).card ∧ _
  by_cases hrecv : code = RECV
  · subst hrecv
    by_cases room : 10 ≤ data.buffer.length
    · rw [h.dispatch_recv room]
      refine ⟨10, ⟨?_, by decide, ?_⟩, fun other => absurd rfl other, fun _ => Int.le_refl _⟩
      · obtain ⟨inside, _⟩ := List.getElem?_eq_some_iff.mp h.size
        exact List.getElem?_set_self inside
      · rw [length_write]
        omega
    · obtain ⟨_, size, length⟩ := h.dispatch_recv_short (by omega)
      refine ⟨n, ⟨?_, h.nonneg, ?_⟩, fun other => absurd rfl other, id⟩
      · rw [size]
        exact h.size
      · rw [length]
        exact h.fits
  · have kept : (dispatch code data).card = data := by
      by_cases hsend : code = SEND
      · rw [hsend, h.dispatch_send]
      · rw [dispatch_other hsend hrecv]
    rw [kept]
    exact ⟨n, h, fun _ => rfl, id⟩

/-- Adding to the first ten bytes leaves the bytes from `n` on alone exactly
when `n` is at least ten. -/
theorem drop_added_iff (room : 10 ≤ data.buffer.length) (nonneg : 0 ≤ n) :
    (write data.buffer 0 ((data.buffer.take 10).map (· + 100))).drop n.toNat =
      data.buffer.drop n.toNat ↔ 10 ≤ n := by
  have ten : ((data.buffer.take 10).map (· + 100)).length = 10 := by
    rw [List.length_map, List.length_take_of_le room]
  constructor
  · intro same
    by_contra less
    have inside : n.toNat < data.buffer.length := by omega
    have first := congrArg List.head? same
    rw [List.head?_drop, List.head?_drop, List.getElem?_eq_getElem inside, write,
      List.take_zero, List.nil_append, List.getElem?_append_left (by omega),
      List.getElem?_map, List.getElem?_take_of_lt (by omega), List.getElem?_eq_getElem inside]
      at first
    exact add_hundred_ne _ (Option.some.inj first)
  · intro enough
    exact drop_write _ _ (by omega)

/-- An event keeps what it should exactly when it does not add to ten bytes
where fewer were announced. -/
theorem Bounded.keeps_iff (h : Bounded n data) (code : Int) :
    Keeps data code ↔ (code = RECV → 10 ≤ n) := by
  obtain ⟨m, after, _⟩ := h.post code
  have fits := h.fits
  by_cases hrecv : code = RECV
  · subst hrecv
    by_cases room : 10 ≤ data.buffer.length
    · have done := h.dispatch_recv room
      have beyond := drop_added_iff room h.nonneg
      constructor
      · intro keeps _
        have kept := keeps.beyond n h.size
        simp only [NativeLib.post, postEventFromNative, done] at kept
        exact beyond.mp kept
      · intro enough
        refine ⟨?_, ⟨m, after⟩, ?_⟩
        · simp [postEventFromNative, done]
        · intro given hgiven
          cases hgiven.symm.trans h.size
          simp only [NativeLib.post, postEventFromNative, done]
          exact beyond.mpr (enough rfl)
    · have thrown := (h.dispatch_recv_short (by omega)).1
      constructor
      · intro keeps _
        have inRange := keeps.inRange
        simp [postEventFromNative, thrown] at inRange
      · intro enough
        have := enough rfl
        omega
  · have done : dispatch code data = ⟨false, data⟩ := by
      by_cases hsend : code = SEND
      · rw [hsend, h.dispatch_send]
      · exact dispatch_other hsend hrecv
    refine iff_of_true ⟨?_, ⟨m, after⟩, ?_⟩ fun same => absurd same hrecv
    · simp [postEventFromNative, done]
    · simp [NativeLib.post, postEventFromNative, done]

end

/-- The data stay bounded; the size is the first one until ten bytes are
received, and at least ten if that was. -/
def Tracked (n : Int) (past : List Int) (data : CommData) : Prop :=
  ∃ m, Bounded m data ∧ (RECV ∉ past → m = n) ∧ (10 ≤ n → 10 ≤ m)

theorem Tracked.post {n : Int} {past : List Int} {data : CommData} (h : Tracked n past data)
    (code : Int) : Tracked n (past ++ [code]) (post data code) := by
  obtain ⟨m, bounded, same, enough⟩ := h
  obtain ⟨k, after, kept, still⟩ := bounded.post code
  refine ⟨k, after, ?_, fun ten => still (enough ten)⟩
  intro none_
  have earlier : RECV ∉ past := fun h => none_ (List.mem_append_left _ h)
  have other : code ≠ RECV := by
    rintro rfl
    exact none_ (List.mem_append_right _ (List.mem_singleton_self _))
  rw [kept other, same earlier]

/-- From bounded data every event keeps what it should exactly when none of
them receives or the first size is at least ten. -/
theorem events_keep_iff (n : Int) (data : CommData) (bounded : Bounded n data)
    (codes : List Int) :
    EachStep (ofFn post) data codes (fun _ d code _ => Keeps d code) ↔
      RECV ∉ codes ∨ 10 ≤ n := by
  have start : Tracked n [] data := ⟨n, bounded, fun _ => rfl, id⟩
  have keep (past : List Int) (d : CommData) (code : Int) (d' : CommData)
      (h : Tracked n past d) (hs : ofFn post d code d') : Tracked n (past ++ [code]) d' := by
    cases hs
    exact h.post code
  have sizes : EachStep (ofFn post) data codes (fun _ d code _ => Keeps d code) ↔
      EachStep (ofFn post) data codes
        (fun _ d code _ => code = RECV → ∀ m, Bounded m d → 10 ≤ m) := by
    refine EachStep.congr keep start ?_
    intro past d code d' tracked _
    obtain ⟨m, bound, _⟩ := tracked
    rw [bound.keeps_iff code]
    refine forall_congr' fun _ => ⟨?_, fun all => all m bound⟩
    intro ten k other
    cases other.size.symm.trans bound.size
    exact ten
  rw [sizes]
  constructor
  · intro each
    by_cases received : RECV ∈ codes
    · obtain ⟨front, rest, rfl, first⟩ := List.eq_append_cons_of_mem received
      have run : Run (ofFn post) data front (front.foldl post data) :=
        (Run.ofFn_iff post).mpr rfl
      obtain ⟨m, bound, same, _⟩ := run.history keep start
      have ten := each front RECV rest _ _ rfl run rfl rfl m bound
      exact .inr (same first ▸ ten)
    · exact .inl received
  · intro safe past code rest d d' split_ run _ received m bound
    obtain ⟨k, other, _, enough⟩ := run.history keep start
    cases other.size.symm.trans bound.size
    cases safe with
    | inl none_ =>
        refine absurd ?_ none_
        rw [split_, received]
        exact List.mem_append_right _ List.mem_cons_self
    | inr ten => exact enough ten

/-! The buffer of the sample, and one that is shorter than what `recv` adds to. -/

def twentyBytes : CommData := ⟨List.replicate 20 1, [20]⟩

theorem events_keep_iff_twentyBytes :
    Bounded 20 twentyBytes ∧
      (EachStep (ofFn post) twentyBytes [SEND, RECV, 7, RECV] (fun _ d code _ => Keeps d code) ↔
        RECV ∉ [SEND, RECV, 7, RECV] ∨ 10 ≤ (20 : Int)) :=
  ⟨⟨rfl, by decide, by decide⟩, events_keep_iff 20 twentyBytes ⟨rfl, by decide, by decide⟩
    [SEND, RECV, 7, RECV]⟩

theorem recv_runs_out_of_buffer :
    ¬ EachStep (ofFn post) ⟨[1, 2, 3, 4], [4]⟩ [RECV] (fun _ d code _ => Keeps d code) := by
  intro each
  have keeps := each [] RECV [] _ _ rfl (.nil _) rfl
  exact absurd keeps.inRange (by decide)

end NdkThreadSample.NativeLib

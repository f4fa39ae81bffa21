import NdkThreadSample.NativeLib.CommData
import NdkThreadSample.NativeLib.JavaHeap

/-!
`notify` with any number of calls under way at once. Each call makes its own
arrays and lets the fields of the one card refer to them, so a later call
changes what the card refers to while an earlier one still works on its arrays.
`recv` adds to the buffer element by element, and the elements that `notify`
logs and gives back are the array itself or a copy of it.
-/

namespace NdkThreadSample.NativeLib.Shared
open Interleaving CText LabelledRun

/-- A line of the log. -/
inductive Line
  | recv (text : List Int8)
  | send (length : Int)
  | jsize (length : Int)
  | element (i : Nat) (b : Int8)
  deriving DecidableEq, Repr

def setArrayRegion (k : Kind) (ref : Nat) : Nat → List k.Cell → Java Unit
  | _, [] => pure ()
  | start, x :: xs => do
    store k ref start x
    setArrayRegion k ref (start + 1) xs

/-- The next `n` elements from index `i`, one by one. -/
def copyElements (k : Kind) (src dst : Nat) : Nat → Nat → Java Unit
  | 0, _ => pure ()
  | n + 1, i => do
    let x ← load k src i
    store k dst i x
    copyElements k src dst n (i + 1)

/-- The elements are the array itself or one more array with the same cells. -/
def getArrayElements (k : Kind) (ref : Nat) : Java Nat := do
  let copied ← isCopy
  if copied then
    let n ← getArrayLength k ref
    let elements ← newArray k n
    copyElements k ref elements n 0
    return elements
  else return ref

/-- Mode `0`: a copy is written back. -/
def releaseArrayElements (k : Kind) (ref elements : Nat) : Java Unit := do
  if elements = ref then return ()
  else
    let n ← getArrayLength k ref
    copyElements k elements ref n 0

/-! `JavaClass.recv`. -/

def addLoop (buffer : Nat) : Nat → Nat → Java Unit
  | 0, _ => pure ()
  | n + 1, i => do
    let b ← load .bytes buffer i
    store .bytes buffer i (b + 100)
    addLoop buffer n (i + 1)

def appendLoop (buffer : Nat) : Nat → Nat → Java (List Int8)
  | 0, _ => pure []
  | n + 1, i => do
    let b ← load .bytes buffer i
    let rest ← appendLoop buffer n (i + 1)
    return b :: rest

def recv (buffer : Nat) (length : Int) : Java (Line × Int) := do
  addLoop buffer 10 0
  let text ← appendLoop buffer length.toNat 0
  return (.recv text, 10)

/-! `notify`. -/

/-- The last value of an `int`; no `jsize[0]` is above it. -/
def INT_MAX : Nat := 2147483647

/-- `for (int i = 0; i < jsize[0]; i++)` from index `i`, for at most `n` turns. -/
def logLoop (jbuffer jsize : Nat) : Nat → Nat → Java (List Line)
  | 0, _ => return []
  | n + 1, i => do
    let length ← load .ints jsize 0
    if (i : Int) < length then
      let b ← load .bytes jbuffer i
      let rest ← logLoop jbuffer jsize n (i + 1)
      return .element i b :: rest
    else return []

def bufferSize : Nat := 20

def cBuffer : List Int8 := (List.range bufferSize).map Int8.ofNat

/-- The code is for calls that are commented out. -/
def notify (_code : Int) : Java (List Line) := do
  let pBufferArray ← newArray .bytes bufferSize
  setArrayRegion .bytes pBufferArray 0 cBuffer
  setObjectField .bytes pBufferArray
  let pSizeArray ← newArray .ints 1
  setArrayRegion .ints pSizeArray 0 [(bufferSize : Int)]
  setObjectField .ints pSizeArray
  let (received, sendLength) ← recv pBufferArray bufferSize
  let jbuffer ← getArrayElements .bytes pBufferArray
  let jsize ← getArrayElements .ints pSizeArray
  let length ← load .ints jsize 0
  let elements ← logLoop jbuffer jsize INT_MAX 0
  releaseArrayElements .bytes pBufferArray jbuffer
  releaseArrayElements .ints pSizeArray jsize
  return [received, .send sendLength, .jsize length] ++ elements

/-! What every array of a finished field looks like. -/

def Fits : (k : Kind) → List k.Cell → Prop
  | .bytes, xs => xs.length = bufferSize
  | .ints, xs => xs = [(bufferSize : Int)]

/-- The cell can be written to a fitting array anywhere. -/
def FitsCell : (k : Kind) → k.Cell → Prop
  | .bytes, _ => True
  | .ints, x => x = (bufferSize : Int)

theorem Fits.set {k : Kind} {xs : List k.Cell} {x : k.Cell} (h : Fits k xs) (hx : FitsCell k x)
    (i : Nat) : Fits k (xs.set i x) := by
  cases k with
  | bytes => exact (List.length_set ..).trans h
  | ints =>
      cases h
      cases hx
      cases i <;> rfl

/-- One program by itself, from arrays of its own. -/
abbrev Triple {α : Type} (r : Arrays) (p : Java α) (Q : α → Arrays → Prop) : Prop :=
  Safe Heap.does (sharing Fits) Q p r

section
variable {k : Kind} {r : Arrays} {ref src dst i n : Nat} {xs ys : List k.Cell}

variable (k) in
theorem setArrayRegion_triple {Q : Unit → Arrays → Prop} (source : List k.Cell)
    (own : r k ref = some xs) (room : i + source.length ≤ xs.length)
    (fits : ∀ x ∈ source, FitsCell k x) (after : Q () (r.put k ref (write xs i source))) :
    Triple r (setArrayRegion k ref i source) Q := by
  induction source generalizing r xs i with
  | nil =>
      rw [write_nil, Arrays.put_eq own] at after
      exact after
  | cons x source ih =>
      rw [List.length_cons] at room
      have inside : i < xs.length := by omega
      refine Safe.bind (safe_store own inside (fun fit => fit.set (fits x List.mem_cons_self) i) ?_)
      refine ih Arrays.put_self (by rw [List.length_set]; omega)
        (fun y hy => fits y (List.mem_cons_of_mem x hy)) ?_
      rw [Arrays.put_put, write_cons xs inside]
      exact after

theorem copyElements_triple {Q : Unit → Arrays → Prop} (different : src ≠ dst)
    (own : r k src = some xs) (mine : r k dst = some ys) (have_ : i + n ≤ xs.length)
    (room : i + n ≤ ys.length) (fits : ∀ x ∈ xs, FitsCell k x)
    (after : Q () (r.put k dst (write ys i ((xs.drop i).take n)))) :
    Triple r (copyElements k src dst n i) Q := by
  induction n generalizing r ys i with
  | zero =>
      rw [List.take_zero, write_nil, Arrays.put_eq mine] at after
      exact after
  | succ n ih =>
      have inside : i < xs.length := by omega
      have found := List.getElem?_eq_getElem inside
      refine Safe.bind (safe_load own found (Safe.bind (safe_store mine (by omega)
        (fun fit => fit.set (fits _ (List.getElem_mem inside)) i) ?_)))
      have still : (r.put k dst (ys.set i xs[i])) k src = some xs := by
        rw [Arrays.put_ref different]
        exact own
      refine ih still Arrays.put_self (by omega) (by rw [List.length_set]; omega) ?_
      rw [Arrays.put_put, write_cons ys (by omega), ← List.take_succ_cons,
        ← List.drop_eq_getElem_cons inside]
      exact after

/-- What a program still owns when it has been given elements. -/
structure Given (r : Arrays) (k : Kind) (xs : List k.Cell) (elements : Nat) (r' : Arrays) :
    Prop where
  elements : r' k elements = some xs
  still : ∀ k' ref ys, r k' ref = some ys → r' k' ref = some ys

theorem getArrayElements_triple {Q : Nat → Arrays → Prop} (own : r k ref = some xs)
    (fits : ∀ x ∈ xs, FitsCell k x)
    (after : ∀ elements r', Given r k xs elements r' → Q elements r') :
    Triple r (getArrayElements k ref) Q := by
  refine Safe.bind (safe_isCopy fun copied => ?_)
  cases copied with
  | false => exact after ref r ⟨own, fun _ _ _ h => h⟩
  | true =>
      refine Safe.bind (safe_getArrayLength own (Safe.bind (safe_newArray fun elements fresh => ?_)))
      have different : ref ≠ elements := by
        rintro rfl
        rw [fresh] at own
        cases own
      have still : (r.put k elements (List.replicate xs.length k.zero)) k ref = some xs := by
        rw [Arrays.put_ref different]
        exact own
      refine Safe.bind (copyElements_triple different still Arrays.put_self (by simp) (by simp)
        fits ?_)
      rw [Arrays.put_put, List.drop_zero, List.take_length]
      have whole : write (List.replicate xs.length k.zero) 0 xs = xs := by
        simp [write]
      rw [whole]
      refine after elements _ ⟨Arrays.put_self, ?_⟩
      intro k' ref' ys owned
      by_cases same : k' = k
      · subst same
        have other : ref' ≠ elements := by
          rintro rfl
          rw [fresh] at owned
          cases owned
        rw [Arrays.put_ref other]
        exact owned
      · rw [Arrays.put_kind same]
        exact owned

/-- Elements that were not changed are written back to the same array. -/
theorem releaseArrayElements_triple {Q : Unit → Arrays → Prop} {elements : Nat}
    (own : r k ref = some xs) (mine : r k elements = some xs) (fits : ∀ x ∈ xs, FitsCell k x)
    (after : Q () r) : Triple r (releaseArrayElements k ref elements) Q := by
  by_cases same : elements = ref
  · rw [releaseArrayElements, if_pos same]
    exact after
  · rw [releaseArrayElements, if_neg same]
    refine Safe.bind (safe_getArrayLength own
      (copyElements_triple same mine own (by simp) (by simp) fits ?_))
    have whole : write xs 0 xs = xs := by
      simp [write]
    rw [List.drop_zero, List.take_length, whole, Arrays.put_eq own]
    exact after

end

/-! `recv` with others between its steps does what it does alone. -/

section
variable {r : Arrays} {buffer : Nat} {xs ys : List Int8}

theorem addLoop_triple {Q : Unit → Arrays → Prop} {n i : Nat}
    (own : r .bytes buffer = some xs) (alone : NativeLib.addLoop n i xs = (true, ys))
    (after : Q () (r.put .bytes buffer ys)) : Triple r (addLoop buffer n i) Q := by
  induction n generalizing r xs i with
  | zero =>
      cases alone
      rw [Arrays.put_eq own] at after
      exact after
  | succ n ih =>
      rw [NativeLib.addLoop] at alone
      cases found : xs[i]? with
      | none =>
          rw [found] at alone
          cases alone
      | some b =>
          rw [found] at alone
          obtain ⟨inside, _⟩ := List.getElem?_eq_some_iff.mp found
          refine Safe.bind (safe_load own found (Safe.bind (safe_store own inside
            (fun fit => fit.set (x := b + 100) trivial i) ?_)))
          refine ih Arrays.put_self alone ?_
          rw [Arrays.put_put]
          exact after

theorem appendLoop_triple {Q : List Int8 → Arrays → Prop} {n i : Nat} {text : List Int8}
    (own : r .bytes buffer = some xs) (alone : NativeLib.appendLoop xs n i = some text)
    (after : Q text r) : Triple r (appendLoop buffer n i) Q := by
  induction n generalizing i text Q with
  | zero =>
      cases alone
      exact after
  | succ n ih =>
      obtain ⟨b, found, rest⟩ := Option.bind_eq_some_iff.mp alone
      obtain ⟨tail, more, last⟩ := Option.bind_eq_some_iff.mp rest
      cases last
      exact Safe.bind (safe_load own found (Safe.bind (ih more after)))

theorem recv_triple {Q : Line × Int → Arrays → Prop} {length result : Int}
    (own : r .bytes buffer = some xs)
    (alone : NativeLib.recv xs length = (some result, ys))
    (after : ∀ text, NativeLib.appendLoop ys length.toNat 0 = some text →
      Q (.recv text, result) (r.put .bytes buffer ys)) :
    Triple r (recv buffer length) Q := by
  rw [NativeLib.recv] at alone
  rcases added : NativeLib.addLoop 10 0 xs with ⟨done, zs⟩
  rw [added] at alone
  cases done with
  | false => cases alone
  | true =>
      obtain ⟨first, rfl⟩ := Prod.mk.inj alone
      obtain ⟨text, appended, last⟩ := Option.bind_eq_some_iff.mp first
      cases last
      exact Safe.bind (addLoop_triple own added
        (Safe.bind (appendLoop_triple Arrays.put_self appended (after text appended))))

/-- The lines of the elements from index `i`. -/
def elementLines (xs : List Int8) (i : Nat) : List Line :=
  ((xs.drop i).zipIdx i).map fun (b, j) => .element j b

theorem logLoop_triple {Q : List Line → Arrays → Prop} {jsize n i : Nat}
    (own : r .bytes buffer = some xs) (mine : r .ints jsize = some [(xs.length : Int)])
    (start : i ≤ xs.length) (turns : xs.length < i + n) (after : Q (elementLines xs i) r) :
    Triple r (logLoop buffer jsize n i) Q := by
  induction n generalizing i Q with
  | zero => omega
  | succ n ih =>
      refine Safe.bind (safe_load mine rfl ?_)
      by_cases inside : i < xs.length
      · rw [if_pos (by exact_mod_cast inside)]
        refine Safe.bind (safe_load own (List.getElem?_eq_getElem inside) (Safe.bind
          (ih inside (by omega) ?_)))
        have lines : elementLines xs i = .element i xs[i] :: elementLines xs (i + 1) := by
          rw [elementLines, List.drop_eq_getElem_cons inside]
          rfl
        rw [lines] at after
        exact after
      · rw [if_neg (by exact_mod_cast inside)]
        have lines : elementLines xs i = [] := by
          rw [elementLines, List.drop_of_length_le (by omega)]
          rfl
        rw [lines] at after
        exact after

end

/-! `notify` alone, and in every interleaving. -/

/-- What `recv` makes of the bytes that it gets. -/
def received : List Int8 := (List.range 20).map fun i => Int8.ofNat (if i < 10 then i + 100 else i)

def notifyLines : List Line := [.recv received, .send 10, .jsize 20] ++ elementLines received 0

theorem recv_cBuffer : NativeLib.recv cBuffer bufferSize = (some 10, received) := by decide

theorem notify_triple (code : Int) (r : Arrays) :
    Triple r (notify code) fun lines _ => lines = notifyLines := by
  have size (x : Int) (hx : x ∈ [(bufferSize : Int)]) : FitsCell .ints x := List.mem_singleton.mp hx
  have filled : write (List.replicate bufferSize Kind.bytes.zero) 0 cBuffer = cBuffer := by decide
  have sized : write (List.replicate 1 Kind.ints.zero) 0 [(bufferSize : Int)] =
      [(bufferSize : Int)] := rfl
  -- the two arrays of the call
  refine Safe.bind (safe_newArray fun pBufferArray _ => Safe.bind ?_)
  refine setArrayRegion_triple .bytes cBuffer Arrays.put_self (by decide) (fun _ _ => trivial) ?_
  rw [Arrays.put_put, filled]
  refine Safe.bind (safe_setObjectField Arrays.put_self rfl ?_)
  refine Safe.bind (safe_newArray fun pSizeArray _ => Safe.bind ?_)
  refine setArrayRegion_triple .ints [(bufferSize : Int)] Arrays.put_self (by decide) size ?_
  rw [Arrays.put_put, sized]
  refine Safe.bind (safe_setObjectField Arrays.put_self rfl ?_)
  -- the call of `recv`
  have buffer : ((r.put .bytes pBufferArray cBuffer).put .ints pSizeArray
      [(bufferSize : Int)]) .bytes pBufferArray = some cBuffer := by
    rw [Arrays.put_kind (by decide), Arrays.put_self]
  refine Safe.bind (recv_triple buffer recv_cBuffer fun text appended => ?_)
  cases appended
  -- the elements, given and taken back
  refine Safe.bind (getArrayElements_triple Arrays.put_self (fun _ _ => trivial)
    fun jbuffer r₁ first => Safe.bind ?_)
  have array : r₁ .ints pSizeArray = some [(bufferSize : Int)] := first.still _ _ _ (by
    rw [Arrays.put_kind (by decide), Arrays.put_self])
  refine getArrayElements_triple array size fun jsize r₂ second => ?_
  refine Safe.bind (safe_load second.elements rfl (Safe.bind ?_))
  refine logLoop_triple (second.still _ _ _ first.elements) second.elements (by decide)
    (by decide) ?_
  refine Safe.bind (releaseArrayElements_triple
    (second.still _ _ _ (first.still _ _ _ Arrays.put_self))
    (second.still _ _ _ first.elements) (fun _ _ => trivial) (Safe.bind ?_))
  refine releaseArrayElements_triple (second.still _ _ _ array) second.elements size ?_
  rfl

/-! Every run of any number of calls. -/

abbrev Calls := System HeapOp.Reply (List Line) Heap

abbrev callStep : Calls → Event Int Bool → Calls → Prop :=
  ofPartial (advance Heap.does notify)

def Calls.init : Calls := ⟨Heap.init, []⟩

theorem cardFits_init : (sharing Fits).inv Heap.init := by
  intro k ref set
  cases set

theorem calls_coherent {es : List (Event Int Bool)} {s : Calls}
    (run : Run callStep Calls.init es s) :
    ∃ own, Coherent Heap.does (sharing Fits) (fun lines _ => lines = notifyLines) s own :=
  run_coherent cardFits_init
    (fun code => notify_triple code _) run

/-- Each call that has ended has logged its own bytes. One that has not ended can
take its next step, whatever the VM chooses, and gets to its end. -/
theorem calls_log_own_bytes (es : List (Event Int Bool)) (s : Calls)
    (run : Run callStep Calls.init es s) (i : Nat) (p : Java (List Line))
    (found : s.threads[i]? = some p) (choice : Bool) :
    (∀ lines, p = .done lines → lines = notifyLines) ∧
      (∀ op next, p = .act op next → (s.shared.does op choice).isSome) ∧
      ∃ more s', Run callStep s more s' ∧ (∀ e ∈ more, e = .act i choice) ∧
        s'.threads[i]? = some (.done notifyLines) := by
  obtain ⟨own, coherent⟩ := calls_coherent run
  refine ⟨?_, ?_, ?_⟩
  · rintro lines rfl
    exact coherent.safe i _ found
  · rintro op next rfl
    obtain ⟨reply, shared, r, done, _⟩ := coherent.act found choice
    rw [done]
    rfl
  · have acts (s : Calls) (i : Nat) (choice : Bool) (s' : Calls)
        (h : advance Heap.does notify s (.act i choice) = some s') :
        callStep s (.act i choice) s' := h
    obtain ⟨more, s', lines, last, own', ended⟩ := coherent.finishes acts choice found
    obtain ⟨own'', after⟩ := calls_coherent (run.append last)
    cases after.safe i _ ended
    exact ⟨more, s', last, own', ended⟩

/-- Two calls that take turns. -/
def turns : List (Event Int Bool) := [.start 7, .start 8, .act 0 true, .act 1 false, .act 1 true]

theorem calls_log_own_bytes_turns :
    ∃ s p, Run callStep Calls.init turns s ∧ s.threads[1]? = some p ∧
      (∀ lines, p = .done lines → lines = notifyLines) ∧
      (∀ op next, p = .act op next → (s.shared.does op false).isSome) ∧
      ∃ more s', Run callStep s more s' ∧ (∀ e ∈ more, e = .act 1 false) ∧
        s'.threads[1]? = some (.done notifyLines) :=
  have run := Run.ofPartial_get (advance Heap.does notify) Calls.init turns (by decide +kernel)
  ⟨_, _, run, List.getElem?_eq_getElem (by decide +kernel),
    calls_log_own_bytes turns _ run 1 _ (List.getElem?_eq_getElem (by decide +kernel)) false⟩

/-- The event data behind the card, once both fields are set. -/
def commData (s : Heap) : Option CommData := do
  let buffer ← s.card .bytes
  let size ← s.card .ints
  return ⟨← (s.arrays .bytes)[buffer]?, ← (s.arrays .ints)[size]?⟩

/-- The two fields may come from different calls, and the bytes may be half
added to; an event with this card stays in range all the same. -/
theorem shared_card_keeps_events_in_range (es : List (Event Int Bool)) (s : Calls)
    (run : Run callStep Calls.init es s) (buffer size : Nat)
    (bufferSet : s.shared.card .bytes = some buffer)
    (sizeSet : s.shared.card .ints = some size) :
    ∃ data, commData s.shared = some data ∧ Bounded bufferSize data ∧ ∀ code, Keeps data code := by
  obtain ⟨own, coherent⟩ := calls_coherent run
  obtain ⟨xs, foundBytes, length⟩ := coherent.inv .bytes buffer bufferSet
  obtain ⟨ys, foundInts, sized⟩ := coherent.inv .ints size sizeSet
  cases sized
  have bounded : Bounded bufferSize ⟨xs, [(bufferSize : Int)]⟩ :=
    ⟨rfl, Int.natCast_nonneg _, by exact_mod_cast Nat.le_of_eq length.symm⟩
  refine ⟨_, ?_, bounded, fun code => (bounded.keeps_iff code).mpr fun _ => by decide⟩
  simp [commData, bufferSet, sizeSet, foundBytes, foundInts]

/-- The first call has set both fields, then the second one the buffer. -/
def mixed : List (Event Int Bool) :=
  [.start 7, .start 8] ++ List.replicate 25 (.act 0 false) ++ List.replicate 22 (.act 1 true)

theorem shared_card_keeps_events_in_range_mixed :
    ∃ s data, Run callStep Calls.init mixed s ∧ s.shared.card .bytes = some 1 ∧
      s.shared.card .ints = some 0 ∧ commData s.shared = some data ∧ Bounded bufferSize data ∧
        ∀ code, Keeps data code :=
  have run := Run.ofPartial_get (advance Heap.does notify) Calls.init mixed (by decide +kernel)
  have ⟨data, found, bounded, keeps⟩ :=
    shared_card_keeps_events_in_range mixed _ run 1 0 (by decide +kernel) (by decide +kernel)
  ⟨_, data, run, by decide +kernel, by decide +kernel, found, bounded, keeps⟩

end NdkThreadSample.NativeLib.Shared

import NdkThreadSample.JniDriver.Entries
import NdkThreadSample.TestIDS.CardBuffer

/-!
The texts that reach Java. A file name goes through a temporary of 256 bytes
and arrives without a terminator; the text of a card stays in native memory.
-/

namespace NdkThreadSample.JniDriver
open CText ManagedArray TestIDS

/-- Up to its first NUL the array is the text, one byte in each element. -/
def Reads (array : List JChar) (text : Text) : Prop :=
  (array.takeWhile (· ≠ 0)).map narrow = text.chars

/-- The array has a NUL where the text ends. -/
def EndsWith (array : List JChar) (text : Text) : Prop := array[text.chars.length]? = some 0

instance (array : List JChar) (text : Text) : Decidable (Reads array text) :=
  inferInstanceAs (Decidable (_ = _))

def ScanIntact (result : ScanResult) (r : ScanReturn) : Prop :=
  r.ret = 0 →
    Reads r.cFileNameFront (cstr result.cFileNameFront) ∧
      Reads r.cFileNameBack (cstr result.cFileNameBack) ∧
      r.tmp.cFileNameFront.length = 256 ∧ r.tmp.cFileNameBack.length = 256

/-- A text is built when the card is asked for and its fetch succeeds. -/
def TextIntact (C : Common) (bReadRF : Int) (reply : CardReplies) (r : CardReturn) : Prop :=
  r.ret ≠ 0 → bReadRF ≠ 0 → fetches C reply = true → Reads r.szIDCard (cstr r.pucData)

/-- The writes are to stay inside the buffers also when no text comes of them. -/
def CardIntact (C : Common) (bReadRF : Int) (pucData : Buffer) (reply : CardReplies) (s : Ids)
    (r : CardReturn) : Prop :=
  TextIntact C bReadRF reply r ∧ WritesInside C s (bReadRF ≠ 0) pucData reply

/-! When the texts arrive. -/

def Scanned (reply : IdsRet × ScanResult) (s : Ids) : Prop :=
  s.pstPfnTab ≠ none ∧ reply.1 = .ok

/-- The name fits the temporary and ends at a NUL of the array. -/
def Carried (text : Text) (array : List JChar) : Prop :=
  text.chars.length < 256 ∧ EndsWith array text

def CardRead (C : Common) (bScanImage bReadRF : Int) (reply : CardReplies) (s : Ids) : Prop :=
  s.pstPfnTab ≠ none ∧ bReadRF ≠ 0 ∧ earlierSteps (bScanImage ≠ 0) reply = true ∧
    fetches C reply = true

theorem reads_write_iff (charSigned : Bool) (array : List JChar) (text : Text)
    (room : text.chars.length < array.length) :
    Reads (write array 0 (text.chars.map (widen charSigned))) text ↔ EndsWith array text := by
  have free : ∀ c ∈ text.chars.map (widen charSigned), decide (c ≠ 0) = true := by
    intro c hc
    obtain ⟨b, hb, rfl⟩ := List.mem_map.mp hc
    have hne : b ≠ 0 := fun hzero => text.nulFree (hzero ▸ hb)
    simpa [widen_eq_zero_iff] using hne
  have back : (text.chars.map (widen charSigned)).map narrow = text.chars :=
    map_back fun c _ => narrow_widen charSigned c
  have split_ : write array 0 (text.chars.map (widen charSigned)) =
      text.chars.map (widen charSigned) ++
        array[text.chars.length] :: array.drop (text.chars.length + 1) := by
    rw [← List.drop_eq_getElem_cons room]
    simp [write]
  rw [Reads, split_, List.takeWhile_append_of_pos free, List.map_append, back, EndsWith,
    List.getElem?_eq_getElem room]
  generalize array[text.chars.length] = last
  generalize array.drop (text.chars.length + 1) = rest
  by_cases hnul : last = 0
  · simp [hnul]
  · simp [hnul]

section
variable (H : Header) (javaVM : Int) (userData : IdsRet) (s : Ids)

theorem scan_ret_eq_zero_iff (conf : ScanConf) (cFileNameFront cFileNameBack : JavaArray JChar)
    (penCardDir : JavaArray Int) (reply : IdsRet × ScanResult) :
    (scan H javaVM userData conf cFileNameFront cFileNameBack penCardDir reply s).ret = 0 ↔
      Scanned reply s := by
  simp only [scan, H.retCode_eq_zero]
  cases open_ : s.pstPfnTab with
  | none => simp [idsCsScan, setUserData_pstPfnTab, open_, Scanned]
  | some tab =>
      by_cases hr : reply.1 = .ok <;>
        simp [idsCsScan, setUserData_pstPfnTab, open_, Scanned, hr]

/-- Both names lie over the start of their arrays. -/
theorem scan_of_scanned (conf : ScanConf) (cFileNameFront cFileNameBack : JavaArray JChar)
    (penCardDir : JavaArray Int) (reply : IdsRet × ScanResult)
    (roomFront : (cstr reply.2.cFileNameFront).chars.length < cFileNameFront.content.length)
    (roomBack : (cstr reply.2.cFileNameBack).chars.length < cFileNameBack.content.length)
    (scanned : Scanned reply s) :
    let r := scan H javaVM userData conf cFileNameFront cFileNameBack penCardDir reply s
    r.cFileNameFront = write cFileNameFront.content 0
        ((cstr reply.2.cFileNameFront).chars.map (widen H.charSigned)) ∧
      r.cFileNameBack = write cFileNameBack.content 0
        ((cstr reply.2.cFileNameBack).chars.map (widen H.charSigned)) ∧
      r.tmp.cFileNameFront = strcpy (zeros 256) (cstr reply.2.cFileNameFront) ∧
      r.tmp.cFileNameBack = strcpy (zeros 256) (cstr reply.2.cFileNameBack) := by
  have ret := (scan_ret_eq_zero_iff H javaVM userData s conf cFileNameFront cFileNameBack
    penCardDir reply).mpr scanned
  obtain ⟨isOpen, hr⟩ := scanned
  obtain ⟨tab, open_⟩ := Option.ne_none_iff_exists'.mp isOpen
  simp only [scan, idsCsScan, setUserData_pstPfnTab, open_, hr, if_true] at ret ⊢
  simp only [if_pos ret]
  refine ⟨?_, ?_, trivial, trivial⟩
  · rw [release_c2jniString, cstr_strcpy]
    rw [cstr_strcpy]
    exact roomFront.le
  · rw [release_c2jniString, cstr_strcpy]
    rw [cstr_strcpy]
    exact roomBack.le

/-- The flag and the memory of a call that reads its card. -/
theorem scanAndReadIdCard_of_open (bScanImage bReadRF : Int) (szIDCard : JavaArray JChar)
    (pucData : Fresh (3000 * 1000 * 2 * 3)) (reply : CardReplies) (isOpen : s.pstPfnTab ≠ none)
    (reads : bReadRF ≠ 0) (fetched : fetches H.toCommon reply = true) :
    let r := scanAndReadIdCard H javaVM userData bScanImage bReadRF szIDCard pucData reply s
    (r.ret ≠ 0 ↔ earlierSteps (bScanImage ≠ 0) reply = true) ∧
      r.szIDCard = szIDCard.content ∧
      r.pucData = strcpy pucData.bytes (joined (translated H.toCommon reply.readRF2.2.cardInfoCN)) := by
  obtain ⟨tab, open_⟩ := Option.ne_none_iff_exists'.mp isOpen
  rw [← setUserData_pstPfnTab javaVM userData] at open_
  have flag := scan_bRet H.toCommon (bScanImage ≠ 0) pucData.bytes reply _ open_
  have text := scan_szIDCard H.toCommon (bScanImage ≠ 0) pucData.bytes reply _ open_
  rw [if_pos fetched] at text
  have asked : decide (bReadRF ≠ 0) = true := decide_eq_true reads
  simp only [scanAndReadIdCard, asked, flag, text, and_self, and_true]
  cases earlierSteps (decide (bScanImage ≠ 0)) reply <;> decide

theorem closed_ret (bScanImage bReadRF : Int) (szIDCard : JavaArray JChar)
    (pucData : Fresh (3000 * 1000 * 2 * 3)) (reply : CardReplies) (closed : s.pstPfnTab = none) :
    (scanAndReadIdCard H javaVM userData bScanImage bReadRF szIDCard pucData reply s).ret = 0 := by
  rw [← setUserData_pstPfnTab javaVM userData] at closed
  simp [scanAndReadIdCard, scan_closed _ _ _ _ _ _ closed]

end

theorem textIntact_iff (H : Header) (javaVM : Int) (userData : IdsRet) (s : Ids)
    (bScanImage bReadRF : Int) (szIDCard : JavaArray JChar)
    (pucData : Fresh (3000 * 1000 * 2 * 3)) (reply : CardReplies) :
    TextIntact H.toCommon bReadRF reply
        (scanAndReadIdCard H javaVM userData bScanImage bReadRF szIDCard pucData reply s) ↔
      ¬ CardRead H.toCommon bScanImage bReadRF reply s ∨
        Reads szIDCard.content (joined (translated H.toCommon reply.readRF2.2.cardInfoCN)) := by
  by_cases closed : s.pstPfnTab = none
  · have refused := closed_ret H javaVM userData s bScanImage bReadRF szIDCard pucData reply closed
    exact iff_of_true (fun ok => absurd refused ok) (.inl fun read => read.1 closed)
  · by_cases asked : bReadRF ≠ 0 ∧ fetches H.toCommon reply = true
    · obtain ⟨flag, array, memory⟩ := scanAndReadIdCard_of_open H javaVM userData s bScanImage
        bReadRF szIDCard pucData reply closed asked.1 asked.2
      rw [TextIntact, flag, array, memory, cstr_strcpy]
      constructor
      · intro intact
        by_cases earlier : earlierSteps (bScanImage ≠ 0) reply = true
        · exact .inr (intact earlier asked.1 asked.2)
        · exact .inl fun read => earlier read.2.2.1
      · intro held earlier reads fetched
        exact held.resolve_left (not_not_intro ⟨closed, reads, earlier, fetched⟩)
    · exact iff_of_true (fun _ reads fetched => absurd ⟨reads, fetched⟩ asked)
        (.inl fun read => asked ⟨read.2.1, read.2.2.2⟩)

/-- Each entry hands its texts to Java, and writes inside its buffers, exactly
when they are carried as far as its arrays: short names that end at a NUL of
theirs, a card text that fits and that the array holds already. -/
theorem text_results_intact_iff (H : Header) (javaVM : Int) (userData : IdsRet) (s : Ids)
    (conf : ScanConf) (cFileNameFront cFileNameBack : JavaArray JChar)
    (penCardDir : JavaArray Int) (scanReply : IdsRet × ScanResult) (bScanImage bReadRF : Int)
    (szIDCard : JavaArray JChar) (pucData : Fresh (3000 * 1000 * 2 * 3)) (reply : CardReplies)
    (roomFront : (cstr scanReply.2.cFileNameFront).chars.length < cFileNameFront.content.length)
    (roomBack : (cstr scanReply.2.cFileNameBack).chars.length < cFileNameBack.content.length) :
    (ScanIntact scanReply.2
        (scan H javaVM userData conf cFileNameFront cFileNameBack penCardDir scanReply s) ↔
      ¬ Scanned scanReply s ∨
        Carried (cstr scanReply.2.cFileNameFront) cFileNameFront.content ∧
          Carried (cstr scanReply.2.cFileNameBack) cFileNameBack.content) ∧
    (CardIntact H.toCommon bReadRF pucData.bytes reply s
        (scanAndReadIdCard H javaVM userData bScanImage bReadRF szIDCard pucData reply s) ↔
      (¬ CardRead H.toCommon bScanImage bReadRF reply s ∨
        Reads szIDCard.content (joined (translated H.toCommon reply.readRF2.2.cardInfoCN))) ∧
      RecordFits H.toCommon s (bReadRF ≠ 0) (3000 * 1000 * 2 * 3) reply) := by
  constructor
  · rw [ScanIntact, scan_ret_eq_zero_iff]
    by_cases scanned : Scanned scanReply s
    · obtain ⟨front, back, tmpFront, tmpBack⟩ := scan_of_scanned H javaVM userData s conf
        cFileNameFront cFileNameBack penCardDir scanReply roomFront roomBack scanned
      have size : (zeros 256).length = 256 := List.length_replicate
      have room (text : Text) := length_strcpy_iff (zeros 256) text
      rw [size] at room
      rw [front, back, tmpFront, tmpBack, reads_write_iff _ _ _ roomFront,
        reads_write_iff _ _ _ roomBack, room, room]
      simp only [scanned, true_imp_iff, not_true, false_or, Carried]
      constructor
      · rintro ⟨endFront, endBack, fitFront, fitBack⟩
        exact ⟨⟨fitFront, endFront⟩, fitBack, endBack⟩
      · rintro ⟨⟨fitFront, endFront⟩, fitBack, endBack⟩
        exact ⟨endFront, endBack, fitFront, fitBack⟩
    · simp [scanned]
  · rw [CardIntact, writesInside_iff, pucData.length_eq]
    exact and_congr_left fun _ =>
      textIntact_iff H javaVM userData s bScanImage bReadRF szIDCard pucData reply

/-! Names of two characters over an earlier, longer result. -/

def namesAB : ScanResult := ⟨padded 260 [65, 66], padded 260 [65, 66], 0⟩

theorem text_results_intact_iff_short :
    let front : JavaArray JChar := ⟨[0, 0, 0], true⟩
    let szIDCard : JavaArray JChar := ⟨[0, 0, 0], true⟩
    let pucData : Fresh (3000 * 1000 * 2 * 3) := ⟨zeros _, List.length_replicate⟩
    let reply : CardReplies := ⟨.ok, .ok, .ok, (.ok, ⟨0, sampleRecord [65, 0]⟩)⟩
    ((cstr namesAB.cFileNameFront).chars.length < front.content.length ∧
      (cstr namesAB.cFileNameBack).chars.length < front.content.length) ∧
    (ScanIntact namesAB
        (scan sampleHeader 7 .ok ScanConf.zero front front ⟨[0], true⟩ (.ok, namesAB) opened) ↔
      ¬ Scanned (.ok, namesAB) opened ∨
        Carried (cstr namesAB.cFileNameFront) front.content ∧
          Carried (cstr namesAB.cFileNameBack) front.content) ∧
    (CardIntact sampleHeader.toCommon 1 pucData.bytes reply opened
        (scanAndReadIdCard sampleHeader 7 .ok 0 1 szIDCard pucData reply opened) ↔
      (¬ CardRead sampleHeader.toCommon 0 1 reply opened ∨
        Reads szIDCard.content (joined (translated sampleHeader.toCommon (sampleRecord [65, 0])))) ∧
      RecordFits sampleHeader.toCommon opened true (3000 * 1000 * 2 * 3) reply) :=
  ⟨by decide, text_results_intact_iff sampleHeader 7 .ok opened ScanConf.zero _ _ _
    (.ok, namesAB) 0 1 _ _ _ (by decide) (by decide)⟩

/-- The end of the earlier name is read as part of the new one. -/
theorem short_name_in_reused_array :
    ¬ ScanIntact namesAB
      (scan sampleHeader 7 .ok ScanConf.zero ⟨[67, 67, 67, 0], true⟩ ⟨[67, 67, 67, 0], true⟩
        ⟨[0], true⟩ (.ok, namesAB) opened) := by
  intro intact
  exact absurd (intact rfl).1 (by decide)

end NdkThreadSample.JniDriver

import Mathlib.Data.List.GetD
import NdkThreadSample.JniDriver.Entries

/-!
The path on its way to the driver. `init` keeps the low byte of each character
in a temporary of 256 bytes and hands that on as a C string, whatever the
length of the array and the range of its characters.
-/

namespace NdkThreadSample.JniDriver
open CText ManagedArray TestIDS

/-- The path is written inside `tmpsPath` and ends there. -/
def Contained (r : InitReturn) : Prop := r.tmpsPath.length = 256 ∧ 0 ∈ r.tmpsPath

def ToldApart (imgPath imgPath' : List JChar) (r r' : InitReturn) : Prop :=
  Contained r ∧ Contained r' ∧ (imgPath ≠ imgPath' → cstr r.tmpsPath ≠ cstr r'.tmpsPath)

/-! When two paths are told apart. -/

/-- A path of 256 characters has its NUL only where one of them has the low byte 0. -/
def Fits (imgPath : List JChar) : Prop :=
  imgPath.length < 256 ∨ imgPath.length = 256 ∧ ∃ c ∈ imgPath, narrow c = 0

/-- Some low byte differs, and no earlier character of the first path has the
low byte 0; a path that has ended goes on with NUL. -/
def LowBytesDiffer (imgPath imgPath' : List JChar) : Prop :=
  ∃ i, (∀ j < i, narrow (imgPath.getD j 0) ≠ 0) ∧
    narrow (imgPath.getD i 0) ≠ narrow (imgPath'.getD i 0)

theorem getD_narrow (imgPath : List JChar) (i : Nat) :
    (imgPath.map narrow).getD i 0 = narrow (imgPath.getD i 0) :=
  List.getD_map imgPath 0 narrow

theorem lowBytesDiffer_iff (imgPath imgPath' : List JChar) :
    LowBytesDiffer imgPath imgPath' ↔
      cstr (imgPath.map narrow) ≠ cstr (imgPath'.map narrow) := by
  rw [ne_eq, cstr_eq_iff, Agree]
  simp only [getD_narrow, not_forall, exists_prop, LowBytesDiffer, ne_eq]

section
variable (H : Header) (javaVM : Int) (userData : IdsRet) (env : Int) (imgPath : JavaArray JChar)
  (fd : Int) (entry : Option PfnTab) (reply : IdsRet) (s : Ids)

theorem init_tmpsPath :
    (init H javaVM userData env imgPath fd entry reply s).tmpsPath =
      write (zeros 256) 0 (imgPath.content.map narrow) :=
  jni2cString_eq imgPath (zeros 256)

theorem init_path :
    cstr (init H javaVM userData env imgPath fd entry reply s).tmpsPath =
      cstr (imgPath.content.map narrow) := by
  rw [init_tmpsPath, zeros, cstr_write_cleared]

theorem init_contained_iff :
    Contained (init H javaVM userData env imgPath fd entry reply s) ↔ Fits imgPath.content := by
  have fills : 0 ∈ imgPath.content.map narrow ↔ ∃ c ∈ imgPath.content, narrow c = 0 :=
    List.mem_map
  have size : (zeros 256).length = 256 := List.length_replicate
  rw [Contained, init_tmpsPath, length_write, size, List.length_map, zeros,
    zero_mem_write_cleared, List.length_map, fills, Fits]
  constructor
  · rintro ⟨inside, short | cut⟩
    · exact .inl short
    · rcases Nat.lt_or_ge imgPath.content.length 256 with short | full
      · exact .inl short
      · exact .inr ⟨by omega, cut⟩
  · rintro (short | ⟨full, cut⟩)
    · exact ⟨by omega, .inl short⟩
    · exact ⟨by omega, .inr cut⟩

end

/-- Two paths are converted inside their buffers and told apart exactly when
both fit and they are one path or differ in a low byte that is read. -/
theorem paths_told_apart_iff (H : Header) (javaVM : Int) (userData userData' : IdsRet)
    (env env' : Int) (imgPath imgPath' : JavaArray JChar) (fd fd' : Int)
    (entry entry' : Option PfnTab) (reply reply' : IdsRet) (s s' : Ids) :
    ToldApart imgPath.content imgPath'.content
        (init H javaVM userData env imgPath fd entry reply s)
        (init H javaVM userData' env' imgPath' fd' entry' reply' s') ↔
      Fits imgPath.content ∧ Fits imgPath'.content ∧
        (imgPath.content = imgPath'.content ∨
          LowBytesDiffer imgPath.content imgPath'.content) := by
  rw [ToldApart, init_contained_iff, init_contained_iff, init_path, init_path,
    lowBytesDiffer_iff, ne_eq, ← Decidable.or_iff_not_imp_left]

/-! A directory with a name of one Chinese character, one named with the dash of
the same low byte, and a path of 257 characters. -/

def wide : JavaArray JChar := ⟨[0x2F, 0x4E2D], true⟩

def dash : JavaArray JChar := ⟨[0x2F, 0x2D], true⟩

def overlong : JavaArray JChar := ⟨List.replicate 257 0x61, true⟩

def initOf (imgPath : JavaArray JChar) : InitReturn :=
  init sampleHeader 7 .ok 9 imgPath 3 (some ⟨1⟩) .ok Ids.init

/-- The driver opens the two directories under one name, and the long path is
written over the end of `tmpsPath`. -/
theorem wide_and_overlong_paths_break :
    (0 ∉ wide.content ∧ 0 ∉ dash.content ∧ 0 ∉ overlong.content) ∧
      ¬ ToldApart wide.content dash.content (initOf wide) (initOf dash) ∧
      ¬ ToldApart overlong.content dash.content (initOf overlong) (initOf dash) := by
  refine ⟨⟨by decide, by decide, ?_⟩, ?_, ?_⟩
  · rw [overlong, List.mem_replicate]
    decide
  · intro told
    exact told.2.2 (by decide) (by decide)
  · intro told
    have fits := (init_contained_iff ..).mp told.1
    rw [Fits, overlong, List.length_replicate] at fits
    omega

end NdkThreadSample.JniDriver

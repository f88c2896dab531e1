import Mathlib.Algebra.Order.Field.Basic
import Mathlib.Order.Bounds.Basic
import Mathlib.Tactic.Linarith
import Mathlib.Tactic.NormNum
import Lookout.Display.Region
/-!
# The largest picture in a container

A picture of 16 to 9 is to fill its container up to a margin of a twentieth.  The numbers are exact
here: the elements of an ordered field.

* A size keeps the margin if it is of 16 to 9 and takes up no more than nineteen twentieths of the
  width and of the height (`KeepsMargin`).  **The largest such size is the one that reaches a
  bound** (`isGreatest_iff_reaches`): its height is `fullHeight`.
* **The size that is computed is the largest one unless the container is a little wider than 16 to
  9** (`fitPicture_largest_iff`).  The picture is made as wide as the margin allows, and smaller
  only if it is then higher than the whole container.  In between it is too high for the margin
  alone, as in a container of 1680 to 900 (`fitPicture_too_high`).
-/

namespace Lookout.Layout

variable {K : Type} [Field K] [LinearOrder K] [IsStrictOrderedRing K]

/-- The size of 16 to 9 of some height. -/
def ofHeight (h : K) : K × K := (16 / 9 * h, h)

/-- The size of a picture is of 16 to 9 and leaves a twentieth of its container free. -/
structure KeepsMargin (width height : K) (size : K × K) : Prop where
  /-- It is of 16 to 9. -/
  ratio : size.1 / size.2 = 16 / 9
  /-- A twentieth of the width is left. -/
  width_le : size.1 ≤ 0.95 * width
  /-- A twentieth of the height is left. -/
  height_le : size.2 ≤ 0.95 * height

/-- The size reaches one of the bounds that the margin sets. -/
def ReachesMargin (width height : K) (size : K × K) : Prop :=
  size.1 = 0.95 * width ∨ size.2 = 0.95 * height

/-- The height of a picture as wide as the margin allows. -/
def heightAtWidth (width : K) : K := 9 / 16 * (0.95 * width)

/-- The greatest height that both bounds allow. -/
def fullHeight (width height : K) : K := min (heightAtWidth width) (0.95 * height)

variable {width height h : K} {size : K × K}

omit [LinearOrder K] [IsStrictOrderedRing K] in
/-- Sizes of 16 to 9 differ if their heights do. -/
theorem ofHeight_inj {h' : K} : ofHeight h = ofHeight h' ↔ h = h' := by
  unfold ofHeight
  constructor
  · intro heq
    exact congrArg Prod.snd heq
  · rintro rfl
    rfl

/-! ### Sizes that keep the margin -/

/-- A size is of 16 to 9 exactly if its height, which is not zero, says what it is. -/
theorem ratio_iff : size.1 / size.2 = 16 / 9 ↔ size.2 ≠ 0 ∧ size = ofHeight size.2 := by
  obtain ⟨w, h⟩ := size
  unfold ofHeight
  simp only [Prod.mk.injEq, and_true]
  constructor
  · intro hratio
    have hne : h ≠ 0 := by
      rintro rfl
      norm_num at hratio
    exact ⟨hne, (div_eq_iff hne).mp hratio⟩
  · rintro ⟨hne, hwidth⟩
    rw [hwidth, div_eq_iff hne]

/-- The width of a picture is allowed exactly if its height is at most that of the widest one. -/
theorem width_le_iff : (ofHeight h).1 ≤ 0.95 * width ↔ h ≤ heightAtWidth width := by
  unfold ofHeight heightAtWidth
  constructor
  · intro hle
    linarith
  · intro hle
    linarith

/-- A picture is as wide as the margin allows exactly if it has the height of the widest one. -/
theorem width_eq_iff : (ofHeight h).1 = 0.95 * width ↔ h = heightAtWidth width := by
  unfold ofHeight heightAtWidth
  constructor
  · intro heq
    linarith
  · intro heq
    linarith

/-- The margin is kept by all heights up to the greatest one. -/
theorem keepsMargin_ofHeight (hne : h ≠ 0) :
    KeepsMargin width height (ofHeight h) ↔ h ≤ fullHeight width height := by
  unfold fullHeight
  rw [le_min_iff, ← width_le_iff]
  constructor
  · intro hkeeps
    exact ⟨hkeeps.width_le, hkeeps.height_le⟩
  · rintro ⟨hwidth, hheight⟩
    exact ⟨ratio_iff.mpr ⟨hne, rfl⟩, hwidth, hheight⟩

/-- A size that keeps the margin is that of its height. -/
theorem KeepsMargin.exists_height (hkeeps : KeepsMargin width height size) :
    ∃ h, size = ofHeight h ∧ h ≤ fullHeight width height := by
  obtain ⟨hne, hsize⟩ := ratio_iff.mp hkeeps.ratio
  rw [hsize] at hkeeps
  exact ⟨size.2, hsize, (keepsMargin_ofHeight hne).mp hkeeps⟩

/-- Of two pictures the higher one is the larger one. -/
theorem ofHeight_le_ofHeight {h' : K} (hle : h ≤ h') : ofHeight h ≤ ofHeight h' := by
  refine ⟨?_, hle⟩
  show 16 / 9 * h ≤ 16 / 9 * h'
  linarith

theorem heightAtWidth_pos (hwidth : 0 < width) : 0 < heightAtWidth width := by
  unfold heightAtWidth
  norm_num
  exact hwidth

theorem fullHeight_pos (hwidth : 0 < width) (hheight : 0 < height) :
    0 < fullHeight width height := by
  unfold fullHeight
  apply lt_min
  · exact heightAtWidth_pos hwidth
  · norm_num
    exact hheight

/-! ### The largest one -/

/-- The greatest height makes the largest size. -/
theorem isGreatest_iff (hwidth : 0 < width) (hheight : 0 < height) :
    IsGreatest {s | KeepsMargin width height s} size ↔
      size = ofHeight (fullHeight width height) := by
  have hpos := fullHeight_pos hwidth hheight
  have hgreatest : IsGreatest {s | KeepsMargin width height s}
      (ofHeight (fullHeight width height)) := by
    constructor
    · exact (keepsMargin_ofHeight hpos.ne').mpr (le_refl _)
    · intro s hs
      obtain ⟨h, rfl, hle⟩ := hs.exists_height
      exact ofHeight_le_ofHeight hle
  constructor
  · intro hsize
    exact hsize.unique hgreatest
  · rintro rfl
    exact hgreatest

/-- **The largest size that keeps the margin is the one that reaches a bound.** -/
theorem isGreatest_iff_reaches (hwidth : 0 < width) (hheight : 0 < height) :
    IsGreatest {s | KeepsMargin width height s} size ↔
      KeepsMargin width height size ∧ ReachesMargin width height size := by
  have hpos := fullHeight_pos hwidth hheight
  rw [isGreatest_iff hwidth hheight]
  constructor
  · rintro rfl
    refine ⟨(keepsMargin_ofHeight hpos.ne').mpr (le_refl _), ?_⟩
    rcases min_choice (heightAtWidth width) (0.95 * height) with hmin | hmin
    · exact Or.inl (width_eq_iff.mpr hmin)
    · exact Or.inr hmin
  · rintro ⟨hkeeps, hreaches⟩
    obtain ⟨h, rfl, hle⟩ := hkeeps.exists_height
    -- a height that reaches a bound is not below the smaller one of them
    have hge : fullHeight width height ≤ h := by
      rcases hreaches with hwide | hhigh
      · rw [width_eq_iff.mp hwide]
        exact min_le_left _ _
      · rw [show h = 0.95 * height from hhigh]
        exact min_le_right _ _
    rw [le_antisymm hle hge]

/-! ### The size that is computed -/

/-- The height of the picture that is computed: it is made as wide as the margin allows, and smaller
if it is then higher than the container. -/
def fittedHeight (width height : K) : K :=
  if height < heightAtWidth width then 0.95 * height else heightAtWidth width

theorem fitPicture_eq (width height : K) :
    fitPicture width height = ofHeight (fittedHeight width height) := by
  have hheight : width * 0.95 * (9.0 / 16.0) = heightAtWidth width := by
    unfold heightAtWidth
    norm_num
    linarith
  unfold fitPicture fittedHeight ofHeight
  dsimp only
  rw [hheight]
  by_cases hhigh : height < heightAtWidth width
  · rw [if_pos hhigh, if_pos hhigh]
    norm_num
    constructor <;> linarith
  · rw [if_neg hhigh, if_neg hhigh]
    unfold heightAtWidth
    norm_num
    linarith

/-- The height is one of the two that reach a bound; the picture is not too wide, and it fits into
the container. -/
theorem fittedHeight_cases (width : K) (hheight : 0 < height) :
    fittedHeight width height ≤ heightAtWidth width ∧ fittedHeight width height ≤ height ∧
      (fittedHeight width height = heightAtWidth width ∨
        fittedHeight width height = 0.95 * height) := by
  have hless : 0.95 * height < height := by
    norm_num
    linarith
  unfold fittedHeight
  by_cases hhigh : height < heightAtWidth width
  · rw [if_pos hhigh]
    exact ⟨(hless.trans hhigh).le, hless.le, Or.inr rfl⟩
  · rw [if_neg hhigh]
    exact ⟨le_refl _, not_lt.mp hhigh, Or.inl rfl⟩

theorem fittedHeight_pos (hwidth : 0 < width) (hheight : 0 < height) :
    0 < fittedHeight width height := by
  obtain ⟨-, -, heq | heq⟩ := fittedHeight_cases width hheight
  · rw [heq]
    exact heightAtWidth_pos hwidth
  · rw [heq]
    norm_num
    exact hheight

/-- The height is the greatest one unless the widest picture is higher than the margin allows, but
not higher than the container. -/
theorem fittedHeight_eq_iff (hheight : 0 < height) :
    fittedHeight width height = fullHeight width height ↔
      heightAtWidth width ≤ 0.95 * height ∨ height < heightAtWidth width := by
  unfold fittedHeight fullHeight
  by_cases hhigh : height < heightAtWidth width
  · have hle : 0.95 * height ≤ heightAtWidth width := by
      norm_num
      linarith
    rw [if_pos hhigh, min_eq_right hle]
    simp [hhigh]
  · rw [if_neg hhigh, eq_comm, min_eq_left_iff]
    simp [hhigh]

/-- **The largest size is computed exactly for containers that are not wider than 16 to 9, or are
wider even without a twentieth of their width.**  Only the height can be too much for the margin:
whatever the container, the size is of 16 to 9, its width leaves the margin, it fits into the
container, and it reaches a bound. -/
theorem fitPicture_largest_iff (hwidth : 0 < width) (hheight : 0 < height) :
    let size := fitPicture width height
    let suits := 9 * width ≤ 16 * height ∨ 16 * height < 0.95 * (9 * width)
    (IsGreatest {s | KeepsMargin width height s} size ↔ suits) ∧
      (KeepsMargin width height size ∧ ReachesMargin width height size ↔ suits) ∧
      size.1 / size.2 = 16 / 9 ∧ size.1 ≤ 0.95 * width ∧ size.2 ≤ height ∧
      ReachesMargin width height size := by
  intro size suits
  have hsize : size = ofHeight (fittedHeight width height) := fitPicture_eq width height
  have hsuits : suits ↔ heightAtWidth width ≤ 0.95 * height ∨ height < heightAtWidth width := by
    unfold suits heightAtWidth
    norm_num
    apply or_congr
    · constructor <;> intro hle <;> linarith
    · constructor <;> intro hlt <;> linarith
  have hgreatest : IsGreatest {s | KeepsMargin width height s} size ↔ suits := by
    rw [isGreatest_iff hwidth hheight, hsize, ofHeight_inj, fittedHeight_eq_iff hheight, hsuits]
  obtain ⟨hwide, hfits, hreaches⟩ := fittedHeight_cases width hheight
  refine ⟨hgreatest, (isGreatest_iff_reaches hwidth hheight).symm.trans hgreatest, ?_⟩
  rw [hsize]
  refine ⟨ratio_iff.mpr ⟨(fittedHeight_pos hwidth hheight).ne', rfl⟩, width_le_iff.mpr hwide, hfits,
    ?_⟩
  rcases hreaches with heq | heq
  · exact Or.inl (width_eq_iff.mpr heq)
  · exact Or.inr heq

/-- In a square container the picture is as wide as the margin allows. -/
theorem fitPicture_square :
    (0 : ℚ) < 1000 ∧ fitPicture (1000 : ℚ) 1000 = (950, 534.375) ∧
      IsGreatest {s | KeepsMargin (1000 : ℚ) 1000 s} (950, 534.375) := by
  have hpos : (0 : ℚ) < 1000 := by norm_num
  have hsize : fitPicture (1000 : ℚ) 1000 = (950, 534.375) := by
    unfold fitPicture
    norm_num
  refine ⟨hpos, hsize, ?_⟩
  rw [← hsize]
  exact (fitPicture_largest_iff hpos hpos).1.mpr (Or.inl (by norm_num))

/-- **In a container of 1680 to 900 the picture is too high**: it leaves 2.25 of the height, where a
twentieth is 45. -/
theorem fitPicture_too_high :
    fitPicture (1680 : ℚ) 900 = (1596, 897.75) ∧
      ¬KeepsMargin 1680 900 (fitPicture (1680 : ℚ) 900) ∧
      IsGreatest {s | KeepsMargin (1680 : ℚ) 900 s} (1520, 855) := by
  have hsize : fitPicture (1680 : ℚ) 900 = (1596, 897.75) := by
    unfold fitPicture
    norm_num
  refine ⟨hsize, ?_, ?_⟩
  · intro hkeeps
    have hhigh := hkeeps.height_le
    rw [hsize] at hhigh
    norm_num at hhigh
  · rw [isGreatest_iff (by norm_num) (by norm_num)]
    unfold ofHeight fullHeight heightAtWidth
    norm_num

end Lookout.Layout

import Vignette.Picture.Crop
import Vignette.Proofs.Number.Nearest

/-!
# How many rows are kept

The rows at a window's proportions are the width of the picture times the window's height over its
width, rounded down (`wholeRows`). Cropping rounds twice more on the way, to 53 binary digits.

Main statement: **cropping keeps just so many rows, or one fewer where the product falls short**
(`Picture.cropTo_keeps`). It falls short (`FallsShort`) only of a whole number, and only if the window's
height over its width does not end in binary digits: there the ratio may be rounded down, and then the
product may be rounded to less than it should be. A picture of 49 columns in a window of 49 by 1 is
left without a row (`Picture.cropTo_loses_row`).
-/

namespace Vignette

open Number

/-! ## 1. Rows at the proportions of a window -/

/-- The rows at the proportions of a window, rounded down once. -/
def wholeRows (width : Nat) (window : Size) : Nat :=
  width * window.height.toNat / window.width.toNat

section Rows

variable {width : Nat} {window : Size}

/-- The height of a window over its width. -/
def Size.InLimits.ratio (hw : window.InLimits) : Fraction :=
  ⟨window.height.toNat, window.width.toNat, hw.width_pos⟩

theorem proportionalRows_eq (hw : window.InLimits) :
    proportionalRows width window = (Fraction.scaleRounded width hw.ratio).floor := by
  have hpos : 0 < window.width.toNat := hw.width_pos
  rw [proportionalRows, dif_pos hpos]
  rfl

/-- A picture as wide as the window has the rows of the window. -/
theorem wholeRows_of_width_eq (hw : window.InLimits) (h : width = window.width.toNat) :
    wholeRows width window = window.height.toNat := by
  rw [wholeRows, h]
  exact Nat.mul_div_cancel_left _ hw.width_pos

/-- A product of a width and the height of a window is far from the limits of 53 digits. -/
theorem mul_height_lt (hwidth : width < 2 ^ 32) (hw : window.InLimits) :
    width * hw.ratio.num < 2 ^ 51 := by
  have hheight : hw.ratio.num ≤ 8192 := hw.height_le
  calc width * hw.ratio.num ≤ (2 ^ 32 - 1) * 8192 := Nat.mul_le_mul (by omega) hheight
    _ < 2 ^ 51 := by norm_num

/-- The product of a width and the ratio of a window, each rounded, falls below the rows that it should
    be. -/
def FallsShort (width : Nat) (hw : window.InLimits) : Prop :=
  (Fraction.scaleRounded width hw.ratio).value < wholeRows width window

/-- **Rounding takes no row unless the product falls short.** -/
theorem proportionalRows_of_not_fallsShort (hwidth : width < 2 ^ 32) (hw : window.InLimits)
    (h : ¬ FallsShort width hw) : proportionalRows width window = wholeRows width window := by
  have hle : wholeRows width window ≤ (Fraction.scaleRounded width hw.ratio).floor :=
    Fraction.le_floor_iff.mpr (not_lt.mp h)
  rw [proportionalRows_eq hw]
  exact le_antisymm (Fraction.floor_scaleRounded_le (mul_height_lt hwidth hw)) hle

/-- **Where the product falls short, rounding takes one row.** That happens to a whole number of rows
    only, at a ratio that does not end within 13 binary digits. -/
theorem proportionalRows_of_fallsShort (hwidth : width < 2 ^ 32) (hw : window.InLimits)
    (h : FallsShort width hw) : proportionalRows width window + 1 = wholeRows width window ∧
      window.width.toNat ∣ width * window.height.toNat ∧
      ¬ window.width.toNat ∣ window.height.toNat * 2 ^ 13 := by
  have hsmall := mul_height_lt hwidth hw
  have hlt : (Fraction.scaleRounded width hw.ratio).floor < wholeRows width window :=
    Fraction.floor_lt_iff.mpr h
  refine ⟨?_, ?_, ?_⟩
  · rw [proportionalRows_eq hw]
    exact le_antisymm hlt (Fraction.div_le_floor_scaleRounded_succ hsmall)
  · by_contra hdvd
    have hsame : wholeRows width window ≤ (Fraction.scaleRounded width hw.ratio).floor :=
      Fraction.div_le_floor_scaleRounded hsmall hdvd
    exact absurd hlt (not_lt.mpr hsame)
  · intro hdvd
    have hheight : hw.ratio.num ≤ 8192 := hw.height_le
    have hdigits : hw.ratio.num * 2 ^ 13 / hw.ratio.den < 2 ^ 53 := by
      have := Nat.div_le_self (hw.ratio.num * 2 ^ 13) hw.ratio.den
      omega
    have hsame : wholeRows width window ≤ (Fraction.scaleRounded width hw.ratio).floor :=
      Fraction.div_le_floor_scaleRounded_of_dvd hsmall hdvd hdigits
    exact absurd hlt (not_lt.mpr hsame)

end Rows

/-! ## 2. Pictures -/

namespace Picture

/-- Is a picture the first rows of another? -/
structure IsTop (q p : Picture) (rows : Nat) : Prop where
  width_eq : q.width = p.width
  height_eq : q.height = rows
  color_eq : q.color = p.color
  pixel_eq : ∀ x < p.width, ∀ y < rows, q.pixel x y = p.pixel x y

/-- **The rows that are kept are the first ones.** -/
theorem isTop_keepRows (p : Picture) {rows : UInt32} (h : rows.toNat ≤ p.height) :
    (p.keepRows rows).IsTop p rows.toNat := by
  have hkeep : (p.keepRows rows).data = p.data.extract 0 (rows.toNat * p.rowBytes) := by
    rw [keepRows, dif_pos h]
  have hsize : (p.keepRows rows).size = ⟨p.size.width, rows⟩ := by rw [keepRows, dif_pos h]
  have hcolor : (p.keepRows rows).color = p.color := by rw [keepRows, dif_pos h]
  have hwidth : (p.keepRows rows).width = p.width := by rw [width, hsize, width]
  refine ⟨hwidth, by rw [height, hsize], hcolor, ?_⟩
  intro x hx y hy
  -- The pixel ends before the first row that is left out.
  have hend : (y * p.width + x) * p.color.pixelBytes + p.color.pixelBytes ≤
      rows.toNat * p.rowBytes := by
    calc (y * p.width + x) * p.color.pixelBytes + p.color.pixelBytes
        = (y * p.width + (x + 1)) * p.color.pixelBytes := by ring
      _ ≤ (y * p.width + p.width) * p.color.pixelBytes := by gcongr; omega
      _ = (y + 1) * p.rowBytes := by rw [rowBytes]; ring
      _ ≤ rows.toNat * p.rowBytes := by gcongr; omega
  rw [pixel, pixel, hwidth, hcolor, hkeep, ByteArray.extract_extract, Nat.zero_add, Nat.zero_add,
    Nat.min_eq_left hend]

/-- **A window within limits keeps the first rows, unless there are none to keep.** -/
theorem cropTo_eq (p : Picture) {window : Size} (hw : window.InLimits) :
    (p.keptRows window = 0 → p.cropTo window = .error (.emptyCrop p.size)) ∧
    (p.keptRows window ≠ 0 →
      ∃ q, p.cropTo window = .ok q ∧ q.IsTop p (p.keptRows window)) := by
  obtain ⟨hzero, -⟩ := Size.inLimits_iff.mp hw
  have hle : p.keptRows window ≤ p.height := Nat.min_le_right _ _
  have hlt : p.keptRows window < 2 ^ 32 := hle.trans_lt p.size.height.toNat_lt
  have hrows : (UInt32.ofNat (p.keptRows window)).toNat = p.keptRows window :=
    UInt32.toNat_ofNat_of_lt' hlt
  rw [cropTo, hzero]
  constructor
  · intro hnone
    simp [hnone]
  · intro hsome
    refine ⟨p.keepRows (UInt32.ofNat (p.keptRows window)), by simp [hsome], ?_⟩
    have htop : (p.keepRows (UInt32.ofNat (p.keptRows window))).IsTop p _ :=
      p.isTop_keepRows (hrows.trans_le hle)
    rwa [hrows] at htop

/-- **Cropping keeps the rows at the window's proportions, if the picture has them.** It keeps one
    fewer where the product falls short of a number of rows that the picture has; that number is whole,
    and the ratio of the window does not end within 13 binary digits. Nothing else changes, and cropping
    fails just if no row is kept. A picture of the width of its window, and no lower, has the rows of
    the window to keep. -/
theorem cropTo_keeps (p : Picture) {window : Size} (hw : window.InLimits) :
    let exact := min p.height (wholeRows p.width window)
    ∃ rows,
      (¬ (FallsShort p.width hw ∧ wholeRows p.width window ≤ p.height) → rows = exact) ∧
      (FallsShort p.width hw → wholeRows p.width window ≤ p.height →
        rows + 1 = exact ∧ window.width.toNat ∣ p.width * window.height.toNat ∧
          ¬ window.width.toNat ∣ window.height.toNat * 2 ^ 13) ∧
      (p.cropTo window = .error (.emptyCrop p.size) ↔ rows = 0) ∧
      (rows ≠ 0 → ∃ q, p.cropTo window = .ok q ∧ q.IsTop p rows) ∧
      (p.width = window.width.toNat → window.height.toNat ≤ p.height →
        exact = window.height.toNat) := by
  intro exact
  have hwidth : p.width < 2 ^ 32 := p.size.width.toNat_lt
  have hkept : p.keptRows window = min (proportionalRows p.width window) p.height := rfl
  have hexact : exact = min p.height (wholeRows p.width window) := rfl
  obtain ⟨hnone, hsome⟩ := p.cropTo_eq hw
  refine ⟨p.keptRows window, fun hfine => ?_, fun hshort hhas => ?_, ⟨fun herror => ?_, hnone⟩, hsome,
    fun hsame hheight => ?_⟩
  · by_cases hshort : FallsShort p.width hw
    · have hlower : ¬ wholeRows p.width window ≤ p.height := fun hhas => hfine ⟨hshort, hhas⟩
      obtain ⟨hrows, -, -⟩ := proportionalRows_of_fallsShort hwidth hw hshort
      omega
    · have hrows := proportionalRows_of_not_fallsShort hwidth hw hshort
      omega
  · obtain ⟨hrows, hdvd, hends⟩ := proportionalRows_of_fallsShort hwidth hw hshort
    exact ⟨by omega, hdvd, hends⟩
  · by_contra hrows
    obtain ⟨q, hok, -⟩ := hsome hrows
    cases hok.symm.trans herror
  · rw [hexact, wholeRows_of_width_eq hw hsame, min_eq_right hheight]

/-- A picture of zeros. -/
def blank (size : Size) (color : Color) : Picture where
  size := size
  color := color
  data := ⟨Array.replicate (size.width.toNat * size.height.toNat * color.pixelBytes) 0⟩
  data_size := Array.size_replicate

/-- A capture of 800 by 650 is cropped to its window of 800 by 600. -/
theorem cropTo_keeps_usual :
    (⟨800, 600⟩ : Size).InLimits ∧
      ∃ q, (blank ⟨800, 650⟩ .rgba8).cropTo ⟨800, 600⟩ = .ok q ∧ q.IsTop (blank ⟨800, 650⟩ .rgba8) 600 := by
  have hw : (⟨800, 600⟩ : Size).InLimits := Size.inLimits_iff.mpr (by decide)
  refine ⟨hw, ?_⟩
  obtain ⟨rows, hfine, hshort, -, htop, -⟩ := (blank ⟨800, 650⟩ .rgba8).cropTo_keeps hw
  have hexact : min 650 (wholeRows 800 ⟨800, 600⟩) = 600 := by decide
  have hrows : rows = 600 := by
    refine (hfine ?_).trans hexact
    rintro ⟨hfalls, hhas⟩
    obtain ⟨-, -, hends⟩ := hshort hfalls hhas
    exact hends (by decide)
  subst hrows
  exact htop (by decide)

/-- **A row is lost.** A picture of 49 columns has one row at the proportions of a window of 49
    by 1, and as wide as a window of 414 by 896 it has 896; the first is not cropped at all, and of
    the second 895 are kept. -/
theorem cropTo_loses_row :
    (⟨49, 1⟩ : Size).InLimits ∧ min 2 (wholeRows 49 ⟨49, 1⟩) = 1 ∧
      (blank ⟨49, 2⟩ .l8).cropTo ⟨49, 1⟩ = .error (.emptyCrop ⟨49, 2⟩) ∧
    (⟨414, 896⟩ : Size).InLimits ∧ min 897 (wholeRows 414 ⟨414, 896⟩) = 896 ∧
      ∃ q, (blank ⟨414, 897⟩ .l8).cropTo ⟨414, 896⟩ = .ok q ∧ q.height = 895 := by
  have hnone : (blank ⟨49, 2⟩ .l8).keptRows ⟨49, 1⟩ = 0 := by decide +kernel
  have hfewer : (blank ⟨414, 897⟩ .l8).keptRows ⟨414, 896⟩ = 895 := by decide +kernel
  have hw : (⟨49, 1⟩ : Size).InLimits := Size.inLimits_iff.mpr (by decide)
  have hw' : (⟨414, 896⟩ : Size).InLimits := Size.inLimits_iff.mpr (by decide)
  refine ⟨hw, by decide, (cropTo_eq _ hw).1 hnone, hw', by decide, ?_⟩
  obtain ⟨q, hq, htop⟩ := (cropTo_eq _ hw').2 (by rw [hfewer]; decide)
  exact ⟨q, hq, by rw [htop.height_eq, hfewer]⟩

end Picture

end Vignette

import Vignette.Amount
import Vignette.Proofs.Number.Nearest
import Vignette.Proofs.Text.Numeral

/-!
# How near a shown amount is

Amounts up to 53 binary digits are shown as they are. The unit is the largest of which there is at least one
(`unitFor_spec`), and the number of hundredths of it is the nearest one, so that what is shown is off by at most
half a hundredth (`scaled`).

The unit is chosen BEFORE the number is rounded. Of KB and MB there are fewer than 1024, but the nearest number
of hundredths may be 1024.00: that is so in a narrow band below the next unit, which `IsScaled.full` tells.

Main statement: **an amount below 1024 is shown exactly; any other is shown in its unit, to within half a
hundredth, as at least 1.00, and below 1024.00 if there is a larger unit and the amount lies below the band**
(`text_scaled`).
-/

namespace Vignette.Amount

open Number
open Text (decimal decimalText)

/-! ## 1. The unit -/

theorem rounded_of_lt {n : Nat} (h : n < 2 ^ 53) : rounded n = n := floor_nearest53_ofNat h

/-- **The unit is the largest of which there is at least one**, as far as there is room. -/
theorem unitFor_spec (room : Nat) : ∀ amount : Nat, unitFor amount room ≤ room ∧
    (0 < unitFor amount room → 1024 ^ unitFor amount room ≤ amount) ∧
    (unitFor amount room < room → amount < 1024 ^ (unitFor amount room + 1)) := by
  induction room with
  | zero => exact fun _ => ⟨Nat.le_refl 0, nofun, nofun⟩
  | succ room ih =>
    intro amount
    rw [unitFor]
    split
    · rename_i hlarge
      obtain ⟨hroom, hlow, hhigh⟩ := ih (amount / 1024)
      have hpos : 0 < 1024 := by decide
      refine ⟨Nat.succ_le_succ hroom, fun _ => ?_, fun h => ?_⟩
      · have hpart : 1024 ^ unitFor (amount / 1024) room ≤ amount / 1024 := by
          rcases Nat.eq_zero_or_pos (unitFor (amount / 1024) room) with hzero | hsome
          · rw [hzero, Nat.pow_zero]
            exact (Nat.le_div_iff_mul_le hpos).mpr (by omega)
          · exact hlow hsome
        rw [Nat.pow_succ]
        exact (Nat.le_div_iff_mul_le hpos).mp hpart
      · rw [Nat.pow_succ]
        exact (Nat.div_lt_iff_lt_mul hpos).mp (hhigh (Nat.lt_of_succ_lt_succ h))
    · rename_i hsmall
      refine ⟨Nat.zero_le _, nofun, fun _ => ?_⟩
      rw [Nat.zero_add, Nat.pow_one]
      omega

theorem unitFor_eq_zero_iff {n room : Nat} : unitFor n (room + 1) = 0 ↔ n < 1024 := by
  rw [unitFor]
  split <;> omega

/-! ## 2. The number of hundredths -/

/-- `h` hundredths of the unit `1024 ^ k` stand for an amount. -/
structure IsScaled (n k h : Nat) : Prop where
  /-- There is at least one of the unit, and not one of the next. -/
  fits : 1024 ^ k ≤ n ∧ (k < 3 → n < 1024 ^ (k + 1))
  /-- The amount is at most half a hundredth away. -/
  near : |(h : ℚ) / 100 * 1024 ^ k - n| ≤ 1024 ^ k / 200
  /-- What is shown is at least 1.00 and at most 1024.00. -/
  least : 100 ≤ h
  most : k < 3 → h ≤ 102400
  /-- It is 1024.00 just if the amount is at most half a hundredth below one of the next unit. -/
  full : k < 3 → (h = 102400 ↔ 200 * 1024 ^ (k + 1) ≤ 200 * n + 1024 ^ k)

/-- **The nearest number of hundredths stands for the amount**, in a unit that fits it. -/
theorem scaled {n k : Nat} (hfits : 1024 ^ k ≤ n ∧ (k < 3 → n < 1024 ^ (k + 1))) :
    IsScaled n k (hundredths n k) := by
  have hunit : 0 < 1024 ^ k := Nat.pow_pos (by decide)
  have hnext : 1024 ^ (k + 1) = 1024 * 1024 ^ k := Nat.pow_succ'
  have hmost : k < 3 → hundredths n k ≤ 102400 := by
    intro hk
    have hlt := hfits.2 hk
    exact roundQuotient_le hunit (by rw [Nat.pow_eq]; omega)
  refine ⟨hfits, ?_, ?_, hmost, fun hk => ?_⟩
  · have hround := abs_roundQuotient_sub_le (100 * n) hunit
    have hpos : (0 : ℚ) < 1024 ^ k := by positivity
    have hsplit : (hundredths n k : ℚ) / 100 * 1024 ^ k - n =
        (1024 ^ k / 100) * (hundredths n k - (100 * n : Nat) / (1024 ^ k : Nat)) := by
      push_cast
      field_simp
    rw [hsplit, abs_mul, abs_of_pos (by positivity)]
    calc (1024 ^ k / 100 : ℚ) * |(hundredths n k : ℚ) - (100 * n : Nat) / (1024 ^ k : Nat)|
        ≤ 1024 ^ k / 100 * (1 / 2) := by gcongr; exact hround
      _ = 1024 ^ k / 200 := by ring
  · exact le_roundQuotient hunit (by rw [Nat.pow_eq]; omega)
  · have heven := le_roundQuotient_iff_of_even (n := 100 * n) (k := 102400) hunit (by decide)
    constructor
    · intro h
      have hband := heven.mp (Nat.le_of_eq h.symm)
      omega
    · intro h
      exact Nat.le_antisymm (hmost hk) (heven.mpr (by omega))

/-! ## 3. The text -/

/-- A number of hundredths with a point in it: the whole ones, and two decimals. -/
inductive Written : List Char → Nat → Prop
  | intro (whole : Nat) (d e : Fin 10) :
    Written (decimal whole ++ ['.', Nat.digitChar d, Nat.digitChar e]) (100 * whole + 10 * d + e)

theorem decimal_digit : ∀ d : Fin 10, decimal d = [Nat.digitChar d] := by decide

/-- The last two digits stand behind the point. -/
theorem written_hundredths (h : Nat) :
    Written (decimal (h / 100) ++ '.' :: (decimal (h / 10 % 10) ++ decimal (h % 10))) h := by
  have htenths : h / 10 % 10 < 10 := Nat.mod_lt _ (by decide)
  have hrest : h % 10 < 10 := Nat.mod_lt _ (by decide)
  have hsum : 100 * (h / 100) + 10 * (h / 10 % 10) + h % 10 = h := by omega
  have hwritten := Written.intro (h / 100) ⟨_, htenths⟩ ⟨_, hrest⟩
  dsimp only at hwritten
  rwa [hsum, show ['.', Nat.digitChar (h / 10 % 10), Nat.digitChar (h % 10)] =
    '.' :: ([Nat.digitChar (h / 10 % 10)] ++ [Nat.digitChar (h % 10)]) from rfl,
    ← decimal_digit ⟨_, htenths⟩, ← decimal_digit ⟨_, hrest⟩] at hwritten

section Shown

variable {n : Nat} (hn : n < 2 ^ 53)
include hn

theorem text_of_lt (h : n < 1024) : text n = decimalText n ++ " B" := by
  have hunit : unitFor n 3 = 0 := unitFor_eq_zero_iff.mpr h
  simp only [text, rounded_of_lt hn, hunit, if_pos]
  rw [String.append_assoc]
  rfl

theorem toList_text_of_le (h : 1024 ≤ n) :
    (text n).toList = (decimal (hundredths n (unitFor n 3) / 100) ++ '.' ::
      (decimal (hundredths n (unitFor n 3) / 10 % 10) ++ decimal (hundredths n (unitFor n 3) % 10))) ++
        ' ' :: (units.getD (unitFor n 3) "").toList := by
  have hunit : unitFor n 3 ≠ 0 := fun hzero => absurd (unitFor_eq_zero_iff.mp hzero) (Nat.not_lt.mpr h)
  simp only [text, rounded_of_lt hn, if_neg hunit]
  simp [decimalText]

/-- **An amount below 1024 bytes is shown exactly, in B. Any other below 2^53 is shown in KB, MB or GB, the
    largest of which there is at least one: as a number with two decimals that is off by at most half a
    hundredth, that is at least 1.00 and, if there is a larger unit, at most 1024.00; and it is 1024.00 just
    for an amount that is at most half a hundredth below one of the larger unit.** -/
theorem text_scaled :
    (n < 1024 → text n = decimalText n ++ " B") ∧
    (1024 ≤ n → ∃ k unit h digits, (k, unit) ∈ [(1, "KB"), (2, "MB"), (3, "GB")] ∧
      (text n).toList = digits ++ ' ' :: unit.toList ∧ Written digits h ∧ IsScaled n k h) := by
  refine ⟨text_of_lt hn, fun hlarge => ?_⟩
  obtain ⟨hroom, hlow, hhigh⟩ := unitFor_spec 3 n
  have hpos : 0 < unitFor n 3 :=
    Nat.pos_of_ne_zero fun hzero => absurd (unitFor_eq_zero_iff.mp hzero) (Nat.not_lt.mpr hlarge)
  have htext := toList_text_of_le hn hlarge
  generalize unitFor n 3 = k at *
  refine ⟨k, units.getD k "", hundredths n k, _, ?_, htext, written_hundredths _, scaled ⟨hlow hpos, hhigh⟩⟩
  obtain rfl | rfl | rfl : k = 1 ∨ k = 2 ∨ k = 3 := by omega
  · simp [units]
  · simp [units]
  · simp [units]

end Shown

/-- The largest amount below one MB that is not shown as 1024.00 KB. -/
theorem text_scaled_below_band :
    1048570 < 2 ^ 53 ∧ 1024 ≤ 1048570 ∧ text 1048570 = "1023.99 KB" ∧
      ∃ k unit h digits, (k, unit) ∈ [(1, "KB"), (2, "MB"), (3, "GB")] ∧
        (text 1048570).toList = digits ++ ' ' :: unit.toList ∧ Written digits h ∧ IsScaled 1048570 k h := by
  have hn : 1048570 < 2 ^ 53 := by decide
  have hlarge : 1024 ≤ 1048570 := by decide
  exact ⟨hn, hlarge, by decide +kernel, (text_scaled hn).2 hlarge⟩

/-- **1024.00 of a unit that has a larger one is shown**: five bytes less than one MB, and less than one GB. -/
theorem text_band :
    (1048571 < 2 ^ 53 ∧ text 1048571 = "1024.00 KB" ∧ text 1048576 = "1.00 MB") ∧
      1073741823 < 2 ^ 53 ∧ text 1073741823 = "1024.00 MB" ∧ text 1073741824 = "1.00 GB" := by
  decide +kernel

end Vignette.Amount

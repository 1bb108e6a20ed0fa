import Mathlib.Algebra.Order.Field.Power
import Mathlib.Data.Nat.Cast.Field
import Mathlib.Data.Nat.Cast.Order.Field
import Mathlib.Data.Rat.Cast.Order
import Mathlib.Tactic.FieldSimp
import Mathlib.Tactic.Linarith
import Mathlib.Tactic.Positivity
import Mathlib.Tactic.Ring
import Vignette.Number.Nearest

/-!
# How near the nearest is

Main statements: **rounding to 53 binary digits changes a fraction by at most one part in
`2 ^ 53`** (`abs_value_nearest53_sub_le`); **it does not take a fraction below a number that has at
most 53 digits itself** (`le_value_nearest53`), **and keeps a whole number of so many**
(`floor_nearest53_ofNat`).

All come from one description of a rounding (`exists_roundQuotient`): the fraction is measured in
steps of a power of two that is at most the fraction over `2 ^ 52`, and the number of steps is
rounded to a whole one.
-/

namespace Vignette.Number

/-! ## 1. Whole numbers -/

variable {k n d : Nat}

theorem le_roundQuotient (hd : 0 < d) (h : k * d ≤ n) : k ≤ roundQuotient n d := by
  have hnear : 2 * n ≤ (2 * roundQuotient n d + 1) * d := (roundQuotient_near n d hd).1
  have hle : (2 * k) * d ≤ (2 * roundQuotient n d + 1) * d := by
    rw [Nat.mul_assoc]
    omega
  have := Nat.le_of_mul_le_mul_right hle hd
  omega

theorem roundQuotient_le (hd : 0 < d) (h : n ≤ k * d) : roundQuotient n d ≤ k := by
  have hnear : 2 * roundQuotient n d * d ≤ 2 * n + d := (roundQuotient_near n d hd).2
  have hlt : (2 * roundQuotient n d) * d < (2 * k + 2) * d := by
    rw [Nat.add_mul, Nat.mul_assoc 2 k]
    omega
  have := Nat.lt_of_mul_lt_mul_right hlt
  omega

/-- **An even number is reached from half a unit below on**, since a tie goes to it. -/
theorem le_roundQuotient_iff_of_even (hd : 0 < d) (hk : k % 2 = 0) :
    k ≤ roundQuotient n d ↔ 2 * k * d ≤ 2 * n + d := by
  constructor
  · intro h
    refine le_trans ?_ (roundQuotient_near n d hd).2
    gcongr
  · intro h
    have hdiv : n / d * d + n % d = n := Nat.div_add_mod' n d
    have hmod : n % d < d := Nat.mod_lt n hd
    have hhalf : (2 * k) * d < (2 * (n / d) + 3) * d := by
      rw [Nat.add_mul, Nat.mul_assoc 2 (n / d)]
      omega
    have hclose : k ≤ n / d + 1 := by
      have := Nat.lt_of_mul_lt_mul_right hhalf
      omega
    unfold roundQuotient
    dsimp only
    rcases Nat.lt_or_ge (n / d) k with hlt | hge
    · -- the number is the next one, which rounding misses only below the half
      obtain rfl : k = n / d + 1 := by omega
      have hover : d ≤ 2 * (n % d) := by
        rw [Nat.mul_add, Nat.add_mul, Nat.mul_assoc] at h
        omega
      split_ifs <;> omega
    · split_ifs <;> omega

theorem abs_roundQuotient_sub_le (n : Nat) (hd : 0 < d) :
    |(roundQuotient n d : ℚ) - n / d| ≤ 1 / 2 := by
  obtain ⟨hlow, hhigh⟩ := roundQuotient_near n d hd
  have hd' : (0 : ℚ) < d := by exact_mod_cast hd
  have hlow' : 2 * (n : ℚ) ≤ (2 * roundQuotient n d + 1) * d := by exact_mod_cast hlow
  have hhigh' : 2 * (roundQuotient n d : ℚ) * d ≤ 2 * n + d := by exact_mod_cast hhigh
  rw [abs_le]
  constructor
  · have : (n : ℚ) / d ≤ roundQuotient n d + 1 / 2 := by
      rw [div_le_iff₀ hd']
      linarith
    linarith
  · have : (roundQuotient n d : ℚ) - 1 / 2 ≤ n / d := by
      rw [le_div_iff₀ hd']
      linarith
    linarith

/-! ## 2. The value of a fraction -/

namespace Fraction

/-- The number that a fraction denotes. -/
def value (q : Fraction) : ℚ := q.num / q.den

theorem value_nonneg (q : Fraction) : 0 ≤ q.value := by
  unfold value
  positivity

@[simp] theorem value_ofNat (n : Nat) : (ofNat n).value = n := by simp [value, ofNat]

@[simp] theorem value_scale (n : Nat) (q : Fraction) : (scale n q).value = n * q.value := by
  simp [value, scale, mul_div_assoc]

/-- The whole part is the greatest whole number that is not above the fraction. -/
theorem le_floor_iff {q : Fraction} : n ≤ q.floor ↔ (n : ℚ) ≤ q.value := by
  have hd : (0 : ℚ) < q.den := by exact_mod_cast q.den_pos
  rw [floor, Nat.le_div_iff_mul_le q.den_pos, value, le_div_iff₀ hd]
  exact_mod_cast Iff.rfl

theorem floor_lt_iff {q : Fraction} : q.floor < n ↔ q.value < n := by
  rw [← not_le, le_floor_iff, not_le]

end Fraction

/-! ## 3. One rounding -/

theorem zpow_toNat {e : Int} (he : 0 ≤ e) : (2 : ℚ) ^ e.toNat = 2 ^ e := by
  rw [← zpow_natCast, Int.toNat_of_nonneg he]

/-- What the exponent is tried with: is the power of two at most the quotient? -/
theorem zpow_le_div_iff (n : Nat) (hd : 0 < d) (e : Int) :
    (if 0 ≤ e then decide (d * Nat.pow 2 e.toNat ≤ n)
      else decide (d ≤ n * Nat.pow 2 (-e).toNat)) = true ↔ (2 : ℚ) ^ e ≤ n / d := by
  have hd' : (0 : ℚ) < d := by exact_mod_cast hd
  rw [le_div_iff₀ hd']
  split
  · rename_i he
    rw [decide_eq_true_iff, ← zpow_toNat he, mul_comm]
    exact_mod_cast Iff.rfl
  · rename_i he
    have hneg : (2 : ℚ) ^ e = ((2 : ℚ) ^ (-e).toNat)⁻¹ := by
      rw [zpow_toNat (by omega), zpow_neg, inv_inv]
    rw [decide_eq_true_iff, hneg, inv_mul_le_iff₀ (by positivity), mul_comm]
    exact_mod_cast Iff.rfl

/-- **The exponent is one of a power of two that is not above the quotient.** -/
theorem zpow_binaryExponent_le (hn : n ≠ 0) (hd : 0 < d) :
    (2 : ℚ) ^ binaryExponent n d ≤ n / d := by
  have hiff := zpow_le_div_iff n hd ((n.log2 : Int) - d.log2)
  unfold binaryExponent
  dsimp only
  by_cases hfits : (2 : ℚ) ^ ((n.log2 : Int) - d.log2) ≤ n / d
  · rwa [if_pos (hiff.mpr hfits)]
  · rw [if_neg (mt hiff.mp hfits)]
    have hd' : (0 : ℚ) < d := by exact_mod_cast hd
    have hnum : (2 : ℚ) ^ n.log2 ≤ n := by exact_mod_cast Nat.log2_self_le hn
    have hden : (d : ℚ) ≤ 2 ^ (d.log2 + 1) := by exact_mod_cast Nat.lt_log2_self.le
    rw [le_div_iff₀ hd']
    calc (2 : ℚ) ^ ((n.log2 : Int) - d.log2 - 1) * d
        ≤ 2 ^ ((n.log2 : Int) - d.log2 - 1) * 2 ^ (d.log2 + 1) := by gcongr
      _ = 2 ^ n.log2 := by
          rw [← zpow_natCast, ← zpow_add₀ two_ne_zero, ← zpow_natCast]
          congr 1
          push_cast
          ring
      _ ≤ n := hnum

/-- **One rounding.** Some quotient says how many steps of a power of two the fraction is; it is
    rounded to a whole number of steps, of which there are at least `2 ^ 52`. -/
theorem exists_roundQuotient {q : Fraction} (hq : q.num ≠ 0) :
    ∃ (t : Int) (n d : Nat), 0 < d ∧ (2 ^ 52 : ℚ) ≤ n / d ∧ q.value = n / d * 2 ^ t ∧
      (nearest53 q).value = roundQuotient n d * 2 ^ t := by
  have hexp := zpow_binaryExponent_le hq q.den_pos
  have hd : (0 : ℚ) < q.den := by exact_mod_cast q.den_pos
  unfold nearest53
  rw [if_neg hq]
  dsimp only
  generalize binaryExponent q.num q.den = e at *
  -- The steps are of the size `2 ^ (e - 52)`; below and above 1 they stand in different places.
  have hsteps : (2 : ℚ) ^ 52 * 2 ^ (e - 52) = 2 ^ e := by
    rw [← zpow_natCast, ← zpow_add₀ two_ne_zero]
    congr 1
    push_cast
    ring
  have hmany : ∀ x : ℚ, q.value = x * 2 ^ (e - 52) → (2 : ℚ) ^ 52 ≤ x := by
    intro x hx
    have hle : (2 : ℚ) ^ 52 * 2 ^ (e - 52) ≤ x * 2 ^ (e - 52) := by
      rw [hsteps, ← hx]
      exact hexp
    exact le_of_mul_le_mul_right hle (by positivity)
  split
  · rename_i he
    have hpow : (2 : ℚ) ^ (e - 52) = ((2 : ℚ) ^ (52 - e).toNat)⁻¹ := by
      rw [zpow_toNat (by omega), ← zpow_neg, neg_sub]
    have hvalue : q.value =
        ((q.num * Nat.pow 2 (52 - e).toNat : Nat) : ℚ) / q.den * 2 ^ (e - 52) := by
      rw [hpow, Fraction.value]
      push_cast [Nat.pow_eq]
      field_simp
    refine ⟨e - 52, q.num * Nat.pow 2 (52 - e).toNat, q.den, q.den_pos, hmany _ hvalue, hvalue, ?_⟩
    rw [hpow, Fraction.value, div_eq_mul_inv]
    push_cast [Nat.pow_eq]
    rfl
  · rename_i he
    have hpow : (2 : ℚ) ^ (e - 52) = (2 : ℚ) ^ (e - 52).toNat := (zpow_toNat (by omega)).symm
    have hvalue : q.value =
        (q.num : ℚ) / (q.den * Nat.pow 2 (e - 52).toNat : Nat) * 2 ^ (e - 52) := by
      rw [hpow, Fraction.value]
      push_cast [Nat.pow_eq]
      field_simp
    refine ⟨e - 52, q.num, q.den * Nat.pow 2 (e - 52).toNat,
      Nat.mul_pos q.den_pos (Nat.two_pow_pos _), hmany _ hvalue, hvalue, ?_⟩
    rw [hpow, Fraction.value_ofNat]
    push_cast [Nat.pow_eq]
    rfl

/-! ## 4. What rounding keeps -/

theorem value_nearest53_of_num_eq_zero {q : Fraction} (hq : q.num = 0) :
    q.value = 0 ∧ (nearest53 q).value = 0 := by
  constructor
  · simp [Fraction.value, hq]
  · simp [nearest53, hq]

/-- **Rounding changes a fraction by at most one part in `2 ^ 53`.** -/
theorem abs_value_nearest53_sub_le (q : Fraction) :
    |(nearest53 q).value - q.value| ≤ q.value / 2 ^ 53 := by
  by_cases hq : q.num = 0
  · obtain ⟨h, h'⟩ := value_nearest53_of_num_eq_zero hq
    simp [h, h']
  · obtain ⟨t, n, d, hd, hmany, hvalue, hround⟩ := exists_roundQuotient hq
    have hstep : (0 : ℚ) < 2 ^ t := by positivity
    rw [hvalue, hround, ← sub_mul, abs_mul, abs_of_pos hstep, mul_div_right_comm]
    gcongr
    calc |(roundQuotient n d : ℚ) - n / d| ≤ 1 / 2 := abs_roundQuotient_sub_le n hd
      _ ≤ n / d / 2 ^ 53 := by
          rw [le_div_iff₀ (by positivity)]
          linarith

/-- A whole number of steps is one of smaller steps, unless the smaller ones are larger. -/
theorem exists_natCast_mul_zpow (m : Nat) {j t : Int} (h : t ≤ j) :
    ∃ k : Nat, (m : ℚ) * 2 ^ j = k * 2 ^ t := by
  refine ⟨m * 2 ^ (j - t).toNat, ?_⟩
  push_cast
  rw [zpow_toNat (by omega), mul_assoc, ← zpow_add₀ two_ne_zero, sub_add_cancel]

/-- **Rounding does not take a fraction below a number of at most 53 digits.** -/
theorem le_value_nearest53 {q : Fraction} {m : Nat} (hm : m < 2 ^ 53) {j : Int}
    (h : (m : ℚ) * 2 ^ j ≤ q.value) : (m : ℚ) * 2 ^ j ≤ (nearest53 q).value := by
  by_cases hq : q.num = 0
  · obtain ⟨h₀, h₁⟩ := value_nearest53_of_num_eq_zero hq
    rwa [h₁, ← h₀]
  · obtain ⟨t, n, d, hd, hmany, hvalue, hround⟩ := exists_roundQuotient hq
    have hd' : (0 : ℚ) < d := by exact_mod_cast hd
    rw [hround]
    by_cases ht : t ≤ j
    · obtain ⟨k, hk⟩ := exists_natCast_mul_zpow m ht
      rw [hvalue, hk] at h
      have hle : (k : ℚ) ≤ n / d := le_of_mul_le_mul_right h (by positivity)
      have hround' : k ≤ roundQuotient n d := by
        refine le_roundQuotient hd ?_
        rw [le_div_iff₀ hd'] at hle
        exact_mod_cast hle
      rw [hk]
      gcongr
    · -- The steps are too large for the number, but there are `2 ^ 52` of them.
      have hround' : 2 ^ 52 ≤ roundQuotient n d := by
        refine le_roundQuotient hd ?_
        rw [le_div_iff₀ hd'] at hmany
        exact_mod_cast hmany
      have hround'' : (2 ^ 52 : ℚ) ≤ roundQuotient n d := by exact_mod_cast hround'
      have hm' : (m : ℚ) ≤ 2 ^ 53 := by exact_mod_cast hm.le
      calc (m : ℚ) * 2 ^ j ≤ 2 ^ 53 * 2 ^ j := by gcongr
        _ = 2 ^ 52 * 2 ^ (j + 1) := by
            rw [zpow_add_one₀ two_ne_zero]
            ring
        _ ≤ roundQuotient n d * 2 ^ t := by
            gcongr
            · norm_num
            · omega

/-- **A whole number of at most 53 digits is kept.** -/
theorem floor_nearest53_ofNat {m : Nat} (hm : m < 2 ^ 53) : (nearest53 (Fraction.ofNat m)).floor = m := by
  have hlow : (m : ℚ) ≤ (nearest53 (Fraction.ofNat m)).value := by
    have hkept := le_value_nearest53 (q := Fraction.ofNat m) hm (j := 0)
    simpa using hkept
  have hnear := (abs_le.mp (abs_value_nearest53_sub_le (Fraction.ofNat m))).2
  rw [Fraction.value_ofNat] at hnear
  have hpart : (m : ℚ) / 2 ^ 53 < 1 := by
    rw [div_lt_one (by positivity)]
    exact_mod_cast hm
  have hhigh : (nearest53 (Fraction.ofNat m)).value < (m + 1 : Nat) := by
    push_cast
    linarith
  exact le_antisymm (Nat.lt_succ_iff.mp (Fraction.floor_lt_iff.mpr hhigh)) (Fraction.le_floor_iff.mpr hlow)

/-! ## 5. A whole number times a rounded quotient -/

namespace Fraction

/-- A whole number times a fraction, each rounded. -/
def scaleRounded (n : Nat) (q : Fraction) : Fraction := nearest53 (scale n (nearest53 q))

/-- **What is rounded twice changes by at most one part in `2 ^ 51`.** -/
theorem abs_value_scaleRounded_sub_le (n : Nat) (q : Fraction) :
    |(scaleRounded n q).value - n * q.value| ≤ n * q.value / 2 ^ 51 := by
  have hfirst : |n * (nearest53 q).value - n * q.value| ≤ n * q.value / 2 ^ 53 := by
    rw [← mul_sub, abs_mul, Nat.abs_cast, mul_div_assoc]
    gcongr
    exact abs_value_nearest53_sub_le q
  have hsecond := abs_value_nearest53_sub_le (scale n (nearest53 q))
  rw [value_scale] at hsecond
  have hpos : 0 ≤ n * q.value := mul_nonneg n.cast_nonneg q.value_nonneg
  rw [scaleRounded]
  rw [abs_le] at *
  constructor <;> linarith

section Quotient

variable {n : Nat} {q : Fraction} (hsmall : n * q.num < 2 ^ 51)

theorem natCast_mul_value (n : Nat) (q : Fraction) : n * q.value = ((n * q.num : Nat) : ℚ) / q.den := by
  rw [value, ← mul_div_assoc]
  push_cast
  rfl

include hsmall in
/-- A product that is not too large changes by less than the denominator's part of 1. -/
theorem abs_value_scaleRounded_sub_lt :
    |(scaleRounded n q).value - ((n * q.num : Nat) : ℚ) / q.den| < 1 / q.den := by
  have hden : (0 : ℚ) < q.den := by exact_mod_cast q.den_pos
  have hlt : ((n * q.num : Nat) : ℚ) / 2 ^ 51 < 1 := by
    rw [div_lt_one (by positivity)]
    exact_mod_cast hsmall
  rw [← natCast_mul_value]
  refine (abs_value_scaleRounded_sub_le n q).trans_lt ?_
  rw [natCast_mul_value, div_right_comm]
  gcongr

include hsmall in
/-- **Rounding does not lift the whole part**, since the next whole number is a denominator's part
    of 1 away. -/
theorem floor_scaleRounded_le : (scaleRounded n q).floor ≤ n * q.num / q.den := by
  have hden : (0 : ℚ) < q.den := by exact_mod_cast q.den_pos
  have hnear := (abs_lt.mp (abs_value_scaleRounded_sub_lt hsmall)).2
  have hnext : n * q.num + 1 ≤ (n * q.num / q.den + 1) * q.den :=
    Nat.lt_mul_of_div_lt (Nat.lt_succ_self _) q.den_pos
  have hnext' : ((n * q.num : Nat) : ℚ) / q.den + 1 / q.den ≤ (n * q.num / q.den + 1 : Nat) := by
    rw [← add_div, div_le_iff₀ hden]
    exact_mod_cast hnext
  rw [← Nat.lt_succ_iff, floor_lt_iff]
  linarith

include hsmall in
/-- **The whole part falls by at most one.** -/
theorem div_le_floor_scaleRounded_succ : n * q.num / q.den ≤ (scaleRounded n q).floor + 1 := by
  have hden : (0 : ℚ) < q.den := by exact_mod_cast q.den_pos
  have hnear := (abs_lt.mp (abs_value_scaleRounded_sub_lt hsmall)).1
  have hpart : 1 / (q.den : ℚ) ≤ 1 := by
    rw [div_le_one hden]
    exact_mod_cast q.den_pos
  have hfloor : ((n * q.num / q.den : Nat) : ℚ) ≤ ((n * q.num : Nat) : ℚ) / q.den := Nat.cast_div_le
  have hlt : (scaleRounded n q).value < ((scaleRounded n q).floor + 1 : Nat) :=
    floor_lt_iff.mp (Nat.lt_succ_self _)
  have hsum : ((n * q.num / q.den : Nat) : ℚ) < ((scaleRounded n q).floor + 1 + 1 : Nat) := by
    push_cast at hlt ⊢
    linarith
  exact Nat.lt_succ_iff.mp (by exact_mod_cast hsum)

include hsmall in
/-- **It falls only from a whole number.** -/
theorem div_le_floor_scaleRounded (h : ¬ q.den ∣ n * q.num) :
    n * q.num / q.den ≤ (scaleRounded n q).floor := by
  have hden : (0 : ℚ) < q.den := by exact_mod_cast q.den_pos
  have hnear := (abs_lt.mp (abs_value_scaleRounded_sub_lt hsmall)).1
  have hover : n * q.num / q.den * q.den + 1 ≤ n * q.num :=
    lt_of_le_of_ne (Nat.div_mul_le_self _ _) fun heq => h ⟨_, (heq.symm.trans (mul_comm ..))⟩
  have hover' : ((n * q.num / q.den : Nat) : ℚ) + 1 / q.den ≤ ((n * q.num : Nat) : ℚ) / q.den := by
    rw [le_div_iff₀ hden, add_mul, one_div_mul_cancel hden.ne']
    exact_mod_cast hover
  rw [le_floor_iff]
  linarith

include hsmall in
/-- **It does not fall where the fraction has at most 53 digits itself.** -/
theorem div_le_floor_scaleRounded_of_dvd {k : Nat} (hdvd : q.den ∣ q.num * 2 ^ k)
    (hdigits : q.num * 2 ^ k / q.den < 2 ^ 53) : n * q.num / q.den ≤ (scaleRounded n q).floor := by
  have hden : (0 : ℚ) < q.den := by exact_mod_cast q.den_pos
  have hvalue : ((q.num * 2 ^ k / q.den : Nat) : ℚ) * 2 ^ (-k : Int) = q.value := by
    rw [Nat.cast_div hdvd hden.ne', value, zpow_neg, zpow_natCast]
    push_cast
    field_simp
  have hkept : q.value ≤ (nearest53 q).value := by
    rw [← hvalue]
    exact le_value_nearest53 hdigits hvalue.le
  have hwhole : ((n * q.num / q.den : Nat) : ℚ) * 2 ^ (0 : Int) ≤ (scale n (nearest53 q)).value := by
    rw [zpow_zero, mul_one, value_scale]
    calc ((n * q.num / q.den : Nat) : ℚ) ≤ ((n * q.num : Nat) : ℚ) / q.den := Nat.cast_div_le
      _ = n * q.value := (natCast_mul_value n q).symm
      _ ≤ n * (nearest53 q).value := by gcongr
  have hfew : n * q.num / q.den < 2 ^ 53 := by
    have := Nat.div_le_self (n * q.num) q.den
    omega
  have hround := le_value_nearest53 hfew hwhole
  rwa [zpow_zero, mul_one, ← scaleRounded, ← le_floor_iff] at hround

end Quotient

end Fraction

end Vignette.Number

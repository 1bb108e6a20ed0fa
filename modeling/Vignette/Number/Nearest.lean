/-!
# Rounding to the nearest

Two roundings of a quotient of natural numbers, both with a tie going to the even neighbour:

* `roundQuotient n d` -- the whole number nearest to `n / d`;
* `nearest53 n d` -- the number with at most 53 binary digits nearest to `n / d`, as a fraction
  again. It is what a double-precision division, product or conversion answers where neither
  underflow nor overflow is in reach.

The READING of a `Fraction` is its value `num / den`; the denominator is never zero (`den_pos`).
-/

namespace Vignette.Number

/-! ## 1. Whole numbers -/

/-- The whole number nearest to `n / d`; halfway, the even one. -/
def roundQuotient (n d : Nat) : Nat :=
  let q := n / d
  let r := n % d
  if 2 * r < d then q
  else if d < 2 * r then q + 1
  else if q % 2 = 0 then q else q + 1

/-- **The rounding is within half a unit.** -/
theorem roundQuotient_near (n d : Nat) (hd : 0 < d) :
    2 * n ≤ (2 * roundQuotient n d + 1) * d ∧ 2 * roundQuotient n d * d ≤ 2 * n + d := by
  have hdiv : d * (n / d) + n % d = n := Nat.div_add_mod n d
  have hlt : n % d < d := Nat.mod_lt n hd
  unfold roundQuotient
  generalize n / d = q at *
  generalize n % d = r at *
  subst hdiv
  have e1 : (2 * q + 1) * d = 2 * (d * q) + d := by rw [Nat.add_mul, Nat.mul_assoc, Nat.mul_comm q d]; omega
  have e2 : (2 * (q + 1) + 1) * d = 2 * (d * q) + 3 * d := by
    rw [show 2 * (q + 1) + 1 = 2 * q + 3 from by omega, Nat.add_mul, Nat.mul_assoc, Nat.mul_comm q d]
  have e3 : 2 * q * d = 2 * (d * q) := by rw [Nat.mul_assoc, Nat.mul_comm q d]
  have e4 : 2 * (q + 1) * d = 2 * (d * q) + 2 * d := by
    rw [show 2 * (q + 1) = 2 * q + 2 from by omega, Nat.add_mul, Nat.mul_assoc, Nat.mul_comm q d]
  dsimp only
  split
  · rw [e1, e3]; omega
  · split
    · rw [e2, e4]; omega
    · split
      · rw [e1, e3]; omega
      · rw [e2, e4]; omega

/-! ## 2. Fifty-three binary digits -/

/-- A non-negative fraction. -/
structure Fraction where
  num : Nat
  den : Nat
  den_pos : 0 < den
  deriving Repr

namespace Fraction

/-- A whole number as a fraction. -/
def ofNat (n : Nat) : Fraction := ⟨n, 1, Nat.one_pos⟩

/-- The whole part. -/
def floor (q : Fraction) : Nat := q.num / q.den

/-- A whole number times a fraction. -/
def scale (n : Nat) (q : Fraction) : Fraction := ⟨n * q.num, q.den, q.den_pos⟩

end Fraction

/-- The greatest `e` with `2 ^ e ≤ n / d`, for positive `n` and `d`. -/
def binaryExponent (n d : Nat) : Int :=
  let e : Int := (n.log2 : Int) - (d.log2 : Int)
  let fits : Bool := if 0 ≤ e then d * Nat.pow 2 e.toNat ≤ n else d ≤ n * Nat.pow 2 (-e).toNat
  if fits then e else e - 1

/-- The number of at most 53 binary digits nearest to a fraction; halfway, the one whose last digit
    is even. The fraction is scaled by a power of two so that its whole part has 53 digits, rounded
    to a whole number, and scaled back. -/
def nearest53 (q : Fraction) : Fraction :=
  if q.num = 0 then Fraction.ofNat 0
  else
    let e := binaryExponent q.num q.den
    if e ≤ 52 then
      let s := (52 - e).toNat
      ⟨roundQuotient (q.num * Nat.pow 2 s) q.den, Nat.pow 2 s, Nat.two_pow_pos s⟩
    else
      let s := (e - 52).toNat
      Fraction.ofNat (roundQuotient q.num (q.den * Nat.pow 2 s) * Nat.pow 2 s)

end Vignette.Number

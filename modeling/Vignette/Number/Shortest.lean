/-!
# The shortest decimal text of a floating-point number

A double-precision number has infinitely many decimal neighbours that are nearer to it than to any
other double. `shortest` picks the one with the fewest digits, and of those the nearest. The search
is exact: a finite double is `m * 2 ^ q`, the reals that round to it form an interval around it, and
each decimal grid is asked in turn, coarsest first, whether one of the two grid points next to the
number lies in the interval.

`floatText` decides how the digits are laid out: positionally from 0.00001 up to sixteen digits
before the point, and with an exponent of at least two digits otherwise.
-/

namespace Vignette.Number

/-! ## 1. Digits -/

/-- A positive double as `m * 2 ^ q`, with the places of the reals that round to it: from
    `m - below / 4` to `m + 1/2`, both times `2 ^ q`. -/
structure Binary where
  m : Nat
  q : Int
  below : Nat

/-- The parts of the bit pattern of a finite double, sign left out. -/
def Binary.ofBits (bits : Nat) : Binary :=
  let exponent : Nat := bits / 4503599627370496 % 2048
  let fraction : Nat := bits % 4503599627370496
  if exponent = 0 then ⟨fraction, -1074, 2⟩
  else ⟨4503599627370496 + fraction, (exponent : Int) - 1075, if fraction = 0 ∧ 1 < exponent then 1 else 2⟩

/-- The greatest `e` with `10 ^ e ≤ n / d`, for positive `n` and `d`. -/
def decimalExponent (n d : Nat) : Int :=
  if d ≤ n then ((Nat.toDigits 10 (n / d)).length : Int) - 1
  else
    let least := (d + n - 1) / n
    0 - ((Nat.toDigits 10 (least - 1)).length : Int)

/-- Decimal digits as a number, times a power of ten. -/
structure Scientific where
  digits : Nat
  exponent : Int

/-- The digits of the shortest text of `b`, searched on grids of `k` digits and more. -/
def searchDigits (b : Binary) (n d : Nat) (e : Int) : (fuel k : Nat) → Scientific
  | 0, _ => ⟨n / d, 0⟩
  | fuel + 1, k =>
    let p := e - k + 1
    -- one step of the grid is up / down
    let up := Nat.pow 10 p.toNat
    let down := Nat.pow 10 (-p).toNat
    let c := n * down / (d * up)
    -- four times the distances of the two grid points, over the common denominator
    let unit := Nat.pow 2 b.q.toNat * down
    let scale := Nat.pow 2 (-b.q).toNat * up
    let fromBelow := 4 * (b.m * unit - c * scale)
    let fromAbove := 4 * ((c + 1) * scale - b.m * unit)
    let even := b.m % 2 = 0
    let lowFits := fromBelow < b.below * unit ∨ (fromBelow = b.below * unit ∧ even)
    let highFits := fromAbove < 2 * unit ∨ (fromAbove = 2 * unit ∧ even)
    if lowFits ∧ (¬ highFits ∨ fromBelow < fromAbove ∨ (fromBelow = fromAbove ∧ c % 2 = 0)) then
      ⟨c, p⟩
    else if highFits then ⟨c + 1, p⟩
    else searchDigits b n d e fuel (k + 1)

/-- The shortest digits of a positive finite double. Seventeen digits always suffice. -/
def shortest (b : Binary) : Scientific :=
  let n := b.m * Nat.pow 2 b.q.toNat
  let d := Nat.pow 2 (-b.q).toNat
  searchDigits b n d (decimalExponent n d) 17 1

/-! ## 2. Layout -/

/-- The digits without the zeros at their end. -/
def significant (ds : List Char) : List Char := (ds.reverse.dropWhile (· == '0')).reverse

/-- An exponent with its sign and at least two digits. -/
def exponentText (e : Int) : List Char :=
  let ds := Nat.toDigits 10 e.natAbs
  (if e < 0 then '-' else '+') :: (List.replicate (2 - ds.length) '0' ++ ds)

/-- Digits laid out with a point after the first `whole` of them. -/
def positional (ds : List Char) (whole : Int) : List Char :=
  if whole ≤ 0 then ['0', '.'] ++ List.replicate (-whole).toNat '0' ++ ds
  else
    let k := whole.toNat
    if ds.length ≤ k then ds ++ List.replicate (k - ds.length) '0' ++ ['.', '0']
    else ds.take k ++ '.' :: ds.drop k

/-- The text of digits and an exponent. -/
def scientificText (s : Scientific) : List Char :=
  let all := Nat.toDigits 10 s.digits
  let ds := significant all
  let e := s.exponent + all.length - 1
  if -5 ≤ e ∧ e ≤ 15 then positional ds (e + 1)
  else
    match ds with
    | [] => []
    | [c] => c :: 'e' :: exponentText e
    | c :: rest => c :: '.' :: (rest ++ 'e' :: exponentText e)

/-- The shortest text of a finite double. -/
def floatText (x : Float) : String :=
  let bits := x.toBits.toNat
  let b := Binary.ofBits (bits % (UInt64.size / 2))
  let body := if b.m = 0 then ['0', '.', '0'] else scientificText (shortest b)
  String.ofList (if bits / (UInt64.size / 2) = 1 then '-' :: body else body)

end Vignette.Number

/-!
# Punycode

The ASCII form of a label of a domain name that has other characters: first its ASCII characters,
then, behind a hyphen, where the others stand and which they are (RFC 3492). The others are taken in
ascending order; each is written as the number of steps from the one before, a step being one place
further in the label or, at its end, the next character.

Numbers are written with digits of base 36, least significant first, and a threshold per digit that
adapts to what has been written before.
-/

namespace Vignette.Url.Punycode

/-! ## 1. Digits and thresholds -/

/-- The digit of a value below 36. -/
def digit (d : Nat) : Char := if d < 26 then Char.ofNat (97 + d) else Char.ofNat (22 + d)

/-- The value of a digit in either case. -/
def digitValue? (c : Char) : Option Nat :=
  let n := c.toNat
  if 97 ≤ n ∧ n ≤ 122 then some (n - 97)
  else if 65 ≤ n ∧ n ≤ 90 then some (n - 65)
  else if 48 ≤ n ∧ n ≤ 57 then some (n - 22)
  else none

/-- The threshold of the digit at weight `k / 36`. -/
def threshold (k bias : Nat) : Nat :=
  if k ≤ bias then 1 else if bias + 26 ≤ k then 26 else k - bias

theorem threshold_pos (k bias : Nat) : 1 ≤ threshold k bias := by
  unfold threshold
  split
  · omega
  · split <;> omega

/-- The bias that a scaled number of steps leads to. -/
def settle (delta k : Nat) : Nat :=
  if 455 < delta then settle (delta / 35) (k + 36) else k + 36 * delta / (delta + 38)
termination_by delta
decreasing_by omega

/-- The bias behind a number of steps, when `count` characters are placed. -/
def adapt (delta count : Nat) (first : Bool) : Nat :=
  let d := if first then delta / 700 else delta / 2
  settle (d + d / count) 0

/-! ## 2. Writing -/

/-- The digits of a number of steps, from weight `k / 36` on. -/
def writeSteps (q k bias : Nat) : List Char :=
  let t := threshold k bias
  if q < t then [digit q]
  else digit (t + (q - t) % (36 - t)) :: writeSteps ((q - t) / (36 - t)) (k + 36) bias
termination_by q
decreasing_by
  have := threshold_pos k bias
  have : (q - threshold k bias) / (36 - threshold k bias) ≤ q - threshold k bias := Nat.div_le_self ..
  omega

/-- The state of writing: steps not yet written, bias, characters placed. -/
structure Writing where
  delta : Nat
  bias : Nat
  placed : Nat
  out : List Char

/-- One pass over the label: places every character equal to `n`. -/
def writePass (n basic : Nat) (label : List Nat) (w : Writing) : Writing :=
  label.foldl (fun w c =>
    if c < n then { w with delta := w.delta + 1 }
    else if c = n then
      { delta := 0
        bias := adapt w.delta (w.placed + 1) (w.placed == basic)
        placed := w.placed + 1
        out := w.out ++ writeSteps w.delta 36 w.bias }
    else w) w

/-- Passes for each of the remaining characters; `n` is the next candidate. -/
def writeAll (basic : Nat) (label : List Nat) : (fuel n : Nat) → Writing → List Char
  | 0, _, w => w.out
  | fuel + 1, n, w =>
    match (label.filter (n ≤ ·)).min? with
    | none => w.out
    | some m =>
      let w := writePass m basic label { w with delta := w.delta + (m - n) * (w.placed + 1) }
      writeAll basic label fuel (m + 1) { w with delta := w.delta + 1 }

/-- The ASCII form of a label. -/
def encode (label : List Char) : List Char :=
  let basic := label.filter (·.toNat < 128)
  let start := if basic.isEmpty then [] else basic ++ ['-']
  writeAll basic.length (label.map Char.toNat) label.length 128 ⟨0, 72, basic.length, start⟩

/-! ## 3. Reading -/

/-- Is the number a character? -/
def isScalar (n : Nat) : Bool := n < 0xD800 || (0xE000 ≤ n && n < 0x110000)

/-- The state of reading: the label so far, the character and the place that steps lead on from, the
    bias; and within a number the steps read so far, and the weight and position of its next digit.
    -/
structure Reading where
  label : List Nat
  n : Nat
  place : Nat
  bias : Nat
  steps : Nat
  weight : Nat
  k : Nat

/-- Reads the numbers of steps. Numbers of more than 32 bits are refused. -/
def readAll : List Char → Reading → Option (List Nat)
  | [], r => if r.k = 36 then some r.label else none
  | c :: rest, r =>
    match digitValue? c with
    | none => none
    | some d =>
      let steps := r.steps + d * r.weight
      if UInt32.size ≤ steps then none
      else
        let t := threshold r.k r.bias
        if d < t then
          let count := r.label.length + 1
          let n := r.n + steps / count
          let place := steps % count
          if isScalar n then
            readAll rest {
              label := r.label.take place ++ n :: r.label.drop place
              n := n
              place := place + 1
              bias := adapt (steps - r.place) count (r.place == 0)
              steps := place + 1
              weight := 1
              k := 36 }
          else none
        else if UInt32.size ≤ r.weight * (36 - t) then none
        else readAll rest { r with steps := steps, weight := r.weight * (36 - t), k := r.k + 36 }

/-- The ASCII characters before the last hyphen, and the digits behind it. -/
def splitBasic (s : List Char) : List Char × List Char :=
  match s.reverse.span (· != '-') with
  | (_, []) => ([], s)
  | (digits, _ :: basic) => if basic.isEmpty then ([], s) else (basic.reverse, digits.reverse)

/-- The label that an ASCII form stands for. -/
def decode? (s : List Char) : Option (List Char) :=
  let (basic, digits) := splitBasic s
  if basic.all (·.toNat < 128) then
    (readAll digits ⟨basic.map Char.toNat, 128, 0, 72, 0, 1, 36⟩).map fun l => l.map Char.ofNat
  else none

end Vignette.Url.Punycode

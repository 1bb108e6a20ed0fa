import Vignette.Number.Nearest
import Vignette.Text.Decimal

/-!
# Amounts of bytes

An amount is shown in the largest of the units B, KB, MB, GB that leaves at least one of it; a unit
is 1024 of the one before. Bytes are shown exactly, the others with two decimals, rounded to the
nearest with a tie going to the even digit. Amounts beyond 53 binary digits are rounded to 53 digits
first, so the unit is chosen on the rounded amount.
-/

namespace Vignette.Amount

open Number

/-- The units, smallest first. -/
def units : List String := ["B", "KB", "MB", "GB"]

/-- An amount to 53 binary digits. -/
def rounded (bytes : Nat) : Nat := (nearest53 (Fraction.ofNat bytes)).floor

/-- The unit for a rounded amount, as a power of 1024: it grows as long as there is at least one of
    the next unit, up to the `room` units that are left. -/
def unitFor (amount : Nat) : (room : Nat) → Nat
  | 0 => 0
  | room + 1 => if 1024 ≤ amount then unitFor (amount / 1024) room + 1 else 0

/-- How many hundredths of the unit `1024 ^ k` the amount is nearest to. -/
def hundredths (amount k : Nat) : Nat := roundQuotient (100 * amount) (Nat.pow 1024 k)

/-- The text of an amount of bytes. -/
def text (bytes : Nat) : String :=
  let amount := rounded bytes
  let k := unitFor amount 3
  let unit := units.getD k ""
  if k = 0 then Text.decimalText bytes ++ " " ++ unit
  else
    let h := hundredths amount k
    Text.decimalText (h / 100) ++ "." ++ Text.decimalText (h / 10 % 10) ++
      Text.decimalText (h % 10) ++ " " ++ unit

end Vignette.Amount

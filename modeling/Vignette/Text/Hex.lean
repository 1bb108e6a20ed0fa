/-!
# Hexadecimal digits

* `hexDigit` -- the lower-case digit of a half byte;
* `hexDigitValue?` -- its value; it also takes upper-case digits;
* `hexOfBytes` -- two lower-case digits a byte, the high half first.
-/

namespace Vignette.Text

/-- The digit of a half byte. -/
def hexDigit (n : Nat) : Char := if n < 10 then Char.ofNat (48 + n) else Char.ofNat (87 + n)

/-- The value of a hexadecimal digit of either case. -/
def hexDigitValue? (c : Char) : Option Nat :=
  let n := c.toNat
  if 48 ≤ n ∧ n ≤ 57 then some (n - 48)
  else if 97 ≤ n ∧ n ≤ 102 then some (n - 87)
  else if 65 ≤ n ∧ n ≤ 70 then some (n - 55)
  else none

/-- The text of a run of bytes. -/
def hexOfBytes (bs : ByteArray) : String :=
  bs.foldl (fun s b => (s.push (hexDigit (b.toNat / 16))).push (hexDigit (b.toNat % 16))) ""

end Vignette.Text

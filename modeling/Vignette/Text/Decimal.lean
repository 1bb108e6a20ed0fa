/-!
# Whole numbers as text

A number is written with its decimal digits and no others (`decimal`). It is read from one or more
ASCII digits, leading zeros allowed, after an optional plus sign (`readNat?`). `readBelow?` refuses
a number that is not below a bound, as a field of limited width does; `readField` does so too and says
why, which is decided by the first character that cannot be taken.

The READING of digits is `digitsValue`; `readDigits?_eq_some` says which texts denote which number.
-/

namespace Vignette.Text

/-! ## 1. Writing -/

/-- The decimal digits of a number. -/
def decimal (n : Nat) : List Char := Nat.toDigits 10 n

/-- The decimal text of a number. -/
def decimalText (n : Nat) : String := String.ofList (decimal n)

/-! ## 2. Reading -/

/-- Is the character an ASCII digit? -/
def isDigit (c : Char) : Bool := '0' ≤ c && c ≤ '9'

/-- The number that a run of digits denotes. -/
def digitsValue (ds : List Char) : Nat := ds.foldl (fun n c => 10 * n + (c.toNat - 48)) 0

/-- The number that one or more digits denote. -/
def readDigits? (ds : List Char) : Option Nat :=
  if ds ≠ [] ∧ ds.all isDigit then some (digitsValue ds) else none

/-- The number that one or more digits denote, after an optional plus sign. -/
def readNat? (s : List Char) : Option Nat :=
  match s with
  | '+' :: ds => readDigits? ds
  | ds => readDigits? ds

/-- The same, refusing a number that does not lie below `bound`. -/
def readBelow? (bound : Nat) (s : List Char) : Option Nat :=
  (readNat? s).filter (· < bound)

/-- Why a text is no number of a field. -/
inductive NumberFault
  | empty
  | badDigit
  | tooLarge
  deriving DecidableEq, Repr

/-- The sentence that a message shows. -/
def NumberFault.message : NumberFault → String
  | empty => "cannot parse integer from empty string"
  | badDigit => "invalid digit found in string"
  | tooLarge => "number too large to fit in target type"

/-- The number below `bound` that digits make behind the digits of `n`. -/
def readFieldFrom (bound : Nat) : List Char → Nat → Except NumberFault Nat
  | [], n => .ok n
  | c :: rest, n =>
    if !isDigit c then .error .badDigit
    else if bound ≤ 10 * n + (c.toNat - 48) then .error .tooLarge
    else readFieldFrom bound rest (10 * n + (c.toNat - 48))

/-- The number below `bound` that a text denotes, or why it denotes none. -/
def readField (bound : Nat) (s : List Char) : Except NumberFault Nat :=
  match s with
  | [] => .error .empty
  | ['+'] => .error .badDigit
  | '+' :: ds => readFieldFrom bound ds 0
  | ds => readFieldFrom bound ds 0

/-! ## 3. What is read -/

theorem isDigit_iff {c : Char} : isDigit c = true ↔ 48 ≤ c.toNat ∧ c.toNat ≤ 57 := by
  simp only [isDigit, Bool.and_eq_true, decide_eq_true_eq, Char.le_def]
  exact Iff.rfl

theorem readDigits?_eq_some {ds : List Char} {n : Nat} :
    readDigits? ds = some n ↔ ds ≠ [] ∧ (∀ c ∈ ds, isDigit c = true) ∧ digitsValue ds = n := by
  simp [readDigits?, and_assoc]

end Vignette.Text

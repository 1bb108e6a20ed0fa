/-!
# Sets of code points, written as ranges

A property of characters that no formula gives is a table of ranges. The table is a text of
hexadecimal numbers and ranges with blanks between them, such as `ad 300-36f 378-379`; it is read
once into an array of pairs in ascending order, and a code point is looked up by bisection.

* `CodeTable.read` -- the table of a text;
* `CodeTable.contains` -- is the code point in one of the ranges?
-/

namespace Vignette.Text

/-- Ranges of code points, both ends included, in ascending order. -/
structure CodeTable where
  ranges : Array (Nat × Nat)

namespace CodeTable

/-- The value of a hexadecimal digit in lower case; any other character counts nothing. -/
def hexValue (c : Char) : Nat :=
  if '0' ≤ c ∧ c ≤ '9' then c.toNat - 48
  else if 'a' ≤ c ∧ c ≤ 'f' then c.toNat - 87
  else 0

/-- The number that hexadecimal digits denote. -/
def hexNumber (s : List Char) : Nat := s.foldl (fun n c => 16 * n + hexValue c) 0

/-- One entry of the text: a single number, or the two ends of a range with a hyphen between. -/
def entry (s : List Char) : Nat × Nat :=
  match s.span (· != '-') with
  | (a, []) => (hexNumber a, hexNumber a)
  | (a, _ :: b) => (hexNumber a, hexNumber b)

/-- Does the character stand between the entries of a table? -/
def isGap (c : Char) : Bool := c == ' ' || c == '\n'

/-- The entries of a table's text. -/
def words (text : String) : List (List Char) :=
  (text.toList.splitBy fun a b => isGap a == isGap b).filter fun w => !w.all isGap

/-- The table that a text describes. -/
def read (text : String) : CodeTable := ⟨((words text).map entry).toArray⟩

/-- Bisection between `lo` (included) and `hi` (excluded); `fuel` bounds the halvings. -/
def bisect (ranges : Array (Nat × Nat)) (n : Nat) : (fuel lo hi : Nat) → Bool
  | 0, _, _ => false
  | fuel + 1, lo, hi =>
    if lo < hi then
      let mid := (lo + hi) / 2
      match ranges[mid]? with
      | none => false
      | some (a, b) =>
        if n < a then bisect ranges n fuel lo mid
        else if b < n then bisect ranges n fuel (mid + 1) hi
        else true
    else false

/-- Is the code point in one of the ranges? A bisection of `k` ranges takes at most `k` steps. -/
def contains (t : CodeTable) (n : Nat) : Bool :=
  bisect t.ranges n (t.ranges.size + 1) 0 t.ranges.size

end CodeTable

end Vignette.Text

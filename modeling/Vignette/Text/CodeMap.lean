import Vignette.Text.CodeTable

/-!
# Values of code points, written as ranges

Like a `CodeTable`, but each range has a value behind an equals sign: `300-314=e6 315=e8`. How a
value is written is up to the reader of the table.

* `CodeMap.read` -- the map of a text;
* `CodeMap.find?` -- the value of a code point, with the first code point of its range.
-/

namespace Vignette.Text

/-- Ranges of code points, both ends included and in ascending order, each with a value. -/
structure CodeMap (α : Type) where
  ranges : Array (Nat × Nat × α)

namespace CodeMap

variable {α : Type}

/-- The map that a text describes. -/
def read (value : List Char → α) (text : String) : CodeMap α :=
  ⟨((CodeTable.words text).map fun w =>
    let (range, v) := w.span (· != '=')
    let (low, high) := CodeTable.entry range
    (low, high, value (v.drop 1))).toArray⟩

/-- The hexadecimal numbers of a value, with points between them. -/
def numbers (w : List Char) : List Nat :=
  match w.span (· != '.') with
  | (a, []) => [CodeTable.hexNumber a]
  | (a, _ :: b) =>
    if b.length < w.length then CodeTable.hexNumber a :: numbers b else [CodeTable.hexNumber a]
termination_by w.length

/-- Bisection between `lo` (included) and `hi` (excluded); `fuel` bounds the halvings. -/
def bisect (ranges : Array (Nat × Nat × α)) (n : Nat) : (fuel lo hi : Nat) → Option (Nat × α)
  | 0, _, _ => none
  | fuel + 1, lo, hi =>
    if lo < hi then
      let mid := (lo + hi) / 2
      match ranges[mid]? with
      | none => none
      | some (a, b, v) =>
        if n < a then bisect ranges n fuel lo mid
        else if b < n then bisect ranges n fuel (mid + 1) hi
        else some (a, v)
    else none

/-- The value of a code point, behind the first code point of its range. -/
def find? (m : CodeMap α) (n : Nat) : Option (Nat × α) :=
  bisect m.ranges n (m.ranges.size + 1) 0 m.ranges.size

end CodeMap

end Vignette.Text

import Std.Data.HashMap
import Vignette.Text.Composition.Table

/-!
# Canonical composition

Two texts may look the same and differ: a letter with an accent is one character or two. `compose`
brings a text into Normalization Form C: composites are taken apart, the marks behind a letter are
put into the order of their classes, and what belongs together is put together again.

Hangul syllables are taken apart and put together by arithmetic; everything else by the table.
-/

namespace Vignette.Text.Composition

/-! ## 1. Taking apart -/

/-- The first Hangul syllable, and the first of each of its three kinds of parts. -/
def syllableBase : Nat := 0xAC00
def leadBase : Nat := 0x1100
def vowelBase : Nat := 0x1161
def tailBase : Nat := 0x11A7

/-- A code point taken apart, down to `depth` steps. -/
def decompose : (depth : Nat) → Nat → List Nat
  | 0, n => [n]
  | depth + 1, n =>
    if syllableBase ≤ n ∧ n < syllableBase + 11172 then
      let i := n - syllableBase
      let tail := i % 28
      [leadBase + i / 588, vowelBase + i % 588 / 28] ++ if tail = 0 then [] else [tailBase + tail]
    else
      match composites.find? n with
      | some (_, a, b) => decompose depth a ++ [b]
      | none => [n]

/-- The canonical combining class of a code point. -/
def combiningClass (n : Nat) : Nat :=
  if n < 0x300 then 0 else ((combiningClasses.find? n).map Prod.snd).getD 0

/-! ## 2. Order -/

/-- A mark put before the marks of greater class at the end of a text that is read backwards. -/
def insertMark (n k : Nat) : List (Nat × Nat) → List (Nat × Nat)
  | [] => [(n, k)]
  | (m, j) :: rest => if k < j ∧ k ≠ 0 then (m, j) :: insertMark n k rest else (n, k) :: (m, j) :: rest

/-- Code points with their classes, marks behind each letter in the order of their classes. -/
def sortMarks (s : List Nat) : List (Nat × Nat) :=
  (s.foldl (fun acc n => insertMark n (combiningClass n) acc) []).reverse

/-! ## 3. Putting together -/

/-- The pairs that are put together, with what comes of them. -/
def pairs : Std.HashMap (Nat × Nat) Nat :=
  composites.ranges.foldl (fun m (c, _, ab) => m.insert ab c) Std.HashMap.emptyWithCapacity

/-- What comes of two code points that belong together. -/
def pair? (a b : Nat) : Option Nat :=
  if leadBase ≤ a ∧ a < leadBase + 19 ∧ vowelBase ≤ b ∧ b < vowelBase + 21 then
    some (syllableBase + ((a - leadBase) * 21 + (b - vowelBase)) * 28)
  else if syllableBase ≤ a ∧ a < syllableBase + 11172 ∧ (a - syllableBase) % 28 = 0 ∧
      tailBase < b ∧ b < tailBase + 28 then
    some (a + (b - tailBase))
  else pairs[(a, b)]?

/-- Puts together: `starter` is the last letter so far, `marks` what stands behind it (backwards),
    `last` the class of the last of these. A character joins the letter unless one before it has the
    same class or a greater one. -/
def join (starter : Option Nat) (marks : List Nat) (last : Nat) : List (Nat × Nat) → List Nat
  | [] => starter.toList ++ marks.reverse
  | (n, k) :: rest =>
    match starter with
    | none => if k = 0 then join (some n) [] 0 rest else n :: join none [] 0 rest
    | some s =>
      let free := marks.isEmpty || (last < k && last != 0)
      match if free then pair? s n else none with
      | some c => join (some c) marks last rest
      | none =>
        if k = 0 then s :: marks.reverse ++ join (some n) [] 0 rest
        else join (some s) (n :: marks) k rest

/-- The text in Normalization Form C. -/
def compose (s : List Char) : List Char :=
  if s.all (·.toNat < 0x300) then s
  else
    (join none [] 0 (sortMarks (s.flatMap fun c => decompose 8 c.toNat))).map Char.ofNat

end Vignette.Text.Composition

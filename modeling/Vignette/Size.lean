import Vignette.Text.Blank
import Vignette.Text.Decimal
import Vignette.Text.Quoted

/-!
# Sizes

A size is a width and a height in pixels, each a number of 32 bits. Windows and thumbnails have
sizes. A size is *degenerate* if a dimension is zero and *oversized* if one is above 8192; neither
can be asked of a browser or an encoder.

The written form is `800x600`. Reading is more generous: white space around the text and around
each number, either case of the `x`, a plus sign, leading zeros. The text is cut at the FIRST `x`
of either case.
-/

namespace Vignette

/-- A width and a height in pixels. -/
structure Size where
  width : UInt32
  height : UInt32
  deriving DecidableEq, Repr

/-- The sizes at which a page is captured and shown. -/
structure Preset where
  window : Size
  thumb : Size
  deriving DecidableEq, Repr

namespace Size

/-- The largest width or height that is accepted. -/
def maxDimension : Nat := 8192

/-- Is a dimension zero? -/
def isDegenerate (s : Size) : Bool := s.width.toNat == 0 || s.height.toNat == 0

/-- Is a dimension above the largest accepted one? -/
def isOversized (s : Size) : Bool :=
  maxDimension < s.width.toNat || maxDimension < s.height.toNat

theorem isDegenerate_iff {s : Size} : s.isDegenerate = true ↔ s.width.toNat = 0 ∨ s.height.toNat = 0 := by
  rw [isDegenerate, Bool.or_eq_true, beq_iff_eq, beq_iff_eq]

theorem isOversized_iff {s : Size} :
    s.isOversized = true ↔ 8192 < s.width.toNat ∨ 8192 < s.height.toNat := by
  rw [isOversized, Bool.or_eq_true, decide_eq_true_iff, decide_eq_true_iff]
  rfl

/-- From 1 to 8192 pixels each way. -/
structure InLimits (s : Size) : Prop where
  width_pos : 1 ≤ s.width.toNat
  height_pos : 1 ≤ s.height.toNat
  width_le : s.width.toNat ≤ 8192
  height_le : s.height.toNat ≤ 8192

/-- Within limits is what is neither degenerate nor oversized. -/
theorem inLimits_iff {s : Size} :
    s.InLimits ↔ s.isDegenerate = false ∧ s.isOversized = false := by
  simp only [isDegenerate, isOversized, Bool.or_eq_false_iff, beq_eq_false_iff_ne,
    decide_eq_false_iff_not, Nat.not_lt]
  constructor
  · rintro ⟨hw, hh, hw', hh'⟩
    exact ⟨⟨by omega, by omega⟩, hw', hh'⟩
  · rintro ⟨⟨hw, hh⟩, hw', hh'⟩
    exact ⟨by omega, by omega, hw', hh'⟩

/-- The written form, `800x600`. -/
def write (s : Size) : List Char :=
  Text.decimal s.width.toNat ++ 'x' :: Text.decimal s.height.toNat

/-- The written form as a string. -/
def text (s : Size) : String := String.ofList s.write

instance : ToString Size := ⟨text⟩

/-! ## Reading -/

/-- Why a text is no acceptable size. -/
inductive ParseError
  /-- The text is not of the form of a size. -/
  | malformed (input : String)
  /-- A dimension is above the largest accepted one. -/
  | tooLarge (size : Size)
  deriving DecidableEq, Repr

/-- The sentence that a message shows. -/
def ParseError.message : ParseError → String
  | .malformed input => s!"Invalid size: {Text.quoted input}"
  | .tooLarge size => s!"Size {size} exceeds the maximum dimension of {maxDimension}"

/-- Does the character separate the two numbers? -/
def isCross (c : Char) : Bool := c == 'x' || c == 'X'

/-- One dimension: a number of 32 bits with white space around it. -/
def readDimension? (s : List Char) : Option UInt32 :=
  (Text.readBelow? UInt32.size (Text.trim s)).map UInt32.ofNat

/-- The size that a text has the form of, whatever its dimensions. -/
def read? (s : List Char) : Option Size :=
  match (Text.trim s).span (fun c => !isCross c) with
  | (_, []) => none
  | (a, _ :: b) =>
    match readDimension? a, readDimension? b with
    | some w, some h => some ⟨w, h⟩
    | _, _ => none

/-- The size that a text denotes. -/
def parse (input : String) : Except ParseError Size :=
  match read? input.toList with
  | none => .error (.malformed input)
  | some size => if size.isOversized then .error (.tooLarge size) else .ok size

/-- A size that is read is not oversized. -/
theorem isOversized_of_parse {input : String} {size : Size} (h : parse input = .ok size) :
    size.isOversized = false := by
  unfold parse at h
  split at h
  · cases h
  · split at h
    · cases h
    · rename_i hs
      cases h
      simpa using hs

end Size

end Vignette

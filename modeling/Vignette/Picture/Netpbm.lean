import Vignette.Picture.Basic
import Vignette.Picture.Binary
import Vignette.Text.Decimal

/-!
# Reading Netpbm

A Netpbm file has a short header of text: `P` and a digit, the width, the height and, but for
bitmaps, the greatest value of a sample. The digits 1 to 3 are followed by samples in text, 4 to 6
by samples in bytes; bitmaps, gray and color in this order. Samples are spread over the full range
of one byte, or of two if the greatest value needs them.

The digit 7 announces a header of another kind, which is not read here.
-/

namespace Vignette.Netpbm

open Binary (byteAt)

/-! ## 1. Header -/

/-- A blank of the header. -/
def isBlank (b : UInt8) : Bool := b == 0x20 || (0x09 ≤ b && b ≤ 0x0D)

/-- The place behind blanks and comments; a comment goes from `#` to the end of its line. -/
def skipBlanks (data : ByteArray) : (fuel i : Nat) → (comment : Bool) → Nat
  | 0, i, _ => i
  | fuel + 1, i, comment =>
    match data[i]? with
    | none => i
    | some b =>
      if comment then skipBlanks data fuel (i + 1) (b != 0x0A && b != 0x0D)
      else if b == 0x23 then skipBlanks data fuel (i + 1) true
      else if isBlank b then skipBlanks data fuel (i + 1) false
      else i

/-- The bytes up to the next blank. -/
def takeWord (data : ByteArray) : (fuel i : Nat) → List UInt8
  | 0, _ => []
  | fuel + 1, i =>
    match data[i]? with
    | none => []
    | some b => if isBlank b then [] else b :: takeWord data fuel (i + 1)

/-- The next number below 2^32, and the place behind it. -/
def number? (data : ByteArray) (i : Nat) : Option (Nat × Nat) :=
  let i := skipBlanks data data.size i false
  let word := takeWord data data.size i
  (Text.readBelow? UInt32.size (word.map fun b => Char.ofNat b.toNat)).map (·, i + word.length)

/-- What the header says, and where it ends. -/
structure Header where
  channels : Nat
  text : Bool
  width : Nat
  height : Nat
  greatest : Nat
  next : Nat

/-- The header of a file. -/
def header? (data : ByteArray) : Option Header := do
  let digit := (← data[1]?).toNat - 48
  if digit < 1 ∨ 6 < digit then none
  let (width, i) ← number? data 2
  let (height, i) ← number? data i
  let bitmap := digit % 3 = 1
  let (greatest, i) ← if bitmap then some (1, i) else number? data i
  if width = 0 ∨ height = 0 ∨ greatest = 0 ∨ 65535 < greatest then none
  some ⟨if digit % 3 = 0 then 3 else 1, digit ≤ 3, width, height, greatest, i⟩

/-! ## 2. Samples -/

/-- The digits of a bitmap in text. -/
def bitsOfText? (data : ByteArray) : (fuel i : Nat) → (n : Nat) → Option (List Nat)
  | _, _, 0 => some []
  | 0, _, _ => none
  | fuel + 1, i, n + 1 =>
    match data[i]? with
    | none => none
    | some b =>
      if isBlank b then bitsOfText? data fuel (i + 1) (n + 1)
      else if b == 0x30 then (bitsOfText? data fuel (i + 1) n).map (1 :: ·)
      else if b == 0x31 then (bitsOfText? data fuel (i + 1) n).map (0 :: ·)
      else none

/-- `n` numbers in text. -/
def numbers? (data : ByteArray) (greatest : Nat) : (n i : Nat) → Option (List Nat)
  | 0, _ => some []
  | n + 1, i =>
    match number? data i with
    | none => none
    | some (v, i) =>
      if greatest < v then none else (numbers? data greatest n i).map (v :: ·)

/-- The samples of a file as numbers from zero to the greatest; in a bitmap, one is white. -/
def samples? (data : ByteArray) (h : Header) : Option (List Nat) :=
  let n := h.width * h.height * h.channels
  -- behind the header stands one blank
  let start := h.next + 1
  let bitmap := data[1]? = some 0x31 ∨ data[1]? = some 0x34
  if h.text then
    if bitmap then bitsOfText? data data.size h.next n else numbers? data h.greatest n h.next
  else if bitmap then
    let rowBytes := (h.width + 7) / 8
    if data.size < start + rowBytes * h.height then none
    else
      some ((List.range h.height).flatMap fun y => (List.range h.width).map fun x =>
        1 - (byteAt data (start + y * rowBytes + x / 8)).toNat / Nat.pow 2 (7 - x % 8) % 2)
  else
    let bytes := if h.greatest < 256 then 1 else 2
    if data.size < start + n * bytes then none
    else some ((List.range n).filterMap fun i => Binary.be? data (start + i * bytes) bytes)

/-- A sample spread over the range up to `full`, rounded to the nearest. -/
def spread (greatest full v : Nat) : Nat :=
  if greatest = full then v
  else
    let factor := (UInt64.ofNat full).toFloat32 / (UInt64.ofNat greatest).toFloat32
    min full ((UInt64.ofNat v).toFloat32 * factor).round.toUInt32.toNat

/-- The picture in a file. -/
def decode? (data : ByteArray) : Option Picture := do
  let h ← header? data
  let wide := decide (255 < h.greatest)
  let full := if wide then 65535 else 255
  let samples ← samples? data h
  let color : Color :=
    if h.channels = 3 then (if wide then .rgb16 else .rgb8) else if wide then .l16 else .l8
  let put (out : ByteArray) (v : Nat) :=
    let v := spread h.greatest full v
    if wide then (out.push (UInt8.ofNat v)).push (UInt8.ofNat (v / 256)) else out.push (UInt8.ofNat v)
  Picture.ofData? ⟨UInt32.ofNat h.width, UInt32.ofNat h.height⟩ color
    (samples.foldl put ByteArray.empty)

end Vignette.Netpbm

import Vignette.Picture.Basic
import Vignette.Picture.Binary
import Vignette.Text.Decimal

/-!
# Reading Radiance pictures

A Radiance picture has a header of lines, a line with its height and width, and its rows. A pixel is
three bytes and an exponent that they have in common. A row is written in one of three ways: pixel
by pixel, with runs of a pixel (three ones and a count), or with runs in each of the four bytes.

The samples are floating-point numbers of four bytes.
-/

namespace Vignette.Radiance

/-! ## 1. Header -/

/-- The line at a place without its end, and the place behind it; `none` at the end of the file. -/
def line? (data : ByteArray) (i : Nat) : Option (List UInt8 × Nat) :=
  if data.size ≤ i then none
  else
    let line := (data.extract i data.size).toList.takeWhile (· != 0x0A)
    some (line, i + line.length + 1)

/-- Is the line of the header one that can be gone on with? Pixels in another form cannot. -/
def isHarmless (line : List UInt8) : Bool :=
  let s := line.map fun b => Char.ofNat b.toNat
  let name := s.takeWhile (· != '=')
  name != "FORMAT".toList ||
    ["FORMAT=32-bit_rle_rgbe".toList, "FORMAT=32-bit_rle_xyze".toList].contains s

/-- The place behind the header. -/
def skipHeader? (data : ByteArray) : (fuel i : Nat) → Option Nat
  | 0, _ => none
  | fuel + 1, i =>
    match line? data i with
    | none => none
    | some ([], i) => some i
    | some (b :: rest, i) =>
      if b == 0x23 || isHarmless (b :: rest) then skipHeader? data fuel i else none

/-- The words of a line. -/
def words (line : List UInt8) : List (List Char) :=
  let s := line.map fun b => Char.ofNat b.toNat
  let isGap (c : Char) : Bool := c == ' ' || c == '\t' || c == '\r'
  (s.splitBy fun a b => isGap a == isGap b).filter fun w => !w.all isGap

/-- The width and height in a line. -/
def dimensions? (line : List UInt8) : Option (Nat × Nat) :=
  match words line with
  | [['-', 'Y'], h, ['+', 'X'], w] =>
    match Text.readBelow? UInt32.size w, Text.readBelow? UInt32.size h with
    | some w, some h => some (w, h)
    | _, _ => none
  | _ => none

/-! ## 2. Rows -/

/-- A pixel: red, green, blue and the exponent. -/
structure Pixel where
  r : UInt8
  g : UInt8
  b : UInt8
  e : UInt8
  deriving DecidableEq

/-- The four bytes at a place. -/
def pixel? (data : ByteArray) (i : Nat) : Option Pixel :=
  match data[i]?, data[i + 1]?, data[i + 2]?, data[i + 3]? with
  | some r, some g, some b, some e => some ⟨r, g, b, e⟩
  | _, _, _, _ => none

/-- A row with runs of a pixel. `done` is the row so far, backwards; `scale` multiplies the next
    count, since one count right behind another counts 256 times as much. Each step takes four
    bytes, so `fuel` is the number of bytes. -/
def readRuns? (data : ByteArray) (width : Nat) :
    (fuel i scale : Nat) → (done : List Pixel) → Option (List Pixel × Nat)
  | 0, _, _, _ => none
  | fuel + 1, i, scale, done =>
    if width ≤ done.length then some (done, i)
    else
      match pixel? data i, done with
      | none, _ => none
      | some p, last :: _ =>
        if p.r = 1 ∧ p.g = 1 ∧ p.b = 1 then
          let n := p.e.toNat * scale
          if width < done.length + n then none
          else readRuns? data width fuel (i + 4) (scale * 256) (List.replicate n last ++ done)
        else readRuns? data width fuel (i + 4) 1 (p :: done)
      | some p, [] =>
        if p.r = 1 ∧ p.g = 1 ∧ p.b = 1 then none else readRuns? data width fuel (i + 4) 1 [p]

/-- One of the four bytes of each pixel of a row, backwards. -/
def readPlane? (data : ByteArray) (width : Nat) :
    (fuel i : Nat) → (done : List UInt8) → Option (List UInt8 × Nat)
  | 0, _, _ => none
  | fuel + 1, i, done =>
    if width ≤ done.length then some (done, i)
    else
      match data[i]? with
      | none => none
      | some n =>
        if n ≤ 128 then
          if width < done.length + n.toNat ∨ data.size < i + 1 + n.toNat then none
          else
            readPlane? data width fuel (i + 1 + n.toNat)
              ((data.extract (i + 1) (i + 1 + n.toNat)).toList.reverse ++ done)
        else
          match data[i + 1]? with
          | none => none
          | some v =>
            let n := n.toNat - 128
            if width < done.length + n then none
            else readPlane? data width fuel (i + 2) (List.replicate n v ++ done)

/-- The row at a place, backwards. -/
def readRow? (data : ByteArray) (width i : Nat) : Option (List Pixel × Nat) := do
  let first ← pixel? data i
  if first.r = 2 ∧ first.g = 2 ∧ first.b < 128 then
    let fuel := data.size + 1
    let (r, i) ← readPlane? data width fuel (i + 4) []
    let (g, i) ← readPlane? data width fuel i []
    let (b, i) ← readPlane? data width fuel i []
    let (e, i) ← readPlane? data width fuel i []
    some (((r.zip g).zip (b.zip e)).map fun ((r, g), b, e) => ⟨r, g, b, e⟩, i)
  else readRuns? data width (data.size + 1) i 1 []

/-! ## 3. Pixels -/

/-- A sample put to the bytes, the lowest byte first. -/
def putSample (v e : UInt8) (out : ByteArray) : ByteArray :=
  let x := if e = 0 then 0 else v.toUInt32.toFloat32.scaleB ((e.toNat : Int) - 136)
  let bits := x.toBits
  (((out.push bits.toUInt8).push (bits >>> 8).toUInt8).push (bits >>> 16).toUInt8).push
    (bits >>> 24).toUInt8

/-- `n` rows from a place on. -/
def putRows? (data : ByteArray) (width : Nat) : (n i : Nat) → ByteArray → Option ByteArray
  | 0, _, out => some out
  | n + 1, i, out =>
    match readRow? data width i with
    | none => none
    | some (row, i) =>
      putRows? data width n i
        (row.reverse.foldl (fun out p => putSample p.b p.e (putSample p.g p.e (putSample p.r p.e out)))
          out)

/-- The picture in a file. -/
def decode? (data : ByteArray) : Option Picture := do
  let (_, i) ← line? data 0
  let i ← skipHeader? data data.size i
  let (line, i) ← line? data i
  let (width, height) ← dimensions? line
  if width = 0 ∨ height = 0 ∨ 512 * 1024 * 1024 < width * height * 12 then none
  Picture.ofData? ⟨UInt32.ofNat width, UInt32.ofNat height⟩ .rgb32f
    (← putRows? data width height i ByteArray.empty)

end Vignette.Radiance

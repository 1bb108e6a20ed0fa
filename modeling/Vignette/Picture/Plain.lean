import Vignette.Picture.Basic
import Vignette.Picture.Binary

/-!
# Reading plain formats

Three formats that hold their pixels one after the other: Windows bitmaps with 24 bits per pixel
(rows from the bottom, each filled up to four bytes, blue first), farbfeld (four samples of 16 bits,
the highest byte first), and QOI (pixels as differences to pixels before).

Nothing may be missing at the end.
-/

namespace Vignette

open Binary (byteAt be? le?)

/-! ## 1. Bitmaps -/

namespace Bitmap

/-- The bytes of a pixel, blue first, put to the bytes as red, green, blue. -/
def putPixel (data : ByteArray) (i : Nat) (out : ByteArray) : ByteArray :=
  ((out.push (byteAt data (i + 2))).push (byteAt data (i + 1))).push (byteAt data i)

/-- `n` pixels from a place on. -/
def putRow (data : ByteArray) : (n i : Nat) → ByteArray → ByteArray
  | 0, _, out => out
  | n + 1, i, out => putRow data n (i + 3) (putPixel data i out)

/-- The picture in a file. -/
def decode? (data : ByteArray) : Option Picture := do
  let start ← le? data 10 4
  let headerSize ← le? data 14 4
  let width ← le? data 18 4
  let rawHeight ← le? data 22 4
  let planes ← le? data 26 2
  let bits ← le? data 28 2
  let compression ← le? data 30 4
  let fromTop := UInt32.size / 2 ≤ rawHeight
  let height := if fromTop then UInt32.size - rawHeight else rawHeight
  let rowBytes := (3 * width + 3) / 4 * 4
  if headerSize < 40 ∨ planes ≠ 1 ∨ bits ≠ 24 ∨ compression ≠ 0 ∨ width = 0 ∨ height = 0 ∨
      65535 < width ∨ 65535 < height ∨ data.size < start + rowBytes * height then none
  let rows := (List.range height).map fun y => if fromTop then y else height - 1 - y
  Picture.ofData? ⟨UInt32.ofNat width, UInt32.ofNat height⟩ .rgb8
    (rows.foldl (fun out y => putRow data width (start + y * rowBytes) out) ByteArray.empty)

end Bitmap

/-! ## 2. Farbfeld -/

namespace Farbfeld

/-- `n` samples from a place on, the bytes of each exchanged. -/
def putSamples (data : ByteArray) : (n i : Nat) → ByteArray → ByteArray
  | 0, _, out => out
  | n + 1, i, out =>
    putSamples data n (i + 2) ((out.push (byteAt data (i + 1))).push (byteAt data i))

/-- The picture in a file. -/
def decode? (data : ByteArray) : Option Picture := do
  let width ← be? data 8 4
  let height ← be? data 12 4
  let samples := width * height * 4
  if width = 0 ∨ height = 0 ∨ data.size < 16 + 2 * samples then none
  Picture.ofData? ⟨UInt32.ofNat width, UInt32.ofNat height⟩ .rgba16
    (putSamples data samples 16 ByteArray.empty)

end Farbfeld

/-! ## 3. QOI -/

namespace Qoi

/-- A pixel. -/
structure Pixel where
  r : UInt8
  g : UInt8
  b : UInt8
  a : UInt8

/-- Where a pixel is remembered. -/
def Pixel.hash (p : Pixel) : Nat := (p.r.toNat * 3 + p.g.toNat * 5 + p.b.toNat * 7 + p.a.toNat * 11) % 64

/-- `n` times the same pixel. -/
def putPixels (alpha : Bool) (p : Pixel) : (n : Nat) → ByteArray → ByteArray
  | 0, out => out
  | n + 1, out =>
    let out := ((out.push p.r).push p.g).push p.b
    putPixels alpha p n (if alpha then out.push p.a else out)

/-- The pixels from a place on, `n` of them still to come; `seen` are the remembered ones and `p` the
    last. Each step makes a pixel, so `fuel` is the number of pixels. -/
def readPixels? (data : ByteArray) (alpha : Bool) :
    (fuel n i : Nat) → (seen : Array Pixel) → (p : Pixel) → ByteArray → Option (ByteArray × Nat)
  | _, 0, i, _, _, out => some (out, i)
  | 0, _, _, _, _, _ => none
  | fuel + 1, n + 1, i, seen, p, out =>
    let one (i : Nat) (p : Pixel) :=
      readPixels? data alpha fuel n i (seen.setIfInBounds p.hash p) p (putPixels alpha p 1 out)
    match data[i]? with
    | none => none
    | some op =>
      let low := op.toNat % 64
      if op = 0xFE then
        one (i + 4) { p with r := byteAt data (i + 1), g := byteAt data (i + 2),
                             b := byteAt data (i + 3) }
      else if op = 0xFF then
        one (i + 5) ⟨byteAt data (i + 1), byteAt data (i + 2), byteAt data (i + 3),
          byteAt data (i + 4)⟩
      else
        match op.toNat / 64 with
        | 0 =>
          match seen[low]? with
          | some q => readPixels? data alpha fuel n (i + 1) seen q (putPixels alpha q 1 out)
          | none => none
        | 1 =>
          let d (k : Nat) : UInt8 := UInt8.ofNat (op.toNat / k % 4) - 2
          one (i + 1) { p with r := p.r + d 16, g := p.g + d 4, b := p.b + d 1 }
        | 2 =>
          let next := byteAt data (i + 1)
          let dg := UInt8.ofNat low - 32
          one (i + 2) { p with r := p.r + dg + (next >>> 4) - 8, g := p.g + dg,
                               b := p.b + dg + (next &&& 15) - 8 }
        | _ =>
          let run := min (low + 1) (n + 1)
          readPixels? data alpha fuel (n + 1 - run) (i + 1) seen p (putPixels alpha p run out)

/-- The picture in a file. Seven zeros and a one stand behind the pixels. -/
def decode? (data : ByteArray) : Option Picture := do
  let width ← be? data 4 4
  let height ← be? data 8 4
  let channels ← be? data 12 1
  let space ← be? data 13 1
  let n := width * height
  if n = 0 ∨ 400000000 < n ∨ ¬ [3, 4].contains channels ∨ 1 < space then none
  let (out, i) ← readPixels? data (channels == 4) n n 14 (Array.replicate 64 ⟨0, 0, 0, 0⟩)
    ⟨0, 0, 0, 255⟩ ByteArray.empty
  if be? data i 8 ≠ some 1 then none
  Picture.ofData? ⟨UInt32.ofNat width, UInt32.ofNat height⟩
    (if channels = 4 then .rgba8 else .rgb8) out

end Qoi

end Vignette

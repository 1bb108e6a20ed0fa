import Vignette.Picture.Basic
import Vignette.Picture.Deflate

/-!
# PNG: chunks, header, and writing

A PNG file is a signature and a row of chunks, each with its length, its type of four letters and a
check sum. The first chunk is the header; the pixels are deflated in the chunks `IDAT`.

`Png.encode?` writes a picture row by row and without filters. A picture whose samples are
floating-point numbers has no PNG form.
-/

namespace Vignette.Png

open Binary (be? be bytes ascii)

/-- The eight bytes that every PNG file starts with. -/
def signature : List UInt8 := [0x89, 0x50, 0x4E, 0x47, 0x0D, 0x0A, 0x1A, 0x0A]

/-! ## 1. Header -/

/-- What a pixel of a PNG file is made of. -/
inductive Model
  | gray
  | rgb
  | palette
  | grayAlpha
  | rgba
  deriving DecidableEq, Repr

namespace Model

/-- The number that stands for a model in the header. -/
def code : Model → Nat
  | gray => 0
  | rgb => 2
  | palette => 3
  | grayAlpha => 4
  | rgba => 6

/-- The model that a number in the header stands for. -/
def ofCode? : Nat → Option Model
  | 0 => some gray
  | 2 => some rgb
  | 3 => some palette
  | 4 => some grayAlpha
  | 6 => some rgba
  | _ => none

/-- The number of samples of a pixel. -/
def samples : Model → Nat
  | gray | palette => 1
  | grayAlpha => 2
  | rgb => 3
  | rgba => 4

/-- The numbers of bits that a sample may have. -/
def depths : Model → List Nat
  | gray => [1, 2, 4, 8, 16]
  | palette => [1, 2, 4, 8]
  | rgb | grayAlpha | rgba => [8, 16]

end Model

/-- The header. -/
structure Header where
  size : Size
  depth : Nat
  model : Model
  interlaced : Bool

namespace Header

/-- The bytes of a header. -/
def write (h : Header) : List UInt8 :=
  be h.size.width.toNat 4 ++ be h.size.height.toNat 4 ++
    [UInt8.ofNat h.depth, UInt8.ofNat h.model.code, 0, 0, if h.interlaced then 1 else 0]

/-- The header in the thirteen bytes from a place on. Both dimensions are positive and have at most
    31 bits. -/
def read? (data : ByteArray) (i : Nat) : Option Header := do
  let width ← be? data i 4
  let height ← be? data (i + 4) 4
  let depth ← be? data (i + 8) 1
  let model ← Model.ofCode? (← be? data (i + 9) 1)
  let method ← be? data (i + 10) 2
  let interlace ← be? data (i + 12) 1
  if width = 0 ∨ height = 0 ∨ UInt32.size / 2 ≤ width ∨ UInt32.size / 2 ≤ height ∨ ¬ model.depths.contains depth ∨
      method ≠ 0 ∨ 1 < interlace then none
  else some ⟨⟨UInt32.ofNat width, UInt32.ofNat height⟩, depth, model, interlace == 1⟩

/-- The number of bits of a pixel. -/
def pixelBits (h : Header) : Nat := h.model.samples * h.depth

end Header

/-! ## 2. Chunks -/

/-- A chunk: its type, and where its contents are. -/
structure Chunk where
  type : String
  start : Nat
  length : Nat

namespace Chunk

/-- A chunk with its length and its check sum. -/
def write (type : String) (contents : ByteArray) : ByteArray :=
  let body := bytes (ascii type) ++ contents
  bytes (be contents.size 4) ++ body ++ bytes (be (Binary.crc32 body 0 body.size).toNat 4)

/-- The chunk at a place, as far as its first eight bytes tell. -/
def read? (data : ByteArray) (i : Nat) : Option Chunk :=
  match be? data i 4, data[i + 4]?, data[i + 5]?, data[i + 6]?, data[i + 7]? with
  | some n, some a, some b, some c, some d =>
    if n < UInt32.size / 2 then
      some ⟨String.ofList ([a, b, c, d].map fun x => Char.ofNat x.toNat), i + 8, n⟩
    else none
  | _, _, _, _, _ => none

/-- The place behind the chunk. -/
def next (c : Chunk) : Nat := c.start + c.length + 4

/-- Is the chunk there to its end, and does its check sum hold? `none` if it is cut off. -/
def sound? (c : Chunk) (data : ByteArray) : Option Bool :=
  (be? data (c.start + c.length) 4).map fun sum =>
    (Binary.crc32 data (c.start - 4) (c.length + 4)).toNat == sum

/-- Must a reader know the chunk? Its first letter is a capital then. -/
def isCritical (c : Chunk) : Bool :=
  match c.type.toList with
  | l :: _ => 'A' ≤ l && l ≤ 'Z'
  | [] => false

/-- The contents. -/
def contents (c : Chunk) (data : ByteArray) : ByteArray := data.extract c.start (c.start + c.length)

end Chunk

/-! ## 3. Writing -/

/-- The model and depth that a color is written with. -/
def modelOf? : Color → Option (Model × Nat)
  | .l8 => some (.gray, 8)
  | .la8 => some (.grayAlpha, 8)
  | .rgb8 => some (.rgb, 8)
  | .rgba8 => some (.rgba, 8)
  | .l16 => some (.gray, 16)
  | .la16 => some (.grayAlpha, 16)
  | .rgb16 => some (.rgb, 16)
  | .rgba16 => some (.rgba, 16)
  | .rgb32f | .rgba32f => none

/-- `n` bytes from place `i` on, put to `out`; with `swap`, the two bytes of each pair change
    places. -/
def putBytes (data : ByteArray) (swap : Bool) : (n i : Nat) → ByteArray → ByteArray
  | 0, _, out => out
  | n + 1, i, out =>
    let k := if swap then (if i % 2 = 0 then i + 1 else i - 1) else i
    putBytes data swap n (i + 1) (out.push (Binary.byteAt data k))

/-- `n` rows from a place on, each behind the number of its filter. -/
def putRows (data : ByteArray) (swap : Bool) (rowBytes : Nat) : (n i : Nat) → ByteArray → ByteArray
  | 0, _, out => out
  | n + 1, i, out =>
    putRows data swap rowBytes n (i + rowBytes) (putBytes data swap rowBytes i (out.push 0))

/-- The file that holds a picture. -/
def encode? (p : Picture) : Option ByteArray :=
  match modelOf? p.color with
  | none => none
  | some (model, depth) =>
    let rows := putRows p.data (depth == 16) p.rowBytes p.height 0 ByteArray.empty
    some (bytes signature ++
      Chunk.write "IHDR" (bytes (Header.write ⟨p.size, depth, model, false⟩)) ++
      Chunk.write "IDAT" (Deflate.deflate rows) ++ Chunk.write "IEND" ByteArray.empty)

/-- The size and the color that a file says it has, if its pixels are full samples. -/
def header? (data : ByteArray) : Option (Size × Color) :=
  match Header.read? data 16 with
  | none => none
  | some h =>
    match h.model, h.depth with
    | .gray, 8 => some (h.size, .l8)
    | .grayAlpha, 8 => some (h.size, .la8)
    | .rgb, 8 => some (h.size, .rgb8)
    | .rgba, 8 => some (h.size, .rgba8)
    | .gray, 16 => some (h.size, .l16)
    | .grayAlpha, 16 => some (h.size, .la16)
    | .rgb, 16 => some (h.size, .rgb16)
    | .rgba, 16 => some (h.size, .rgba16)
    | _, _ => none

end Vignette.Png

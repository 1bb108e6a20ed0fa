import Vignette.Picture.Png

/-!
# Reading PNG

The rows of a PNG file are filtered: each byte is written as the difference to a guess from the
bytes to its left and above. An interlaced file holds seven small pictures, each with rows of its
own. `Png.decode?` undoes both and makes a picture with full samples: colors instead of numbers of a
palette, eight bits for less, and an alpha sample where the file names a transparent color.

A file is refused that is damaged in a chunk that counts, that ends before the chunk behind its
pixels has begun, or whose picture would take more than `maxBytes`.
-/

namespace Vignette.Png

open Binary (byteAt be?)

/-- The most bytes that a picture may take. -/
def maxBytes : Nat := 512 * 1024 * 1024

/-! ## 1. Chunks before the pixels -/

/-- What is known before the pixels are read. -/
structure Preface where
  header : Header
  palette : Option ByteArray
  transparency : Option ByteArray

/-- What a chunk before the pixels adds. -/
def Preface.add? (p : Preface) (type : String) (contents : ByteArray) : Option Preface :=
  match type with
  | "PLTE" =>
    if p.palette.isSome ∨ contents.size % 3 ≠ 0 ∨ 768 < contents.size then none
    else some { p with palette := some contents }
  | "tRNS" =>
    match p.header.model with
    | .gray => if contents.size < 2 then none else some { p with transparency := some contents }
    | .rgb => if contents.size < 6 then none else some { p with transparency := some contents }
    | .palette => if p.palette.isNone then none else some { p with transparency := some contents }
    | _ => none
  | _ => some p

/-- The chunks before the pixels, from a place on; with the place of the first chunk of pixels. Each
    takes at least twelve bytes, so `fuel` is the number of bytes. -/
def readPreface? (data : ByteArray) : (fuel i : Nat) → Preface → Option (Preface × Nat)
  | 0, _, _ => none
  | fuel + 1, i, p =>
    match Chunk.read? data i with
    | none => none
    | some c =>
      if c.type = "IDAT" then some (p, i)
      else
        match c.sound? data with
        | none => none
        | some false => if c.isCritical then none else readPreface? data fuel c.next p
        | some true =>
          if c.isCritical && c.type != "PLTE" then none
          else
            match p.add? c.type (c.contents data) with
            | some p => readPreface? data fuel c.next p
            | none => none

/-- The contents of the chunks of pixels from a place on. A chunk of another type has to follow. -/
def readPixels? (data : ByteArray) : (fuel i : Nat) → ByteArray → Option ByteArray
  | 0, _, _ => none
  | fuel + 1, i, out =>
    match Chunk.read? data i with
    | none => none
    | some c =>
      if c.type = "IDAT" then
        if c.sound? data = some true then readPixels? data fuel c.next (out ++ c.contents data)
        else none
      else some out

/-! ## 2. Filters -/

/-- The one of three bytes that is nearest to the first plus the second less the third. -/
def paeth (left up corner : Nat) : Nat :=
  let p : Int := (left : Int) + up - corner
  let a := (p - left).natAbs
  let b := (p - up).natAbs
  let c := (p - corner).natAbs
  if a ≤ b ∧ a ≤ c then left else if b ≤ c then up else corner

/-- `n` bytes of a row, from place `i` on, put to the rows in `out`. `first` says that no row stands
    above, `x` counts the bytes of the row. -/
def unfilter (data : ByteArray) (filter step rowBytes : Nat) (first : Bool) :
    (n i x : Nat) → ByteArray → ByteArray
  | 0, _, _, out => out
  | n + 1, i, x, out =>
    let left := if x < step then 0 else (byteAt out (out.size - step)).toNat
    let up := if first then 0 else (byteAt out (out.size - rowBytes)).toNat
    let corner :=
      if first ∨ x < step then 0 else (byteAt out (out.size - rowBytes - step)).toNat
    let guess :=
      match filter with
      | 0 => 0
      | 1 => left
      | 2 => up
      | 3 => (left + up) / 2
      | _ => paeth left up corner
    unfilter data filter step rowBytes first n (i + 1) (x + 1)
      (out.push (UInt8.ofNat ((byteAt data i).toNat + guess)))

/-- `n` rows from a place on, filters undone. -/
def unfilterRows? (data : ByteArray) (step rowBytes : Nat) :
    (n i : Nat) → (first : Bool) → ByteArray → Option ByteArray
  | 0, _, _, out => some out
  | n + 1, i, first, out =>
    match data[i]? with
    | none => none
    | some filter =>
      if 4 < filter.toNat ∨ data.size < i + 1 + rowBytes then none
      else
        unfilterRows? data step rowBytes n (i + 1 + rowBytes) false
          (unfilter data filter.toNat step rowBytes first rowBytes (i + 1) 0 out)

/-! ## 3. Interlacing -/

/-- One of the pictures that a file holds: its first pixel, and the steps from pixel to pixel. -/
structure Pass where
  x : Nat
  y : Nat
  dx : Nat
  dy : Nat

/-- The whole picture at once. -/
def Pass.whole : Pass := ⟨0, 0, 1, 1⟩

/-- The seven pictures of an interlaced file. -/
def Pass.seven : List Pass :=
  [⟨0, 0, 8, 8⟩, ⟨4, 0, 8, 8⟩, ⟨0, 4, 4, 8⟩, ⟨2, 0, 4, 4⟩, ⟨0, 2, 2, 4⟩, ⟨1, 0, 2, 2⟩, ⟨0, 1, 1, 2⟩]

/-- How many of `n` places are met from `start` on in steps. -/
def metPlaces (n start step : Nat) : Nat := (n - start + step - 1) / step

/-- The rows of a pass. -/
structure Layer where
  pass : Pass
  rowBytes : Nat
  rows : ByteArray

/-- The rows of the passes from a place on. -/
def readLayers? (h : Header) (data : ByteArray) : (passes : List Pass) → (i : Nat) →
    Option (List Layer)
  | [], _ => some []
  | p :: passes, i =>
    let columns := metPlaces h.size.width.toNat p.x p.dx
    let rows := metPlaces h.size.height.toNat p.y p.dy
    if columns = 0 ∨ rows = 0 then readLayers? h data passes i
    else
      let rowBytes := (columns * h.pixelBits + 7) / 8
      match unfilterRows? data ((h.pixelBits + 7) / 8) rowBytes rows i true ByteArray.empty with
      | none => none
      | some out =>
        (readLayers? h data passes (i + rows * (rowBytes + 1))).map (⟨p, rowBytes, out⟩ :: ·)

/-- Does the pixel belong to the layer? -/
def Layer.holds (l : Layer) (x y : Nat) : Bool :=
  l.pass.x ≤ x && l.pass.y ≤ y && (x - l.pass.x) % l.pass.dx == 0 && (y - l.pass.y) % l.pass.dy == 0

/-- Sample `k` of a pixel of the layer, as it is written. -/
def Layer.sample (l : Layer) (h : Header) (x y k : Nat) : Nat :=
  let start := (y - l.pass.y) / l.pass.dy * l.rowBytes
  let place := (x - l.pass.x) / l.pass.dx * h.model.samples + k
  match h.depth with
  | 8 => (byteAt l.rows (start + place)).toNat
  | 16 =>
    (byteAt l.rows (start + 2 * place)).toNat * 256 + (byteAt l.rows (start + 2 * place + 1)).toNat
  | depth =>
    let bit := place * depth
    (byteAt l.rows (start + bit / 8)).toNat / Nat.pow 2 (8 - depth - bit % 8) % Nat.pow 2 depth

/-! ## 4. Pixels -/

/-- The color of the picture that is made. -/
def colorOf (p : Preface) : Color :=
  let alpha := p.transparency.isSome
  let wide := p.header.depth = 16
  match p.header.model with
  | .gray => if wide then (if alpha then .la16 else .l16) else if alpha then .la8 else .l8
  | .rgb => if wide then (if alpha then .rgba16 else .rgb16) else if alpha then .rgba8 else .rgb8
  | .palette => if alpha then .rgba8 else .rgb8
  | .grayAlpha => if wide then .la16 else .la8
  | .rgba => if wide then .rgba16 else .rgba8

/-- Sample `k` of the color that is transparent. -/
def keySample (p : Preface) (t : ByteArray) (k : Nat) : Nat :=
  let low := (byteAt t (2 * k + 1)).toNat
  if p.header.depth = 16 then (byteAt t (2 * k)).toNat * 256 + low else low

/-- A sample put to the bytes, the lowest byte first. -/
def putSample (wide : Bool) (value : Nat) (out : ByteArray) : ByteArray :=
  if wide then (out.push (UInt8.ofNat value)).push (UInt8.ofNat (value / 256))
  else out.push (UInt8.ofNat value)

/-- The full value of a sample: less than eight bits are spread over eight. -/
def fullSample (depth value : Nat) : Nat := if depth < 8 then value * (255 / (Nat.pow 2 depth - 1)) else value

/-- A pixel of the palette. A number beyond the palette is black. -/
def putIndexed (p : Preface) (index : Nat) (out : ByteArray) : ByteArray :=
  let palette := p.palette.getD ByteArray.empty
  let put (k : Nat) (out : ByteArray) := out.push (byteAt palette (3 * index + k))
  let out := put 2 (put 1 (put 0 out))
  match p.transparency with
  | none => out
  | some t => out.push ((t[index]?).getD 255)

/-- A pixel with its samples. -/
def putPixel (p : Preface) (l : Layer) (x y : Nat) (out : ByteArray) : ByteArray :=
  let h := p.header
  let wide := h.depth == 16
  if h.model = .palette then putIndexed p (l.sample h x y 0) out
  else
    let samples := (List.range h.model.samples).map (l.sample h x y)
    let out := samples.foldl (fun out v => putSample wide (fullSample h.depth v) out) out
    match p.transparency with
    | none => out
    | some t =>
      let isKey := samples.zipIdx.all fun (v, k) => v == keySample p t k
      putSample wide (if isKey then 0 else if wide then 65535 else 255) out

/-- `n` pixels of a row. -/
def putRow (p : Preface) (layers : List Layer) (y : Nat) : (n x : Nat) → ByteArray → ByteArray
  | 0, _, out => out
  | n + 1, x, out =>
    let out :=
      match layers.find? (·.holds x y) with
      | some l => putPixel p l x y out
      | none => out
    putRow p layers y n (x + 1) out

/-- `n` rows. -/
def putPicture (p : Preface) (layers : List Layer) : (n y : Nat) → ByteArray → ByteArray
  | 0, _, out => out
  | n + 1, y, out =>
    putPicture p layers n (y + 1) (putRow p layers y p.header.size.width.toNat 0 out)

/-- The picture in a file. -/
def decode? (data : ByteArray) : Option Picture := do
  let first ← Chunk.read? data 8
  if first.type ≠ "IHDR" ∨ first.length ≠ 13 ∨ first.sound? data ≠ some true then none
  let header ← Header.read? data first.start
  let (preface, i) ← readPreface? data data.size first.next ⟨header, none, none⟩
  if header.model = .palette ∧ preface.palette.isNone then none
  let color := colorOf preface
  if maxBytes < header.size.width.toNat * header.size.height.toNat * color.pixelBytes then none
  let pixels ← Deflate.inflate? (← readPixels? data data.size i ByteArray.empty)
  let layers ← readLayers? header pixels (if header.interlaced then Pass.seven else [.whole]) 0
  Picture.ofData? header.size color
    (putPicture preface layers header.size.height.toNat 0 ByteArray.empty)

end Vignette.Png

import Vignette.Size

/-!
# Pictures

A picture is a rectangle of pixels. Its bytes stand row by row from the top, the samples of a pixel
side by side; a sample of more than one byte has its lowest byte first. How many samples a pixel has
and how many bytes a sample is its `Color`.

That the bytes are neither too few nor too many is a part of the type, so every pixel of the
rectangle is there (`Picture.pixel`).
-/

namespace Vignette

/-- What the samples of a pixel are. -/
inductive Color
  | l8
  | la8
  | rgb8
  | rgba8
  | l16
  | la16
  | rgb16
  | rgba16
  | rgb32f
  | rgba32f
  deriving DecidableEq, Repr

namespace Color

/-- The number of samples of a pixel. -/
def channels : Color → Nat
  | l8 | l16 => 1
  | la8 | la16 => 2
  | rgb8 | rgb16 | rgb32f => 3
  | rgba8 | rgba16 | rgba32f => 4

/-- The number of bytes of a sample. -/
def sampleBytes : Color → Nat
  | l8 | la8 | rgb8 | rgba8 => 1
  | l16 | la16 | rgb16 | rgba16 => 2
  | rgb32f | rgba32f => 4

/-- The number of bytes of a pixel. -/
def pixelBytes (c : Color) : Nat := c.channels * c.sampleBytes

/-- The name in reports. -/
def label : Color → String
  | l8 => "L8"
  | la8 => "La8"
  | rgb8 => "Rgb8"
  | rgba8 => "Rgba8"
  | l16 => "L16"
  | la16 => "La16"
  | rgb16 => "Rgb16"
  | rgba16 => "Rgba16"
  | rgb32f => "Rgb32F"
  | rgba32f => "Rgba32F"

end Color

/-- A rectangle of pixels. -/
structure Picture where
  size : Size
  color : Color
  data : ByteArray
  data_size : data.size = size.width.toNat * size.height.toNat * color.pixelBytes

namespace Picture

/-- The number of columns. -/
def width (p : Picture) : Nat := p.size.width.toNat

/-- The number of rows. -/
def height (p : Picture) : Nat := p.size.height.toNat

/-- The number of bytes of a row. -/
def rowBytes (p : Picture) : Nat := p.width * p.color.pixelBytes

/-- The picture of these bytes, if there are as many as it needs. -/
def ofData? (size : Size) (color : Color) (data : ByteArray) : Option Picture :=
  if h : data.size = size.width.toNat * size.height.toNat * color.pixelBytes then
    some ⟨size, color, data, h⟩
  else none

/-- The bytes of the pixel in column `x` of row `y`. -/
def pixel (p : Picture) (x y : Nat) : ByteArray :=
  let start := (y * p.width + x) * p.color.pixelBytes
  p.data.extract start (start + p.color.pixelBytes)

theorem data_size_eq (p : Picture) : p.data.size = p.height * p.rowBytes := by
  rw [p.data_size, rowBytes, ← Nat.mul_assoc, Nat.mul_comm p.height]
  rfl

/-! ## Rows from the top -/

/-- The first `rows` rows, or all if there are fewer. -/
def keepRows (p : Picture) (rows : UInt32) : Picture :=
  if h : rows.toNat ≤ p.height then
    { size := ⟨p.size.width, rows⟩
      color := p.color
      data := p.data.extract 0 (rows.toNat * p.rowBytes)
      data_size := by
        have hle : rows.toNat * p.rowBytes ≤ p.data.size := by
          rw [p.data_size_eq]
          exact Nat.mul_le_mul_right _ h
        rw [ByteArray.size_extract, Nat.min_eq_left hle, Nat.sub_zero, rowBytes, ← Nat.mul_assoc,
          Nat.mul_comm rows.toNat]
        rfl }
  else p

end Picture

end Vignette

import Vignette.Picture.Resample

/-!
# Three samples of a byte

Formats that know neither an alpha sample nor samples of more than a byte are given red, green and
blue in a byte each: a gray sample counts for all three, the alpha sample is dropped, and wider
samples are brought to the range of a byte and rounded.
-/

namespace Vignette.Rgb

open Binary (byteAt)

/-- A sample in a byte. Of two bytes, 257 steps make one. A floating-point number counts from zero to
    one; what is no number counts as one. -/
def narrow (data : ByteArray) (bytes i : Nat) : UInt8 :=
  match bytes with
  | 1 => byteAt data i
  | 2 => UInt8.ofNat (((byteAt data i).toNat + 256 * (byteAt data (i + 1)).toNat + 128) / 257)
  | n =>
    let x := Resample.sampleAt data n i
    ((if x < 1 then (if x < 0 then 0 else x) else 1) * 255).round.toUInt8

/-- The places of red, green and blue among the samples of a pixel. -/
def places (channels : Nat) : Nat × Nat × Nat := if channels < 3 then (0, 0, 0) else (0, 1, 2)

/-- `n` pixels from a place on. -/
def putPixels (data : ByteArray) (c : Color) : (n i : Nat) → ByteArray → ByteArray
  | 0, _, out => out
  | n + 1, i, out =>
    let (r, g, b) := places c.channels
    let sample (k : Nat) := narrow data c.sampleBytes (i + k * c.sampleBytes)
    putPixels data c n (i + c.pixelBytes) (((out.push (sample r)).push (sample g)).push (sample b))

theorem size_putPixels (data : ByteArray) (c : Color) :
    ∀ (n i : Nat) (out : ByteArray), (putPixels data c n i out).size = out.size + n * 3
  | 0, _, out => by simp [putPixels]
  | n + 1, i, out => by
    rw [putPixels, size_putPixels data c n]
    simp only [ByteArray.size_push]
    omega

end Vignette.Rgb

namespace Vignette

open Rgb in
/-- The picture with three samples of a byte. -/
def Picture.toRgb8 (p : Picture) : Picture where
  size := p.size
  color := .rgb8
  data := putPixels p.data p.color (p.width * p.height) 0 ByteArray.empty
  data_size := by
    rw [size_putPixels]
    exact Nat.zero_add _

@[simp] theorem Picture.size_toRgb8 (p : Picture) : p.toRgb8.size = p.size := rfl

@[simp] theorem Picture.color_toRgb8 (p : Picture) : p.toRgb8.color = .rgb8 := rfl

end Vignette

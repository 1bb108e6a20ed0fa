import Vignette.Picture.Basic
import Vignette.Picture.Binary

/-!
# Resampling

A picture is brought to another size in two passes, first its columns and then its rows, with the
Lanczos kernel of three lobes. Each new sample is a weighted sum of the old ones around its place;
where a side gets smaller, the kernel gets wider in proportion. Everything is computed in single
precision, and in this order: weights from left to right, each divided by their sum, then products
added from left to right. Samples are brought back to their range and to whole numbers only at the
end.

A picture of the right size is left as it is.
-/

namespace Vignette.Resample

open Binary (byteAt)

/-! ## 1. The kernel -/

/-- The number π in single precision. -/
def pi : Float32 := Float32.ofBits 0x40490FDB

/-- The sine of `t * π` over `t * π`. -/
def sinc (t : Float32) : Float32 :=
  if t == 0 then 1
  else
    let a := t * pi
    a.sin / a

/-- The kernel: a sinc, windowed by its own middle lobe. -/
def lanczos (x : Float32) : Float32 := if x.abs < 3 then sinc x * sinc (x / 3) else 0

/-- A whole number in single precision. -/
def ofNat (n : Nat) : Float32 := (UInt64.ofNat n).toFloat32

/-- A sum of weighted samples; these stand `step` places apart. -/
def weighted (samples weights : FloatArray) (step : Nat) :
    (n i k : Nat) → Float32 → Float32
  | 0, _, _, acc => acc
  | n + 1, i, k, acc =>
    let s : Float := if h : i < samples.size then samples[i] else 0
    let w : Float := if h : k < weights.size then weights[k] else 0
    weighted samples weights step n (i + step) (k + 1) (acc + s.toFloat32 * w.toFloat32)

/-- `n` weights, for the old places from `k` on, around the middle. -/
def rawWeights (middle scale : Float32) : (n k : Nat) → FloatArray → FloatArray
  | 0, _, ws => ws
  | n + 1, k, ws =>
    rawWeights middle scale n (k + 1) (ws.push (lanczos ((ofNat k - middle) / scale)).toFloat)

/-- The sum of the weights, from left to right. -/
def total (ws : FloatArray) : Float32 :=
  ws.foldl (fun acc w => acc + w.toFloat32) 0

/-- The old places around a new one, and their weights. -/
structure Window where
  left : Nat
  weights : FloatArray

/-- The window of new place `i` on a side that had `old` places and gets `new`. -/
def Window.at (old new i : Nat) : Window :=
  let ratio := ofNat old / ofNat new
  let scale := if ratio < 1 then 1 else ratio
  let reach := 3 * scale
  let middle := (ofNat i + 0.5) * ratio
  let low := (middle - reach).floor
  let left := if low < 0 then 0 else min low.toUInt64.toNat (old - 1)
  let right := max (left + 1) (min (middle + reach).ceil.toUInt64.toNat old)
  let raw := rawWeights (middle - 0.5) scale (right - left) left (FloatArray.mk #[])
  let sum := total raw
  ⟨left, raw.foldl (fun ws w => ws.push (w.toFloat32 / sum).toFloat) (FloatArray.mk #[])⟩

/-! ## 2. Passes -/

/-- `n` samples of a new row: sample `j` of each row, weighted over the rows of the window. -/
def columnRow (samples : FloatArray) (rowSize : Nat) (w : Window) :
    (n j : Nat) → FloatArray → FloatArray
  | 0, _, out => out
  | n + 1, j, out =>
    let s := weighted samples w.weights rowSize w.weights.size (w.left * rowSize + j) 0 0
    columnRow samples rowSize w n (j + 1) (out.push s.toFloat)

/-- `n` new rows, from row `i` on, each from a window of old rows. -/
def columns (samples : FloatArray) (rowSize old new : Nat) :
    (n i : Nat) → FloatArray → FloatArray
  | 0, _, out => out
  | n + 1, i, out =>
    columns samples rowSize old new n (i + 1)
      (columnRow samples rowSize (Window.at old new i) rowSize 0 out)

/-- `n` samples of a new pixel, from sample `j` on, weighted over the pixels of the window. -/
def rowPixel (samples : FloatArray) (channels start : Nat) (w : Window) :
    (n j : Nat) → FloatArray → FloatArray
  | 0, _, out => out
  | n + 1, j, out =>
    let s := weighted samples w.weights channels w.weights.size (start + w.left * channels + j) 0 0
    rowPixel samples channels start w n (j + 1) (out.push s.toFloat)

/-- The new pixels of a row that starts at a place. -/
def row (samples : FloatArray) (channels start : Nat) (windows : List Window) (out : FloatArray) :
    FloatArray :=
  windows.foldl (fun out w => rowPixel samples channels start w channels 0 out) out

/-- `n` rows with new pixels, from a place on. -/
def rows (samples : FloatArray) (channels rowSize : Nat) (windows : List Window) :
    (n start : Nat) → FloatArray → FloatArray
  | 0, _, out => out
  | n + 1, start, out =>
    rows samples channels rowSize windows n (start + rowSize)
      (row samples channels start windows out)

/-! ## 3. Samples -/

/-- The sample at a place. -/
def sampleAt (data : ByteArray) (bytes i : Nat) : Float32 :=
  match bytes with
  | 1 => (byteAt data i).toUInt32.toFloat32
  | 2 => ((byteAt data i).toUInt32 ||| ((byteAt data (i + 1)).toUInt32 <<< 8)).toFloat32
  | _ =>
    Float32.ofBits ((byteAt data i).toUInt32 ||| ((byteAt data (i + 1)).toUInt32 <<< 8) |||
      ((byteAt data (i + 2)).toUInt32 <<< 16) ||| ((byteAt data (i + 3)).toUInt32 <<< 24))

/-- `n` samples from a place on. -/
def readSamples (data : ByteArray) (bytes : Nat) : (n i : Nat) → FloatArray → FloatArray
  | 0, _, out => out
  | n + 1, i, out =>
    readSamples data bytes n (i + bytes) (out.push (sampleAt data bytes i).toFloat)

/-- A number brought into a range. -/
def clamp (x low high : Float32) : Float32 := if x < low then low else if high < x then high else x

/-- A sample put to the bytes, in its range and, if it is a whole number, rounded half away from
    zero. -/
def putSample (bytes : Nat) (x : Float32) (out : ByteArray) : ByteArray :=
  match bytes with
  | 1 => out.push (clamp x 0 255).round.toUInt8
  | 2 =>
    let v := (clamp x 0 65535).round.toUInt32
    (out.push v.toUInt8).push (v >>> 8).toUInt8
  | _ =>
    let v := (clamp x 0 1).toBits
    (((out.push v.toUInt8).push (v >>> 8).toUInt8).push (v >>> 16).toUInt8).push (v >>> 24).toUInt8

/-- `n` samples put to the bytes, from place `i` on; zeros where there are no more. -/
def writeSamples (samples : FloatArray) (bytes : Nat) : (n i : Nat) → ByteArray → ByteArray
  | 0, _, out => out
  | n + 1, i, out =>
    let s : Float := if h : i < samples.size then samples[i] else 0
    writeSamples samples bytes n (i + 1) (putSample bytes s.toFloat32 out)

theorem size_putSample (bytes : Nat) (h : bytes = 1 ∨ bytes = 2 ∨ bytes = 4) (x : Float32)
    (out : ByteArray) : (putSample bytes x out).size = out.size + bytes := by
  rcases h with rfl | rfl | rfl <;> simp [putSample, ByteArray.size_push]

/-- **As many samples are written as are asked for.** -/
theorem size_writeSamples (samples : FloatArray) (bytes : Nat)
    (h : bytes = 1 ∨ bytes = 2 ∨ bytes = 4) :
    ∀ (n i : Nat) (out : ByteArray),
      (writeSamples samples bytes n i out).size = out.size + n * bytes
  | 0, _, out => by simp [writeSamples]
  | n + 1, i, out => by
    rw [writeSamples, size_writeSamples samples bytes h, size_putSample bytes h, Nat.succ_mul]
    omega

end Vignette.Resample

namespace Vignette

/-- A sample has one, two or four bytes. -/
theorem Color.sampleBytes_cases (c : Color) :
    c.sampleBytes = 1 ∨ c.sampleBytes = 2 ∨ c.sampleBytes = 4 := by
  cases c <;> decide

open Resample in
/-- The picture at another size. -/
def Picture.resize (p : Picture) (size : Size) : Picture :=
  if p.size = size then p
  else
    let channels := p.color.channels
    let bytes := p.color.sampleBytes
    let old := readSamples p.data bytes (p.width * p.height * channels) 0 (FloatArray.mk #[])
    let tall := columns old (p.width * channels) p.height size.height.toNat size.height.toNat 0
      (FloatArray.mk #[])
    let windows := (List.range size.width.toNat).map (Window.at p.width size.width.toNat)
    let new := rows tall channels (p.width * channels) windows size.height.toNat 0
      (FloatArray.mk #[])
    { size := size
      color := p.color
      data := writeSamples new bytes (size.width.toNat * size.height.toNat * channels) 0
        ByteArray.empty
      data_size := by
        rw [size_writeSamples _ _ p.color.sampleBytes_cases, Color.pixelBytes, Nat.mul_assoc]
        exact Nat.zero_add _ }

end Vignette

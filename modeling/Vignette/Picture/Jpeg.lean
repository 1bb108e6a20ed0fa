import Vignette.Picture.Rgb

/-!
# Writing JPEG

A JPEG file is a row of segments, each behind a marker of two bytes, and one scan of pixels. The
pixels are taken in blocks of eight by eight; a block has a brightness and two color differences,
each of which is turned into 64 waves (`waves`), rounded to multiples of the numbers in `steps`, and
written in zigzag order in a prefix code. All three components use the same numbers and codes.

`Jpeg.encode` writes the file, and `Jpeg.header?` reads its size from the frame segment. Pixels are
not read back: what a picture loses is lost.
-/

namespace Vignette.Jpeg

open Binary (be be? byteAt bytes ascii)

/-! ## 1. Prefix codes -/

/-- A prefix code: how many words have each length from one on, and the symbols by length. -/
structure Code where
  counts : List Nat
  symbols : List Nat

/-- The code for the sizes of first waves. -/
def firstCode : Code := ⟨[0, 1, 5, 1, 1, 1, 1, 1, 1, 0, 0, 0, 0, 0, 0, 0], List.range 12⟩

/-- The code for the other waves: how many zeros come before, and the size of the number. -/
def otherCode : Code :=
  ⟨[0, 2, 1, 3, 3, 2, 4, 3, 5, 5, 4, 4, 0, 0, 1, 125],
    [0x01, 0x02, 0x03, 0x00, 0x04, 0x11, 0x05, 0x12, 0x21, 0x31, 0x41, 0x06, 0x13, 0x51, 0x61, 0x07,
     0x22, 0x71, 0x14, 0x32, 0x81, 0x91, 0xA1, 0x08, 0x23, 0x42, 0xB1, 0xC1, 0x15, 0x52, 0xD1, 0xF0,
     0x24, 0x33, 0x62, 0x72, 0x82, 0x09, 0x0A, 0x16, 0x17, 0x18, 0x19, 0x1A, 0x25, 0x26, 0x27, 0x28,
     0x29, 0x2A, 0x34, 0x35, 0x36, 0x37, 0x38, 0x39, 0x3A, 0x43, 0x44, 0x45, 0x46, 0x47, 0x48, 0x49,
     0x4A, 0x53, 0x54, 0x55, 0x56, 0x57, 0x58, 0x59, 0x5A, 0x63, 0x64, 0x65, 0x66, 0x67, 0x68, 0x69,
     0x6A, 0x73, 0x74, 0x75, 0x76, 0x77, 0x78, 0x79, 0x7A, 0x83, 0x84, 0x85, 0x86, 0x87, 0x88, 0x89,
     0x8A, 0x92, 0x93, 0x94, 0x95, 0x96, 0x97, 0x98, 0x99, 0x9A, 0xA2, 0xA3, 0xA4, 0xA5, 0xA6, 0xA7,
     0xA8, 0xA9, 0xAA, 0xB2, 0xB3, 0xB4, 0xB5, 0xB6, 0xB7, 0xB8, 0xB9, 0xBA, 0xC2, 0xC3, 0xC4, 0xC5,
     0xC6, 0xC7, 0xC8, 0xC9, 0xCA, 0xD2, 0xD3, 0xD4, 0xD5, 0xD6, 0xD7, 0xD8, 0xD9, 0xDA, 0xE1, 0xE2,
     0xE3, 0xE4, 0xE5, 0xE6, 0xE7, 0xE8, 0xE9, 0xEA, 0xF1, 0xF2, 0xF3, 0xF4, 0xF5, 0xF6, 0xF7, 0xF8,
     0xF9, 0xFA]⟩

/-- The lengths of the words in the order of the symbols. -/
def Code.lengths (c : Code) : List Nat :=
  c.counts.zipIdx.flatMap fun (n, i) => List.replicate n (i + 1)

/-- The words in order: each is the one before plus one, with zeros behind it where words get
    longer. -/
def numberWords : (last length : Nat) → (lengths : List Nat) → List (Nat × Nat)
  | _, _, [] => []
  | last, length, n :: lengths =>
    let word := last * Nat.pow 2 (n - length)
    (word, n) :: numberWords (word + 1) n lengths

/-- The word and its length for each symbol, by symbol. -/
def Code.table (c : Code) : Array (Nat × Nat) :=
  (c.symbols.zip (numberWords 0 0 c.lengths)).foldl
    (fun table (s, w) => table.setIfInBounds s w) (Array.replicate 256 (0, 0))

/-- The words of `firstCode`. -/
def firstTable : Array (Nat × Nat) := firstCode.table

/-- The words of `otherCode`. -/
def otherTable : Array (Nat × Nat) := otherCode.table

/-! ## 2. Bits -/

/-- Bytes that are written, and less than eight bits that wait. -/
structure Scan where
  out : ByteArray
  pending : Nat
  count : Nat

namespace Scan

/-- One byte more. A zero stands behind 255, which would be a marker otherwise. -/
def putByte (out : ByteArray) (b : Nat) : ByteArray :=
  let out := out.push (UInt8.ofNat b)
  if b % 256 = 255 then out.push 0 else out

/-- All whole bytes of the lowest `n` bits of a number, the highest bits first. -/
def drain : (fuel : Nat) → (out : ByteArray) → (bits n : Nat) → Scan
  | 0, out, bits, n => ⟨out, bits, n⟩
  | fuel + 1, out, bits, n =>
    if n < 8 then ⟨out, bits, n⟩
    else
      drain fuel (putByte out (bits / Nat.pow 2 (n - 8))) (bits % Nat.pow 2 (n - 8)) (n - 8)

/-- `n` bits more, the highest first. -/
def push (s : Scan) (value n : Nat) : Scan :=
  drain (s.count + n) s.out (s.pending * Nat.pow 2 n + value % Nat.pow 2 n) (s.count + n)

/-- The bytes, the last of them filled up with ones. -/
def finish (s : Scan) : ByteArray :=
  if s.count = 0 then s.out else (s.push 127 (8 - s.count)).out

/-- The word of a symbol. -/
def pushSymbol (s : Scan) (table : Array (Nat × Nat)) (symbol : Nat) : Scan :=
  let (word, n) := table.getD symbol (0, 0)
  s.push word n

/-- A number behind its size; a negative one is written less one. -/
def pushNumber (s : Scan) (v : Int) (size : Nat) : Scan :=
  s.push (if v < 0 then v + Nat.pow 2 size - 1 else v).toNat size

end Scan

/-- The number of bits of a number without its sign. -/
def sizeOf (v : Int) : Nat := if v = 0 then 0 else v.natAbs.log2 + 1

/-! ## 3. Blocks -/

/-- How coarsely each wave is kept, row by row. -/
def steps : List Nat :=
  [8, 6, 5, 8, 12, 20, 26, 31, 6, 6, 7, 10, 13, 29, 30, 28, 7, 7, 8, 12, 20, 29, 35, 28,
   7, 9, 11, 15, 26, 44, 40, 31, 9, 11, 19, 28, 34, 55, 52, 39, 12, 18, 28, 32, 41, 52, 57, 46,
   25, 32, 39, 44, 52, 61, 60, 51, 36, 46, 48, 49, 56, 50, 52, 50]

/-- The places of a block in zigzag order. -/
def zigzag : List Nat :=
  [0, 1, 8, 16, 9, 2, 3, 10, 17, 24, 32, 25, 18, 11, 4, 5, 12, 19, 26, 33, 40, 48, 41, 34, 27, 20, 13,
   6, 7, 14, 21, 28, 35, 42, 49, 56, 57, 50, 43, 36, 29, 22, 15, 23, 30, 37, 44, 51, 58, 59, 52, 45,
   38, 31, 39, 46, 53, 60, 61, 54, 47, 55, 62, 63]

/-- How much place `x` counts for wave `u`. -/
def wave (u x : Nat) : Float :=
  let norm : Float := if u = 0 then 0.3535533905932738 else 0.5
  norm * (((2 * x + 1) * u).toFloat * 0.19634954084936207).cos

/-- The numbers of `wave`, wave by wave. -/
def waveTable : FloatArray :=
  (List.range 64).foldl (fun t k => t.push (wave (k / 8) (k % 8))) (FloatArray.mk #[])

/-- A number of a list of floating-point numbers; zero past the end. -/
@[inline] def get (xs : FloatArray) (i : Nat) : Float := if h : i < xs.size then xs[i] else 0

/-- The sum over eight places: wave `u` of the numbers from `start` on, `step` apart. -/
def along (xs : FloatArray) (u start step : Nat) : (n x : Nat) → Float → Float
  | 0, _, acc => acc
  | n + 1, x, acc =>
    along xs u start step n (x + 1) (acc + get xs (start + x * step) * get waveTable (8 * u + x))

/-- The waves of each row of a block, or of each column. -/
def wavesAlong (xs : FloatArray) (rows : Bool) : FloatArray :=
  (List.range 64).foldl (fun out k =>
    let (y, x) := (k / 8, k % 8)
    out.push (if rows then along xs x (8 * y) 1 8 0 0 else along xs y x 8 8 0 0)) (FloatArray.mk #[])

/-- The 64 waves of a block. -/
def waves (block : FloatArray) : FloatArray := wavesAlong (wavesAlong block true) false

/-- The brightness and the two color differences of a pixel, around zero. -/
def component (k : Nat) (r g b : Float) : Float :=
  match k with
  | 0 => 0.299 * r + 0.587 * g + 0.114 * b - 128
  | 1 => 0.5 * b - 0.168736 * r - 0.331264 * g
  | _ => 0.5 * r - 0.418688 * g - 0.081312 * b

/-- A component of the block whose first pixel is given. Beyond the picture, its last pixels go
    on. -/
def block (p : Picture) (k x0 y0 : Nat) : FloatArray :=
  (List.range 64).foldl (fun out i =>
    let x := min (x0 + i % 8) (p.width - 1)
    let y := min (y0 + i / 8) (p.height - 1)
    let place := (y * p.width + x) * 3
    let sample (j : Nat) : Float := (byteAt p.data (place + j)).toNat.toFloat
    out.push (component k (sample 0) (sample 1) (sample 2))) (FloatArray.mk #[])

/-- The rounded waves of a block in zigzag order. -/
def levels (xs : FloatArray) : List Int :=
  let w := waves xs
  zigzag.map fun i =>
    let level := (get w i / (steps.getD i 1).toFloat).round
    if level < 0 then -((-level).toUInt64.toNat : Int) else (level.toUInt64.toNat : Int)

/-- The waves of a block behind the first; `zeros` came before. -/
def pushOthers (s : Scan) : (zeros : Nat) → List Int → Scan
  | zeros, [] => if zeros = 0 then s else s.pushSymbol otherTable 0
  | zeros, v :: rest =>
    if v = 0 then pushOthers s (zeros + 1) rest
    else
      let s := (List.range (zeros / 16)).foldl (fun s _ => s.pushSymbol otherTable 0xF0) s
      let size := sizeOf v
      pushOthers ((s.pushSymbol otherTable (zeros % 16 * 16 + size)).pushNumber v size) 0 rest

/-- A block; its first wave is written as the difference to the one before. -/
def pushBlock (s : Scan) (before : Int) : List Int → Scan
  | [] => s
  | first :: others =>
    let d := first - before
    pushOthers ((s.pushSymbol firstTable (sizeOf d)).pushNumber d (sizeOf d)) 0 others

/-- The three components of a block; `before` are the first waves of the block before. -/
def pushPixels (p : Picture) (s : Scan) (before : Int × Int × Int) (x y : Nat) :
    Scan × (Int × Int × Int) :=
  let level (k : Nat) := levels (block p k x y)
  let (a, b, c) := (level 0, level 1, level 2)
  (pushBlock (pushBlock (pushBlock s before.1 a) before.2.1 b) before.2.2 c,
    (a.headD 0, b.headD 0, c.headD 0))

/-- All blocks, row by row. -/
def scan (p : Picture) : ByteArray :=
  let columns := (p.width + 7) / 8
  let blocks := columns * ((p.height + 7) / 8)
  ((List.range blocks).foldl
    (fun (s, before) i => pushPixels p s before (i % columns * 8) (i / columns * 8))
    (Scan.mk ByteArray.empty 0 0, ((0 : Int), (0 : Int), (0 : Int)))).1.finish

/-! ## 4. Segments -/

/-- A segment with its marker and its length. -/
def segment (marker : UInt8) (contents : List UInt8) : List UInt8 :=
  [0xFF, marker] ++ be (contents.length + 2) 2 ++ contents

/-- What the frame segment says: eight bits, the size, and three components at full size. -/
def frame (size : Size) : List UInt8 :=
  [8] ++ be size.height.toNat 2 ++ be size.width.toNat 2 ++
    [3, 1, 0x11, 0, 2, 0x11, 0, 3, 0x11, 0]

/-- What a code segment says, for the code of a number. -/
def codeContents (number : UInt8) (c : Code) : List UInt8 :=
  number :: (c.counts.map UInt8.ofNat ++ c.symbols.map UInt8.ofNat)

/-- The segments before the frame. -/
def opening : List UInt8 :=
  [0xFF, 0xD8] ++ segment 0xE0 (ascii "JFIF" ++ [0, 1, 2, 0, 0, 1, 0, 1, 0, 0])

/-- The segments between the frame and the scan. -/
def tables : List UInt8 :=
  segment 0xDB (0 :: zigzag.map fun i => UInt8.ofNat (steps.getD i 1)) ++
    segment 0xC4 (codeContents 0x00 firstCode) ++ segment 0xC4 (codeContents 0x10 otherCode) ++
    segment 0xDA [3, 1, 0, 2, 0, 3, 0, 0, 63, 0]

/-- The file that holds a picture. -/
def encode (p : Picture) : ByteArray :=
  bytes (opening ++ segment 0xC0 (frame p.size) ++ tables) ++ scan p.toRgb8 ++ bytes [0xFF, 0xD9]

/-! ## 5. Reading the frame -/

/-- Does the marker start a frame? -/
def isFrame (marker : UInt8) : Bool :=
  0xC0 ≤ marker && marker ≤ 0xCF && !([0xC4, 0xC8, 0xCC] : List UInt8).contains marker

/-- The frame in the segments from a place on: the size and the number of components. Each segment
    takes at least four bytes, so `fuel` is the number of bytes. -/
def frame? (data : ByteArray) : (fuel i : Nat) → Option (Size × Nat)
  | 0, _ => none
  | fuel + 1, i =>
    match data[i]?, data[i + 1]?, be? data (i + 2) 2 with
    | some 0xFF, some marker, some length =>
      if isFrame marker then
        match be? data (i + 5) 2, be? data (i + 7) 2, be? data (i + 9) 1 with
        | some height, some width, some components =>
          some (⟨UInt32.ofNat width, UInt32.ofNat height⟩, components)
        | _, _, _ => none
      else if marker = 0xDA then none
      else frame? data fuel (i + 2 + length)
    | _, _, _ => none

/-- The size and the color that a file says it has. -/
def header? (data : ByteArray) : Option (Size × Color) :=
  match frame? data data.size 2 with
  | some (size, 1) => some (size, .l8)
  | some (size, 3) => some (size, .rgb8)
  | _ => none

end Vignette.Jpeg

import Vignette.Picture.Deflate
import Vignette.Picture.Rgb

/-!
# Lossless WebP

A lossless WebP file is a frame around one chunk: a byte that announces it, the size, prefix codes
for the samples, and the pixels. `Webp.encode` gives every sample a word of eight bits, which any
reader takes. `Webp.decode?` reads files whose pixels stand for themselves, whatever their prefix
codes; those that were transformed or that repeat earlier pixels are not read.

The alpha sample is only there if the file says that it is used; `encode` does not use it.
-/

namespace Vignette.Webp

open Binary (le le? byteAt bytes ascii)
open Deflate (bits?)

/-! ## 1. Writing bits -/

/-- Bytes that are written, and less than eight bits that wait. -/
structure Bits where
  out : ByteArray
  pending : Nat
  count : Nat

namespace Bits

/-- All whole bytes of `n` bits of a number, the lowest bits first. -/
def drain : (fuel : Nat) → (out : ByteArray) → (bits n : Nat) → Bits
  | 0, out, bits, n => ⟨out, bits, n⟩
  | fuel + 1, out, bits, n =>
    if n < 8 then ⟨out, bits, n⟩ else drain fuel (out.push (UInt8.ofNat bits)) (bits / 256) (n - 8)

/-- `n` bits more, the lowest first. -/
def push (b : Bits) (value n : Nat) : Bits :=
  drain (b.count + n) b.out (b.pending + value % Nat.pow 2 n * Nat.pow 2 b.count) (b.count + n)

/-- The bytes, the last of them filled up with zeros. -/
def finish (b : Bits) : ByteArray :=
  if b.count = 0 then b.out else b.out.push (UInt8.ofNat b.pending)

end Bits

/-! ## 2. Writing -/

/-- The order in which the lengths of the code for lengths are written. -/
def lengthOrder : List Nat := [17, 18, 0, 1, 2, 3, 4, 5, 16, 6, 7, 8, 9, 10, 11, 12, 13, 14, 15]

/-- The code that gives a word of eight bits to each of the first 256 symbols, and none to the `rest`
    behind them. The code for lengths has a word for zero and a word for eight. -/
def pushBytesCode (b : Bits) (rest : Nat) : Bits :=
  let b := (b.push 0 1).push 8 4
  let b := [0, 0, 1, 0, 0, 0, 0, 0, 0, 0, 0, 1].foldl (fun b n => b.push n 3) b
  ((b.push 0 1).push (Nat.pow 2 256 - 1) 256).push 0 rest

/-- The code of the one symbol 255. -/
def pushFullCode (b : Bits) : Bits := ((b.push 1 1).push 2 2).push 255 8

/-- The code of the one symbol 0. -/
def pushZeroCode (b : Bits) : Bits := ((b.push 1 1).push 0 2).push 0 1

/-- The bits of a byte in reverse order. -/
def reversed (x : UInt8) : Nat :=
  (List.range 8).foldl (fun acc i => 2 * acc + x.toNat / Nat.pow 2 i % 2) 0

/-- `reversed` of all bytes. -/
def reversedTable : Array Nat := (Array.range 256).map fun i => reversed (UInt8.ofNat i)

/-- `n` pixels from a place on: green, red, blue. -/
def pushPixels (data : ByteArray) : (n i : Nat) → Bits → Bits
  | 0, _, b => b
  | n + 1, i, b =>
    let word (k : Nat) := reversedTable.getD (byteAt data (i + k)).toNat 0
    pushPixels data n (i + 3) (b.push (word 1 + 256 * word 0 + 65536 * word 2) 24)

/-- The codes and the pixels. No transform, no memory of colors, one set of codes. -/
def body (p : Picture) : ByteArray :=
  let b := (Bits.mk ByteArray.empty 0 0).push 0 3
  let b := pushBytesCode (pushBytesCode (pushBytesCode b 24) 0) 0
  (pushPixels p.data (p.width * p.height) 0 (pushZeroCode (pushFullCode b))).finish

/-- The two dimensions, each less one, in 14 bits. -/
def packed (size : Size) : Nat := (size.width.toNat - 1) + (size.height.toNat - 1) * 16384

/-- What stands before the codes. `n` is the number of bytes of the codes and the pixels, and the
    frame is filled up to an even number of bytes. -/
def opening (size : Size) (n : Nat) : List UInt8 :=
  ascii "RIFF" ++ le (4 + 8 + 5 + n + (5 + n) % 2) 4 ++ ascii "WEBPVP8L" ++ le (5 + n) 4 ++
    [0x2F] ++ le (packed size) 4

/-- The file that holds a picture. -/
def encode (p : Picture) : ByteArray :=
  let contents := body p.toRgb8
  bytes (opening p.size contents.size) ++ contents ++
    bytes (List.replicate ((5 + contents.size) % 2) 0)

/-! ## 3. Reading -/

/-- The size and the color that a file says it has. -/
def header? (data : ByteArray) : Option (Size × Color) :=
  if (data.extract 12 16).data.toList = ascii "VP8L" ∧ data[20]? = some 0x2F then
    (le? data 21 4).map fun v =>
      (⟨UInt32.ofNat (v % 16384 + 1), UInt32.ofNat (v / 16384 % 16384 + 1)⟩,
        if v / 268435456 % 2 = 1 then .rgba8 else .rgb8)
  else none

/-- A prefix code; one symbol alone needs no bit. -/
inductive Code
  | one (symbol : Nat)
  | many (code : Deflate.Code)

/-- The symbol at a place, and the place behind it. -/
def Code.read? (c : Code) (data : ByteArray) (place : Nat) : Option (Nat × Nat) :=
  match c with
  | one s => some (s, place)
  | many code => code.read? data place

/-- The code of these lengths. -/
def Code.ofLengths? (lengths : List Nat) : Option Code :=
  match lengths.zipIdx.filter fun (n, _) => n != 0 with
  | [(_, s)] => some (one s)
  | _ => (Deflate.Code.ofLengths? lengths false).map many

/-- `room` code lengths more, read backwards, and the place behind them. `last` is the last length
    that was not zero. -/
def readLengths? (c : Code) (data : ByteArray) :
    (fuel room last place : Nat) → List Nat → Option (List Nat × Nat)
  | 0, _, _, _, _ => none
  | _, 0, _, place, done => some (done, place)
  | fuel + 1, room + 1, last, place, done =>
    match c.read? data place with
    | none => none
    | some (s, place) =>
      if s < 16 then readLengths? c data fuel room (if s = 0 then last else s) place (s :: done)
      else
        let (value, least, n) :=
          if s = 16 then (last, 3, 2) else if s = 17 then (0, 3, 3) else (0, 11, 7)
        match bits? data place n with
        | some more =>
          if room + 1 < least + more then none
          else
            readLengths? c data fuel (room + 1 - (least + more)) last (place + n)
              (List.replicate (least + more) value ++ done)
        | none => none

/-- The prefix code for an alphabet that is written at a place, and the place behind it. -/
def readCode? (data : ByteArray) (alphabet place : Nat) : Option (Code × Nat) := do
  if (← bits? data place 1) = 1 then
    let two ← bits? data (place + 1) 1
    let n := if (← bits? data (place + 2) 1) = 1 then 8 else 1
    let first ← bits? data (place + 3) n
    if two = 0 then some (.one first, place + 3 + n)
    else
      let second ← bits? data (place + 3 + n) 8
      let code ← Code.ofLengths? ((List.range alphabet).map fun s =>
        if s = first ∨ s = second then 1 else 0)
      some (code, place + 11 + n)
  else
    let count := (← bits? data (place + 1) 4) + 4
    let given ← (List.range count).mapM fun i => bits? data (place + 5 + 3 * i) 3
    let pairs := lengthOrder.zip given
    let code ← Code.ofLengths? ((List.range 19).map fun s => (pairs.lookup s).getD 0)
    let place := place + 5 + 3 * count
    -- all lengths are there, not only the first few
    if (← bits? data place 1) = 1 then none
    let (lengths, place) ← readLengths? code data (alphabet + 1) alphabet 8 (place + 1) []
    some (← Code.ofLengths? lengths.reverse, place)

/-- `n` pixels from a place on. -/
def readPixels? (data : ByteArray) (alpha : Bool) (green red blue opacity : Code) :
    (n place : Nat) → ByteArray → Option ByteArray
  | 0, _, out => some out
  | n + 1, place, out =>
    match green.read? data place with
    | none => none
    | some (g, place) =>
      match red.read? data place with
      | none => none
      | some (r, place) =>
        match blue.read? data place with
        | none => none
        | some (b, place) =>
          match opacity.read? data place with
          | none => none
          | some (a, place) =>
            if 256 ≤ g then none
            else
              let out := ((out.push (UInt8.ofNat r)).push (UInt8.ofNat g)).push (UInt8.ofNat b)
              readPixels? data alpha green red blue opacity n place
                (if alpha then out.push (UInt8.ofNat a) else out)

/-- The picture in a file. -/
def decode? (data : ByteArray) : Option Picture := do
  let (size, color) ← header? data
  let place := 8 * 25
  if (← bits? data place 3) ≠ 0 then none
  let (green, place) ← readCode? data 280 (place + 3)
  let (red, place) ← readCode? data 256 place
  let (blue, place) ← readCode? data 256 place
  let (opacity, place) ← readCode? data 256 place
  let (_, place) ← readCode? data 40 place
  Picture.ofData? size color
    (← readPixels? data (color == .rgba8) green red blue opacity
      (size.width.toNat * size.height.toNat) place ByteArray.empty)

end Vignette.Webp

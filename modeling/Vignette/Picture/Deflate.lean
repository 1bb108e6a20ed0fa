import Vignette.Picture.Binary

/-!
# Deflated data

Data in the format of RFC 1951 is a row of blocks: stored bytes, or symbols in prefix codes, of
which one stands for a byte or for a run of bytes that was there before. RFC 1950 puts two bytes in
front and a check sum of four bytes behind.

`inflate?` reads all of it; `deflate` writes stored blocks only, which any reader takes. The check
sum behind the data has to be there but is not looked at.
-/

namespace Vignette.Deflate

open Binary (byteAt)

/-! ## 1. Bits -/

/-- The bit at a place, counted in bits from the start, lowest bit of a byte first. -/
@[inline] def bit? (data : ByteArray) (place : Nat) : Option Nat :=
  if h : place / 8 < data.size then some ((data[place / 8].toNat >>> (place % 8)) % 2) else none

/-- `n` bits from a place on as a number, lowest bit first. -/
def bits? (data : ByteArray) (place : Nat) : (n : Nat) → Option Nat
  | 0 => some 0
  | n + 1 =>
    match bit? data place, bits? data (place + 1) n with
    | some b, some high => some (b + 2 * high)
    | _, _ => none

/-! ## 2. Prefix codes -/

/-- A canonical prefix code: how many symbols have each length, and the symbols by length. -/
structure Code where
  counts : Array Nat
  symbols : Array Nat

namespace Code

/-- How many code words of the greatest length are free, when `counts` are taken; `none` if there
    are not so many. -/
def room? : (counts : List Nat) → (free : Nat) → Option Nat
  | [], free => some free
  | n :: counts, free => if 2 * free < n then none else room? counts (2 * free - n)

/-- The code of these lengths, one for each symbol; zero for a symbol without a code word. It must
    use up all code words, unless `sparse` allows a single word of one bit, or none. -/
def ofLengths? (lengths : List Nat) (sparse : Bool) : Option Code :=
  let counts := (List.range 15).map fun k => (lengths.filter (· == k + 1)).length
  let used := (lengths.filter (· != 0)).length
  let code : Code :=
    ⟨(0 :: counts).toArray,
      ((List.range 15).flatMap fun k =>
        lengths.zipIdx.filterMap fun (n, i) => if n = k + 1 then some i else none).toArray⟩
  match room? counts 1 with
  | some 0 => some code
  | some _ =>
    if sparse && (used == 0 || (used == 1 && counts.head? == some 1)) then some code else none
  | none => none

/-- The symbol whose code word starts at a place, and the place behind it. `first` is the first code
    word of length `len` less one, `word` what is read so far, `index` counts shorter symbols. -/
def symbol? (c : Code) (data : ByteArray) :
    (fuel len place word first index : Nat) → Option (Nat × Nat)
  | 0, _, _, _, _, _ => none
  | fuel + 1, len, place, word, first, index =>
    match bit? data place with
    | none => none
    | some b =>
      let word := 2 * word + b
      let first := 2 * first
      let count := c.counts.getD len 0
      if word < first + count then
        match c.symbols[index + (word - first)]? with
        | some s => some (s, place + 1)
        | none => none
      else symbol? c data fuel (len + 1) (place + 1) word (first + count) (index + count)

/-- The symbol whose code word starts at a place, and the place behind it. -/
def read? (c : Code) (data : ByteArray) (place : Nat) : Option (Nat × Nat) :=
  symbol? c data 15 1 place 0 0 0

end Code

/-! ## 3. Symbols -/

/-- The least length of each length symbol, and its number of further bits. -/
def lengthTable : Array (Nat × Nat) := #[
  (3, 0), (4, 0), (5, 0), (6, 0), (7, 0), (8, 0), (9, 0), (10, 0), (11, 1), (13, 1), (15, 1),
  (17, 1), (19, 2), (23, 2), (27, 2), (31, 2), (35, 3), (43, 3), (51, 3), (59, 3), (67, 4), (83, 4),
  (99, 4), (115, 4), (131, 5), (163, 5), (195, 5), (227, 5), (258, 0)]

/-- The least distance of each distance symbol, and its number of further bits. -/
def distanceTable : Array (Nat × Nat) := #[
  (1, 0), (2, 0), (3, 0), (4, 0), (5, 1), (7, 1), (9, 2), (13, 2), (17, 3), (25, 3), (33, 4), (49, 4),
  (65, 5), (97, 5), (129, 6), (193, 6), (257, 7), (385, 7), (513, 8), (769, 8), (1025, 9), (1537, 9),
  (2049, 10), (3073, 10), (4097, 11), (6145, 11), (8193, 12), (12289, 12), (16385, 13), (24577, 13)]

/-- The value of a symbol of a table with its further bits, and the place behind them. -/
def extended? (table : Array (Nat × Nat)) (data : ByteArray) (symbol place : Nat) :
    Option (Nat × Nat) :=
  match table[symbol]? with
  | none => none
  | some (least, n) => (bits? data place n).map fun more => (least + more, place + n)

/-- `n` bytes more, each the one that stands `distance` before its place. -/
def copyBack (distance : Nat) : (n : Nat) → ByteArray → ByteArray
  | 0, out => out
  | n + 1, out => copyBack distance n (out.push (byteAt out (out.size - distance)))

/-- The symbols of a block up to its end. Each takes at least one bit, so `fuel` is the number of
    bits. -/
def readSymbols? (lengths distances : Code) (data : ByteArray) :
    (fuel place : Nat) → ByteArray → Option (Nat × ByteArray)
  | 0, _, _ => none
  | fuel + 1, place, out =>
    match lengths.read? data place with
    | none => none
    | some (s, place) =>
      if s < 256 then readSymbols? lengths distances data fuel place (out.push (UInt8.ofNat s))
      else if s = 256 then some (place, out)
      else
        match extended? lengthTable data (s - 257) place with
        | none => none
        | some (n, place) =>
          match distances.read? data place with
          | none => none
          | some (d, place) =>
            match extended? distanceTable data d place with
            | none => none
            | some (distance, place) =>
              if out.size < distance then none
              else readSymbols? lengths distances data fuel place (copyBack distance n out)

/-! ## 4. Blocks -/

/-- The codes that need not be written. -/
def fixedLengths? : Option Code :=
  Code.ofLengths? (List.replicate 144 8 ++ List.replicate 112 9 ++ List.replicate 24 7 ++
    List.replicate 8 8) false

def fixedDistances? : Option Code := Code.ofLengths? (List.replicate 32 5) false

/-- The order in which the lengths of the code for lengths are written. -/
def lengthOrder : List Nat := [16, 17, 18, 0, 8, 7, 9, 6, 10, 5, 11, 4, 12, 3, 13, 2, 14, 1, 15]

/-- `total` code lengths, read backwards, and the place behind them. -/
def readLengths? (c : Code) (data : ByteArray) (total : Nat) :
    (fuel place : Nat) → List Nat → Option (List Nat × Nat)
  | 0, _, _ => none
  | fuel + 1, place, done =>
    if total < done.length then none
    else if done.length = total then some (done, place)
    else
      match c.read? data place with
      | none => none
      | some (s, place) =>
        if s < 16 then readLengths? c data total fuel place (s :: done)
        else
          let (value, least, n) :=
            if s = 16 then (done.head?, 3, 2) else (some 0, if s = 17 then (3, 3) else (11, 7))
          match value, bits? data place n with
          | some v, some more =>
            readLengths? c data total fuel (place + n) (List.replicate (least + more) v ++ done)
          | _, _ => none

/-- The codes that a block begins with, and the place behind them. -/
def readCodes? (data : ByteArray) (place : Nat) : Option (Code × Code × Nat) := do
  let lengths := (← bits? data place 5) + 257
  let distances := (← bits? data (place + 5) 5) + 1
  let count := (← bits? data (place + 10) 4) + 4
  if 286 < lengths ∨ 30 < distances then none
  let place := place + 14
  let given ← (List.range count).mapM fun i => bits? data (place + 3 * i) 3
  let pairs := lengthOrder.zip given
  let code ← Code.ofLengths? ((List.range 19).map fun s => (pairs.lookup s).getD 0) false
  let total := lengths + distances
  let (all, place) ← readLengths? code data total (total + 1) (place + 3 * count) []
  let all := all.reverse
  if all.getD 256 0 = 0 then none
  let lengthCode ← Code.ofLengths? (all.take lengths) false
  let distanceCode ← Code.ofLengths? (all.drop lengths) true
  some (lengthCode, distanceCode, place)

/-- The bytes of a stored block, and the place behind them. -/
def readStored? (data : ByteArray) (place : Nat) (out : ByteArray) : Option (Nat × ByteArray) :=
  let start := (place + 7) / 8
  match Binary.le? data start 2, Binary.le? data (start + 2) 2 with
  | some n, some check =>
    if n + check = 65535 ∧ start + 4 + n ≤ data.size then
      some (8 * (start + 4 + n), out ++ data.extract (start + 4) (start + 4 + n))
    else none
  | _, _ => none

/-- The blocks from a place on. Each takes at least one bit, so `fuel` is the number of bits. -/
def readBlocks? (data : ByteArray) : (fuel place : Nat) → ByteArray → Option (Nat × ByteArray)
  | 0, _, _ => none
  | fuel + 1, place, out =>
    match bits? data place 1, bits? data (place + 1) 2 with
    | some final, some type =>
      let place := place + 3
      let limit := 8 * data.size + 1
      let read :=
        match type with
        | 0 => readStored? data place out
        | 1 =>
          match fixedLengths?, fixedDistances? with
          | some lengths, some distances => readSymbols? lengths distances data limit place out
          | _, _ => none
        | 2 =>
          match readCodes? data place with
          | some (lengths, distances, place) =>
            readSymbols? lengths distances data limit place out
          | none => none
        | _ => none
      match read with
      | none => none
      | some (place, out) => if final = 1 then some (place, out) else readBlocks? data fuel place out
    | _, _ => none

/-- The bytes that compressed data stands for. -/
def inflate? (data : ByteArray) : Option ByteArray :=
  match Binary.be? data 0 2 with
  | none => none
  | some head =>
    -- method 8, a window of at most 2 ^ 15 bytes, no dictionary
    if head % 31 ≠ 0 ∨ head / 256 % 16 ≠ 8 ∨ 7 < head / 4096 ∨ head / 32 % 2 ≠ 0 then none
    else
      match readBlocks? data (8 * data.size) 16 ByteArray.empty with
      | none => none
      | some (place, out) => if (place + 7) / 8 + 4 ≤ data.size then some out else none

/-! ## 5. Writing -/

/-- The most bytes of a stored block. -/
def blockSize : Nat := 65535

/-- Stored blocks for the bytes from a place on, `n` of them before the last. -/
def storeBlocks (data : ByteArray) : (n place : Nat) → ByteArray → ByteArray
  | 0, place, out =>
    let size := data.size - place
    out ++ Binary.bytes (1 :: (Binary.le size 2 ++ Binary.le (65535 - size) 2)) ++
      data.extract place data.size
  | n + 1, place, out =>
    storeBlocks data n (place + blockSize)
      (out ++ Binary.bytes (0 :: (Binary.le blockSize 2 ++ Binary.le 0 2)) ++
        data.extract place (place + blockSize))

/-- Compressed data that stands for the bytes. -/
def deflate (data : ByteArray) : ByteArray :=
  storeBlocks data ((data.size - 1) / blockSize) 0 (Binary.bytes [0x78, 0x01]) ++
    Binary.bytes (Binary.be (Binary.adler32 data).toNat 4)

end Vignette.Deflate

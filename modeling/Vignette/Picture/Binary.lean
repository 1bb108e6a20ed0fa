/-!
# Numbers in bytes, and check sums

Encoded pictures hold numbers of several bytes, with the highest byte first (`be`) or the lowest
(`le`), and check sums over their parts. Reading past the end of the bytes gives nothing.
-/

namespace Vignette.Binary

/-! ## 1. Numbers -/

/-- `n` bytes from place `i` on as a number, the highest byte first. -/
def be? (data : ByteArray) (i : Nat) : (n : Nat) → Option Nat
  | 0 => some 0
  | n + 1 =>
    match be? data i n, data[i + n]? with
    | some high, some b => some (high * 256 + b.toNat)
    | _, _ => none

/-- `n` bytes from place `i` on as a number, the lowest byte first. -/
def le? (data : ByteArray) (i : Nat) : (n : Nat) → Option Nat
  | 0 => some 0
  | n + 1 =>
    match data[i]?, le? data (i + 1) n with
    | some b, some high => some (b.toNat + 256 * high)
    | _, _ => none

/-- The lowest `n` bytes of a number, the highest of them first. -/
def be (value : Nat) : (n : Nat) → List UInt8
  | 0 => []
  | n + 1 => be (value / 256) n ++ [UInt8.ofNat value]

/-- The lowest `n` bytes of a number, the lowest first. -/
def le (value : Nat) : (n : Nat) → List UInt8
  | 0 => []
  | n + 1 => UInt8.ofNat value :: le (value / 256) n

/-- The byte at a place; zero past the end. -/
@[inline] def byteAt (data : ByteArray) (i : Nat) : UInt8 := if h : i < data.size then data[i] else 0

/-- Bytes as an array. -/
def bytes (bs : List UInt8) : ByteArray := ⟨bs.toArray⟩

/-- The bytes of an ASCII text. -/
def ascii (s : String) : List UInt8 := s.toUTF8.toList

/-! ## 2. Check sums -/

/-- One bit of a cyclic redundancy check. -/
@[inline] def crcBit (c : UInt32) : UInt32 :=
  if c &&& 1 = 1 then (c >>> 1) ^^^ 0xEDB88320 else c >>> 1

/-- The eight bits of a byte. -/
def crcByte (c : UInt32) : UInt32 :=
  crcBit (crcBit (crcBit (crcBit (crcBit (crcBit (crcBit (crcBit c)))))))

/-- The changes that the 256 bytes make. -/
def crcTable : Array UInt32 := (Array.range 256).map fun i => crcByte (UInt32.ofNat i)

/-- The check over `n` bytes from place `i` on, begun with `c`. -/
def crcFrom (data : ByteArray) : (n i : Nat) → UInt32 → UInt32
  | 0, _, c => c
  | n + 1, i, c =>
    let k := ((c ^^^ (byteAt data i).toUInt32) &&& 0xFF).toNat
    crcFrom data n (i + 1) (crcTable.getD k 0 ^^^ (c >>> 8))

/-- The cyclic redundancy check over `n` bytes from place `i` on. -/
def crc32 (data : ByteArray) (i n : Nat) : UInt32 := crcFrom data n i 0xFFFFFFFF ^^^ 0xFFFFFFFF

/-- The two sums over `n` bytes from place `i` on. -/
def adlerFrom (data : ByteArray) : (n i : Nat) → (a b : UInt32) → UInt32
  | 0, _, a, b => (b <<< 16) ||| a
  | n + 1, i, a, b =>
    let a := (a + (byteAt data i).toUInt32) % 65521
    adlerFrom data n (i + 1) a ((b + a) % 65521)

/-- The check sum over all bytes that ends compressed data. -/
def adler32 (data : ByteArray) : UInt32 := adlerFrom data data.size 0 1 0

end Vignette.Binary

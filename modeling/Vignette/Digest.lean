import Vignette.Text.Hex

/-!
# SHA-256

The hash that names things by their content. A message is padded to whole blocks of 64 bytes (a one
bit, zeros, and its length in bits as eight bytes); the state of eight words is compressed with
one block after the other; the digest is the last state, written as 64 hexadecimal digits.

The READING: `sha256` answers the eight words, `hexDigits` their digits. `length_hexDigits` counts
the digits, so a digest is never shorter or longer than a key.
-/

namespace Vignette.Digest

/-! ## 1. Words -/

/-- A word turned right by `n` places, `0 < n < 32`. -/
@[inline] def turn (x n : UInt32) : UInt32 := (x >>> n) ||| (x <<< (32 - n))

@[inline] def bigSigma0 (x : UInt32) : UInt32 := turn x 2 ^^^ turn x 13 ^^^ turn x 22

@[inline] def bigSigma1 (x : UInt32) : UInt32 := turn x 6 ^^^ turn x 11 ^^^ turn x 25

@[inline] def smallSigma0 (x : UInt32) : UInt32 := turn x 7 ^^^ turn x 18 ^^^ (x >>> 3)

@[inline] def smallSigma1 (x : UInt32) : UInt32 := turn x 17 ^^^ turn x 19 ^^^ (x >>> 10)

/-- Each bit of `e` chooses between the bits of `f` and `g`. -/
@[inline] def choose (e f g : UInt32) : UInt32 := (e &&& f) ^^^ ((~~~e) &&& g)

/-- The majority of three bits, at each place. -/
@[inline] def majority (a b c : UInt32) : UInt32 := (a &&& b) ^^^ (a &&& c) ^^^ (b &&& c)

/-- The constants of the 64 rounds: the first 32 bits of the fractions of the cube roots of the
    first 64 primes. -/
def roundConstants : Array UInt32 := #[
  0x428a2f98, 0x71374491, 0xb5c0fbcf, 0xe9b5dba5, 0x3956c25b, 0x59f111f1, 0x923f82a4, 0xab1c5ed5,
  0xd807aa98, 0x12835b01, 0x243185be, 0x550c7dc3, 0x72be5d74, 0x80deb1fe, 0x9bdc06a7, 0xc19bf174,
  0xe49b69c1, 0xefbe4786, 0x0fc19dc6, 0x240ca1cc, 0x2de92c6f, 0x4a7484aa, 0x5cb0a9dc, 0x76f988da,
  0x983e5152, 0xa831c66d, 0xb00327c8, 0xbf597fc7, 0xc6e00bf3, 0xd5a79147, 0x06ca6351, 0x14292967,
  0x27b70a85, 0x2e1b2138, 0x4d2c6dfc, 0x53380d13, 0x650a7354, 0x766a0abb, 0x81c2c92e, 0x92722c85,
  0xa2bfe8a1, 0xa81a664b, 0xc24b8b70, 0xc76c51a3, 0xd192e819, 0xd6990624, 0xf40e3585, 0x106aa070,
  0x19a4c116, 0x1e376c08, 0x2748774c, 0x34b0bcb5, 0x391c0cb3, 0x4ed8aa4a, 0x5b9cca4f, 0x682e6ff3,
  0x748f82ee, 0x78a5636f, 0x84c87814, 0x8cc70208, 0x90befffa, 0xa4506ceb, 0xbef9a3f7, 0xc67178f2]

/-- The state of the hash: eight words. -/
structure State where
  a : UInt32
  b : UInt32
  c : UInt32
  d : UInt32
  e : UInt32
  f : UInt32
  g : UInt32
  h : UInt32
  deriving DecidableEq, Repr

/-- The state before the first block. -/
def State.initial : State :=
  ⟨0x6a09e667, 0xbb67ae85, 0x3c6ef372, 0xa54ff53a, 0x510e527f, 0x9b05688c, 0x1f83d9ab, 0x5be0cd19⟩

/-! ## 2. One block -/

/-- The byte at a place of the message; zero past its end. -/
@[inline] def byteAt (m : ByteArray) (i : Nat) : UInt32 :=
  if h : i < m.size then m[i].toUInt32 else 0

/-- The four bytes from a place on as a word, the first byte highest. -/
@[inline] def wordAt (m : ByteArray) (i : Nat) : UInt32 :=
  (byteAt m i <<< 24) ||| (byteAt m (i + 1) <<< 16) ||| (byteAt m (i + 2) <<< 8) ||| byteAt m (i + 3)

/-- The first `n` words of a block, pushed to a schedule. -/
def loadWords (m : ByteArray) (start : Nat) : (n : Nat) → Array UInt32 → Array UInt32
  | 0, w => w
  | n + 1, w => loadWords m (start + 4) n (w.push (wordAt m start))

/-- `n` more words of a schedule, each from four before it. -/
def extendWords : (n : Nat) → Array UInt32 → Array UInt32
  | 0, w => w
  | n + 1, w =>
    let i := w.size
    extendWords n (w.push (smallSigma1 (w.getD (i - 2) 0) + w.getD (i - 7) 0 +
      smallSigma0 (w.getD (i - 15) 0) + w.getD (i - 16) 0))

/-- The last `n` of the 64 rounds. -/
def rounds (w : Array UInt32) : (n : Nat) → (a b c d e f g h : UInt32) → State
  | 0, a, b, c, d, e, f, g, h => ⟨a, b, c, d, e, f, g, h⟩
  | n + 1, a, b, c, d, e, f, g, h =>
    let i := 63 - n
    let t1 := h + bigSigma1 e + choose e f g + roundConstants.getD i 0 + w.getD i 0
    let t2 := bigSigma0 a + majority a b c
    rounds w n (t1 + t2) a b c (d + t1) e f g

/-- The state after the block that starts at `start`. -/
def compress (s : State) (m : ByteArray) (start : Nat) : State :=
  let w := extendWords 48 (loadWords m start 16 (Array.mkEmpty 64))
  let r := rounds w 64 s.a s.b s.c s.d s.e s.f s.g s.h
  ⟨s.a + r.a, s.b + r.b, s.c + r.c, s.d + r.d, s.e + r.e, s.f + r.f, s.g + r.g, s.h + r.h⟩

/-! ## 3. A whole message -/

/-- The lowest `n` bytes of a number, the highest of them first, at the end of `m`. -/
def pushBigEndian (value : Nat) : (n : Nat) → ByteArray → ByteArray
  | 0, m => m
  | n + 1, m => pushBigEndian value n (m.push (UInt8.ofNat (value / Nat.pow 256 n)))

/-- `n` zero bytes at the end of `m`. -/
def pushZeros : (n : Nat) → ByteArray → ByteArray
  | 0, m => m
  | n + 1, m => pushZeros n (m.push 0)

/-- The message, filled up to whole blocks. -/
def pad (m : ByteArray) : ByteArray :=
  pushBigEndian (8 * m.size) 8 (pushZeros ((119 - m.size % 64) % 64) (m.push 0x80))

/-- The state after `n` blocks from `start` on. -/
def compressAll (m : ByteArray) : (n start : Nat) → State → State
  | 0, _, s => s
  | n + 1, start, s => compressAll m n (start + 64) (compress s m start)

/-- The hash of a message. -/
def sha256 (m : ByteArray) : State :=
  let p := pad m
  compressAll p (p.size / 64) 0 State.initial

/-! ## 4. Digits -/

/-- The eight digits of a word, highest first. -/
def wordDigits (x : UInt32) : List Char :=
  [28, 24, 20, 16, 12, 8, 4, 0].map fun k =>
    Text.hexDigit (x.toNat / Nat.pow 2 k % 16)

/-- The 64 digits of a hash. -/
def hexDigits (s : State) : List Char :=
  [s.a, s.b, s.c, s.d, s.e, s.f, s.g, s.h].flatMap wordDigits

@[simp] theorem length_wordDigits (x : UInt32) : (wordDigits x).length = 8 := by
  simp [wordDigits]

/-- **A hash has 64 digits.** -/
@[simp] theorem length_hexDigits (s : State) : (hexDigits s).length = 64 := by
  simp [hexDigits]

/-- Is the character a digit that a hash is written with? -/
def isDigit (c : Char) : Bool := ('0' ≤ c && c ≤ '9') || ('a' ≤ c && c ≤ 'f')

theorem isDigit_hexDigit : ∀ n : Fin 16, isDigit (Text.hexDigit n.val) = true := by decide

/-- Every character of a written hash is a lower-case hexadecimal digit. -/
theorem isDigit_of_mem_hexDigits {s : State} {c : Char} (h : c ∈ hexDigits s) :
    isDigit c = true := by
  simp only [hexDigits, List.mem_flatMap, wordDigits, List.mem_map] at h
  obtain ⟨_, _, _, _, rfl⟩ := h
  exact isDigit_hexDigit ⟨_, Nat.mod_lt _ (by decide)⟩

end Vignette.Digest

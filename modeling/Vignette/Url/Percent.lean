import Vignette.Text.Hex
import Vignette.Text.Utf8

/-!
# Percent-encoding

A byte that may not stand in some part of a URL is written as a percent sign and two hexadecimal
digits. Which characters may not stand there depends on the part: the sets below grow from one to
the next. A character beyond ASCII is encoded everywhere, byte by byte of its UTF-8 form.

Reading is generous: a percent sign without two digits behind it stands for itself.
-/

namespace Vignette.Url

/-! ## 1. Sets -/

/-- The characters that are encoded everywhere. -/
def isControl (c : Char) : Bool := c.toNat < 0x20 || 0x7E < c.toNat

/-- The characters that are encoded in a fragment. -/
def inFragmentSet (c : Char) : Bool := isControl c || [' ', '"', '<', '>', '\x60'].contains c

/-- The characters that are encoded in a path. -/
def inPathSet (c : Char) : Bool := inFragmentSet c || ['#', '?', '\x7b', '\x7d'].contains c

/-- The characters that are encoded in a user name and a password. -/
def inUserinfoSet (c : Char) : Bool :=
  inPathSet c || ['/', ':', ';', '=', '@', '[', '\\', ']', '^', '|'].contains c

/-- The characters that are encoded in a query. -/
def inQuerySet (c : Char) : Bool := isControl c || [' ', '"', '#', '<', '>'].contains c

/-- The characters that are encoded in the query of a special scheme. -/
def inSpecialQuerySet (c : Char) : Bool := inQuerySet c || c == '\x27'

/-! ## 2. Writing -/

/-- The upper-case digit of a half byte. -/
def upperDigit (n : Nat) : Char := if n < 10 then Char.ofNat (48 + n) else Char.ofNat (55 + n)

/-- A byte as it is encoded. -/
def percentByte (b : UInt8) : List Char := ['%', upperDigit (b.toNat / 16), upperDigit (b.toNat % 16)]

/-- A text with the characters of a set encoded. -/
def percentEncode (set : Char → Bool) (s : List Char) : List Char :=
  s.flatMap fun c => if set c then (Text.encodeUtf8 [c]).flatMap percentByte else [c]

/-! ## 3. Reading -/

/-- The byte that a percent sign and the two digits behind it stand for. -/
def escaped? (b : UInt8) (rest : List UInt8) : Option UInt8 :=
  match rest with
  | h :: l :: _ =>
    if b = 0x25 then
      match Text.hexDigitValue? (Char.ofNat h.toNat), Text.hexDigitValue? (Char.ofNat l.toNat) with
      | some x, some y => some (UInt8.ofNat (16 * x + y))
      | _, _ => none
    else none
  | _ => none

/-- Percent-decoding behind an escape of which `skip` bytes are left. -/
def percentDecodeFrom : (skip : Nat) → List UInt8 → List UInt8
  | _, [] => []
  | skip + 1, _ :: rest => percentDecodeFrom skip rest
  | 0, b :: rest =>
    match escaped? b rest with
    | some x => x :: percentDecodeFrom 2 rest
    | none => b :: percentDecodeFrom 0 rest

/-- The bytes that a run of bytes with percent signs stands for. -/
def percentDecode (bytes : List UInt8) : List UInt8 := percentDecodeFrom 0 bytes

@[simp] theorem percentDecode_nil : percentDecode [] = [] := rfl

end Vignette.Url

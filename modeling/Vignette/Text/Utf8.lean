/-!
# Text from bytes that may be no text

`decodeUtf8` reads bytes as UTF-8. Where the bytes are no UTF-8 it puts U+FFFD: one for each maximal
part that starts like a character and breaks off, and one for each byte that starts nothing. This
is the substitution of the Unicode standard (section 3.9, best practice), and it is what form data
is decoded with.

The table of well-formed sequences limits the second byte; `leadByte?` is that table.
-/

namespace Vignette.Text

/-- The replacement character. -/
def replacement : Char := '\ufffd'

/-- The number of bytes behind this first byte of a sequence, the bits that the first byte
    contributes, and the range that the second byte must lie in; `none` for a byte that starts
    nothing. -/
def leadByte? (b : UInt8) : Option (Nat × Nat × Nat × Nat) :=
  let n := b.toNat
  if n < 0xC2 then none
  else if n < 0xE0 then some (1, n - 0xC0, 0x80, 0xBF)
  else if n = 0xE0 then some (2, 0, 0xA0, 0xBF)
  else if n = 0xED then some (2, 0xD, 0x80, 0x9F)
  else if n < 0xF0 then some (2, n - 0xE0, 0x80, 0xBF)
  else if n = 0xF0 then some (3, 0, 0x90, 0xBF)
  else if n < 0xF4 then some (3, n - 0xF0, 0x80, 0xBF)
  else if n = 0xF4 then some (3, 4, 0x80, 0x8F)
  else none

/-- Reads up to `more` further bytes of a sequence, the next one within `lo` and `hi`. The answer is
    the character (or the replacement, if the sequence breaks off) and the bytes after it. -/
def continueUtf8 : (more acc lo hi : Nat) → List UInt8 → Char × List UInt8
  | 0, acc, _, _, bs => (Char.ofNat acc, bs)
  | _ + 1, _, _, _, [] => (replacement, [])
  | more + 1, acc, lo, hi, b :: bs =>
    if lo ≤ b.toNat ∧ b.toNat ≤ hi then
      continueUtf8 more (64 * acc + (b.toNat - 0x80)) 0x80 0xBF bs
    else (replacement, b :: bs)

theorem continueUtf8_length : ∀ (more acc lo hi : Nat) (bs : List UInt8),
    (continueUtf8 more acc lo hi bs).2.length ≤ bs.length
  | 0, _, _, _, _ => by simp [continueUtf8]
  | _ + 1, _, _, _, [] => by simp [continueUtf8]
  | more + 1, acc, lo, hi, b :: bs => by
    unfold continueUtf8
    split
    · have := continueUtf8_length more (64 * acc + (b.toNat - 0x80)) 0x80 0xBF bs
      simp only [List.length_cons]
      omega
    · simp

/-- The characters of a run of bytes, with U+FFFD where the bytes are no UTF-8. -/
def decodeUtf8 : List UInt8 → List Char
  | [] => []
  | b :: bs =>
    if b.toNat < 0x80 then Char.ofNat b.toNat :: decodeUtf8 bs
    else
      match leadByte? b with
      | none => replacement :: decodeUtf8 bs
      | some (more, acc, lo, hi) =>
        (continueUtf8 more acc lo hi bs).1 :: decodeUtf8 (continueUtf8 more acc lo hi bs).2
termination_by bs => bs.length
decreasing_by
  all_goals simp_wf
  have := continueUtf8_length more acc lo hi bs
  omega

/-- The UTF-8 bytes of a text. -/
def encodeUtf8 (s : List Char) : List UInt8 := (String.ofList s).toUTF8.toList

end Vignette.Text

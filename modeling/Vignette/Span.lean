import Vignette.Text.Decimal

/-!
# Spans of time

A span is a number of seconds of 64 bits and a number of nanoseconds below one thousand million.
It has two texts:

* `exactText` shows all of it, in the largest unit that leaves a whole part: `1.5s`, `400ms`,
  `20µs`, `7ns`; zeros at the end of the fraction are left out;
* `roughText` is for people who waited: `1m 5s`, `1.5s` (tenths, cut off), `250ms`.
-/

namespace Vignette

/-- A length of time. -/
structure Span where
  seconds : UInt64
  nanos : Fin 1000000000
  deriving DecidableEq, Repr

namespace Span

/-- No time at all. -/
def zero : Span := ⟨0, 0⟩

/-- A whole number of seconds. -/
def ofSeconds (n : UInt64) : Span := ⟨n, 0⟩

/-- The span of a number of nanoseconds. -/
def ofNanoseconds (n : Nat) : Span :=
  ⟨UInt64.ofNat (n / 1000000000), ⟨n % 1000000000, Nat.mod_lt _ (by decide)⟩⟩

/-- The whole span in nanoseconds. -/
def nanoseconds (s : Span) : Nat := s.seconds.toNat * 1000000000 + s.nanos.val

/-- Is the span no time at all? -/
def isZero (s : Span) : Bool := s == zero

/-- The digits of a fraction below one, `places` of them, without the zeros at the end. -/
def fractionDigits (value places : Nat) : List Char :=
  let ds := Text.decimal value
  let padded := List.replicate (places - ds.length) '0' ++ ds
  (padded.reverse.dropWhile (· == '0')).reverse

/-- A whole part and a fraction of `places` digits, with a unit behind. -/
def withFraction (whole value places : Nat) (unit : String) : String :=
  match fractionDigits value places with
  | [] => Text.decimalText whole ++ unit
  | ds => Text.decimalText whole ++ "." ++ String.ofList ds ++ unit

/-- The whole span, in the largest unit that leaves a whole part. -/
def exactText (s : Span) : String :=
  let n := s.nanos.val
  if s.seconds ≠ 0 then withFraction s.seconds.toNat n 9 "s"
  else if 1000000 ≤ n then withFraction (n / 1000000) (n % 1000000) 6 "ms"
  else if 1000 ≤ n then withFraction (n / 1000) (n % 1000) 3 "µs"
  else Text.decimalText n ++ "ns"

/-- The span for people who waited. -/
def roughText (s : Span) : String :=
  let total := s.seconds.toNat
  let minutes := total / 60
  let seconds := total % 60
  let millis := s.nanos.val / 1000000
  if 0 < minutes then s!"{minutes}m {seconds}s"
  else if 0 < seconds then s!"{seconds}.{millis / 100}s"
  else s!"{millis}ms"

/-- A span is no time at all just if it has no nanosecond. -/
theorem isZero_iff {s : Span} : s.isZero = true ↔ s.nanoseconds = 0 := by
  rw [isZero, beq_iff_eq]
  constructor
  · rintro rfl
    rfl
  · intro h
    obtain ⟨seconds, nanos⟩ := s
    have hs : seconds.toNat * 1000000000 + nanos.val = 0 := h
    have hseconds : seconds = 0 := UInt64.toNat_inj.mp (show seconds.toNat = 0 by omega)
    have hnanos : nanos = 0 := Fin.ext (show nanos.val = 0 by omega)
    rw [hseconds, hnanos]
    rfl

end Span

end Vignette

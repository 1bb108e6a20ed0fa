import Vignette.Proofs.Text.Numeral
import Vignette.Size

/-!
# The written form of a size

The form is said as a grammar (`Size.Form`): within white space two numbers with white space around
them, and between them the first `x` of either case. Every text either has the form or has not, and the
numbers decide about the rest: below 2^32 they make a size, and from 8193 on the size is refused by name.

Main statement: **a text is read as a size just if it has the form with numbers up to 8192; it is refused
as too large just if it has the form of a size and one number is above; every other text is quoted as
malformed** (`parse_iff_form`).
-/

namespace Vignette.Size

open Text (IsMiddle Numeral Number trim trim_eq_iff)

/-! ## 1. The form -/

/-- Within white space: a number, an `x` of either case that is the first, a number; and white space
    around both numbers. -/
inductive Form (s : List Char) (w h : Nat) : Prop
  | intro (a b a' b' : List Char) (x : Char) (hx : x = 'x' ∨ x = 'X') (hfirst : 'x' ∉ a ∧ 'X' ∉ a)
    (hs : IsMiddle s (a ++ x :: b)) (ha : IsMiddle a a') (hw : Number a' w) (hb : IsMiddle b b')
    (hh : Number b' h)

section Form

variable {s : List Char}

theorem isCross_iff {c : Char} : isCross c = true ↔ c = 'x' ∨ c = 'X' := by
  rw [isCross, Bool.or_eq_true, beq_iff_eq, beq_iff_eq]

theorem isCross_eq_false_iff {a : List Char} :
    (∀ c ∈ a, isCross c = false) ↔ 'x' ∉ a ∧ 'X' ∉ a := by
  constructor
  · intro h
    exact ⟨fun hx => absurd (h 'x' hx) (by decide), fun hx => absurd (h 'X' hx) (by decide)⟩
  · rintro ⟨hsmall, hlarge⟩ c hc
    rw [← Bool.not_eq_true, isCross_iff]
    rintro (rfl | rfl)
    · exact hsmall hc
    · exact hlarge hc

/-- **A dimension is read as the number in its middle, if that fits.** -/
theorem readDimension?_eq_some_iff {w : UInt32} :
    readDimension? s = some w ↔ ∃ t, IsMiddle s t ∧ Number t w.toNat := by
  rw [readDimension?, Option.map_eq_some_iff]
  constructor
  · rintro ⟨n, hn, rfl⟩
    obtain ⟨hnumber, hlt⟩ := Text.readBelow?_eq_some_iff.mp hn
    refine ⟨trim s, Text.isMiddle_trim s, ?_⟩
    rwa [UInt32.toNat_ofNat_of_lt' hlt]
  · rintro ⟨t, ht, hnumber⟩
    refine ⟨w.toNat, Text.readBelow?_eq_some_iff.mpr ⟨?_, w.toNat_lt⟩, UInt32.ofNat_toNat⟩
    rwa [Text.trim_of_isMiddle ht]

/-- **What is read has the form, and what has the form is read if both numbers fit.** -/
theorem read?_eq_some_iff {size : Size} :
    read? s = some size ↔ Form s size.width.toNat size.height.toNat := by
  constructor
  · intro h
    unfold read? at h
    split at h
    · cases h
    · rename_i a x b hspan
      obtain ⟨hs, hx, ha⟩ := Text.span_not_eq_iff.mp hspan
      split at h
      · rename_i w height hw hh
        cases h
        obtain ⟨a', ha', hw'⟩ := readDimension?_eq_some_iff.mp hw
        obtain ⟨b', hb', hh'⟩ := readDimension?_eq_some_iff.mp hh
        exact ⟨a, b, a', b', x, isCross_iff.mp hx, isCross_eq_false_iff.mp ha, trim_eq_iff.mp hs,
          ha', hw', hb', hh'⟩
      · cases h
  · rintro ⟨a, b, a', b', x, hx, hfirst, hs, ha, hw, hb, hh⟩
    have hspan := Text.span_not_eq_iff.mpr
      ⟨Text.trim_of_isMiddle hs, isCross_iff.mpr hx, isCross_eq_false_iff.mpr hfirst⟩
    have hwidth := readDimension?_eq_some_iff.mpr ⟨a', ha, hw⟩
    have hheight := readDimension?_eq_some_iff.mpr ⟨b', hb, hh⟩
    simp only [read?, hspan, hwidth, hheight]

/-- A text that is not read has the form of no size. -/
theorem read?_eq_none_iff :
    read? s = none ↔ ∀ w h, w < UInt32.size → h < UInt32.size → ¬ Form s w h := by
  constructor
  · intro hnone w h hw hh hform
    have hsize : read? s = some ⟨UInt32.ofNat w, UInt32.ofNat h⟩ := by
      rw [read?_eq_some_iff]
      dsimp only
      rwa [UInt32.toNat_ofNat_of_lt' hw, UInt32.toNat_ofNat_of_lt' hh]
    rw [hnone] at hsize
    cases hsize
  · intro hall
    cases hread : read? s with
    | none => rfl
    | some size =>
      exact absurd (read?_eq_some_iff.mp hread)
        (hall _ _ size.width.toNat_lt size.height.toNat_lt)

end Form

/-! ## 2. Display -/

/-- The digits of a number hold no `x`. -/
theorem isCross_digitChar : ∀ d : Fin 10, isCross (Nat.digitChar d) = false := by decide

theorem isCross_of_mem_decimal {n : Nat} {c : Char} (h : c ∈ Text.decimal n) : isCross c = false := by
  obtain ⟨d, rfl⟩ := Text.exists_digitChar ((Text.numeral_decimal n).isDigit c h)
  exact isCross_digitChar d

/-- The digits of a number are their own middle. -/
theorem isMiddle_decimal (n : Nat) : IsMiddle (Text.decimal n) (Text.decimal n) :=
  (Text.bare_of_forall (Text.numeral_decimal n).isBlank).isMiddle

/-- **The written form has the form.** -/
theorem form_write (size : Size) : Form size.write size.width.toNat size.height.toNat := by
  refine ⟨_, _, _, _, 'x', .inl rfl, isCross_eq_false_iff.mp fun c hc => isCross_of_mem_decimal hc, ?_,
    isMiddle_decimal _, .plain (Text.numeral_decimal _), isMiddle_decimal _,
    .plain (Text.numeral_decimal _)⟩
  refine (Text.bare_of_forall fun c hc => ?_).isMiddle
  rw [write, List.mem_append, List.mem_cons] at hc
  rcases hc with hc | rfl | hc
  · exact (Text.numeral_decimal _).isBlank c hc
  · decide
  · exact (Text.numeral_decimal _).isBlank c hc

/-! ## 3. Reading -/

theorem isOversized_eq_false_iff {size : Size} :
    size.isOversized = false ↔ size.width.toNat ≤ 8192 ∧ size.height.toNat ≤ 8192 := by
  rw [isOversized, Bool.or_eq_false_iff, decide_eq_false_iff_not, decide_eq_false_iff_not, Nat.not_lt,
    Nat.not_lt]
  rfl

/-- What becomes of a text that has the form: the numbers decide. -/
theorem parse_of_form {input : String} {size : Size}
    (h : Form input.toList size.width.toNat size.height.toNat) :
    parse input = if size.isOversized then .error (.tooLarge size) else .ok size := by
  rw [parse, read?_eq_some_iff.mpr h]

/-- A text that has the form with no numbers of 32 bits is malformed. -/
theorem parse_of_not_form {input : String}
    (h : ∀ w h, w < UInt32.size → h < UInt32.size → ¬ Form input.toList w h) :
    parse input = .error (.malformed input) := by
  rw [parse, read?_eq_none_iff.mpr h]

/-- A text has the form with numbers of 32 bits, and then of just one size, or it has not. -/
theorem form_or_not (s : List Char) : (∃ size : Size, Form s size.width.toNat size.height.toNat) ∨
    ∀ w h, w < UInt32.size → h < UInt32.size → ¬ Form s w h := by
  cases hread : read? s with
  | none => exact .inr (read?_eq_none_iff.mp hread)
  | some size => exact .inl ⟨size, read?_eq_some_iff.mp hread⟩

theorem parse_eq_ok_iff {input : String} {size : Size} :
    parse input = .ok size ↔ Form input.toList size.width.toNat size.height.toNat ∧
      size.width.toNat ≤ 8192 ∧ size.height.toNat ≤ 8192 := by
  constructor
  · intro h
    have hsmall := isOversized_eq_false_iff.mp (isOversized_of_parse h)
    rcases form_or_not input.toList with ⟨read, hform⟩ | hnone
    · rw [parse_of_form hform] at h
      split at h
      · cases h
      · cases h
        exact ⟨hform, hsmall⟩
    · rw [parse_of_not_form hnone] at h
      cases h
  · rintro ⟨hform, hsmall⟩
    rw [parse_of_form hform, isOversized_eq_false_iff.mpr hsmall, if_neg Bool.false_ne_true]

theorem parse_eq_error_iff {input : String} {e : ParseError} : parse input = .error e ↔
    (∃ size, Form input.toList size.width.toNat size.height.toNat ∧
      (8192 < size.width.toNat ∨ 8192 < size.height.toNat) ∧ e = .tooLarge size) ∨
    (∀ w h, w < UInt32.size → h < UInt32.size → ¬ Form input.toList w h) ∧ e = .malformed input := by
  constructor
  · intro h
    rcases form_or_not input.toList with ⟨size, hform⟩ | hnone
    · rw [parse_of_form hform] at h
      split at h
      · rename_i hlarge
        cases h
        exact .inl ⟨size, hform, isOversized_iff.mp hlarge, rfl⟩
      · cases h
    · rw [parse_of_not_form hnone] at h
      cases h
      exact .inr ⟨hnone, rfl⟩
  · rintro (⟨size, hform, hlarge, rfl⟩ | ⟨hnone, rfl⟩)
    · rw [parse_of_form hform, if_pos (isOversized_iff.mpr hlarge)]
    · exact parse_of_not_form hnone

theorem message_tooLarge (size : Size) : (ParseError.tooLarge size).message =
    "Size " ++ size.text ++ " exceeds the maximum dimension of 8192" := by
  have hlimit : " exceeds the maximum dimension of 8192" =
      " exceeds the maximum dimension of " ++ "8192" := by decide
  rw [hlimit, ← String.append_assoc]
  rfl

theorem message_malformed (input : String) :
    (ParseError.malformed input).message = "Invalid size: " ++ Text.quoted input := rfl

/-- **A text is read as a size just if it has the form with numbers up to 8192. It is refused as too
    large, with the size and the limit, just if it has the form with numbers below 2^32 of which one is
    above 8192; and it is quoted as malformed just if it has no such form. The written form of a size is
    read back just if the size is within the limit.** -/
theorem parse_iff_form (input : String) :
    (∀ size, parse input = .ok size ↔
      Form input.toList size.width.toNat size.height.toNat ∧
        size.width.toNat ≤ 8192 ∧ size.height.toNat ≤ 8192) ∧
    (∀ e, parse input = .error e ↔
      (∃ size, Form input.toList size.width.toNat size.height.toNat ∧
        (8192 < size.width.toNat ∨ 8192 < size.height.toNat) ∧ e = .tooLarge size) ∨
      (∀ w h, w < UInt32.size → h < UInt32.size → ¬ Form input.toList w h) ∧ e = .malformed input) ∧
    (∀ size, (ParseError.tooLarge size).message =
      "Size " ++ size.text ++ " exceeds the maximum dimension of 8192") ∧
    (ParseError.malformed input).message = "Invalid size: " ++ Text.quoted input ∧
    ∀ size, parse size.text = .ok size ↔ size.width.toNat ≤ 8192 ∧ size.height.toNat ≤ 8192 := by
  refine ⟨fun size => parse_eq_ok_iff, fun e => parse_eq_error_iff, message_tooLarge,
    message_malformed input, fun size => ?_⟩
  rw [parse_eq_ok_iff, text, String.toList_ofList]
  exact ⟨And.right, fun hsmall => ⟨form_write size, hsmall⟩⟩

/-- Only the first `x` cuts a text, so a second one is no part of a number. -/
example : parse " +0800 X\t600 " = .ok ⟨800, 600⟩ ∧ parse "8x6x4" = .error (.malformed "8x6x4") :=
  ⟨rfl, rfl⟩

end Vignette.Size

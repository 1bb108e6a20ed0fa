import Mathlib.Data.List.TakeWhile
import Vignette.Identity
import Vignette.Proofs.Text.Numeral

/-!
# The written form of a cookie

The form is said without a word about reading (`Cookie.Form`): what stands before the FIRST `=` has the name in
its middle, and everything behind that `=` is the value. So a value may hold further `=` and begin and end
with white space, and a name may hold white space but neither begin nor end with it.

Main statement: **a text is read as a cookie just if it has the form of one; it has the form of some cookie
just if there is an `=` and something else than white space before the first; a cookie is read back from its
written form just if its name is one that the form can have, and then so is every cookie that was read**
(`parse_iff_written`).
-/

namespace Vignette.Cookie

open Text (Bare IsMiddle isBlank trim)

/-! ## 1. The form -/

/-- A name in the middle of what stands before the first `=`, and a value behind it. -/
inductive Form (s name value : List Char) : Prop
  | intro (front : List Char) (hs : s = front ++ '=' :: value) (hfirst : '=' ∉ front)
    (hname : IsMiddle front name) (hne : name ≠ [])

/-- A name that a cookie can have: there is something of it, no `=` in it, no white space at its ends. -/
structure IsName (name : List Char) : Prop where
  ne_nil : name ≠ []
  no_sign : '=' ∉ name
  bare : Bare name

section Form

variable {s name value front : List Char}

/-- The cut at the first `=`. -/
theorem span_sign_eq_iff : s.span (· != '=') = (front, '=' :: value) ↔
    s = front ++ '=' :: value ∧ '=' ∉ front := by
  have hcut := Text.span_not_eq_iff (p := (· == '=')) (t := s) (a := front) (b := value) (x := '=')
  have hnone : (∀ c ∈ front, (c == '=') = false) ↔ '=' ∉ front := by
    simp only [beq_eq_false_iff_ne]
    exact ⟨fun h hm => h '=' hm rfl, fun h c hc he => h (he ▸ hc)⟩
  rw [← hnone]
  exact hcut.trans (by simp)

/-- What is behind the cut begins with the `=`. -/
theorem eq_sign_of_span {c : Char} (h : s.span (· != '=') = (front, c :: value)) : c = '=' := by
  have hcut := Text.span_not_eq_iff (p := (· == '=')) (t := s) (a := front) (b := value) (x := c)
  exact beq_iff_eq.mp (hcut.mp h).2.1

/-- **What is read has the form, and what has the form is read.** -/
theorem read?_eq_some_iff : read? s = some (name, value) ↔ Form s name value := by
  constructor
  · intro h
    unfold read? at h
    split at h
    · cases h
    · rename_i front c rest hspan
      obtain rfl : c = '=' := eq_sign_of_span hspan
      obtain ⟨hs, hfirst⟩ := span_sign_eq_iff.mp hspan
      split at h
      · cases h
      · rename_i hne
        cases h
        exact ⟨front, hs, hfirst, Text.isMiddle_trim front, hne⟩
  · rintro ⟨front, hs, hfirst, hname, hne⟩
    have hspan := span_sign_eq_iff.mpr ⟨hs, hfirst⟩
    have htrim : trim front = name := Text.trim_of_isMiddle hname
    simp only [read?, hspan, htrim, if_neg hne]

/-- A middle has something of it just if there is something else than white space. -/
theorem ne_nil_iff_of_isMiddle (h : IsMiddle front name) :
    name ≠ [] ↔ ∃ c ∈ front, isBlank c = false := by
  obtain ⟨hbare, before, behind, rfl, hbefore, hbehind⟩ := h
  constructor
  · intro hne
    obtain ⟨c, rest, rfl⟩ := List.exists_cons_of_ne_nil hne
    exact ⟨c, by simp, hbare.head c rfl⟩
  · rintro ⟨c, hc, hblank⟩ rfl
    rw [List.append_nil, List.mem_append] at hc
    rcases hc with hc | hc
    · exact absurd (hbefore c hc) (by rw [hblank]; exact Bool.false_ne_true)
    · exact absurd (hbehind c hc) (by rw [hblank]; exact Bool.false_ne_true)

/-- **A text has the form of some cookie just if there is an `=`, and something else than white space before
    the first.** -/
theorem exists_form_iff : (∃ name value, Form s name value) ↔
    '=' ∈ s ∧ ∃ c ∈ s.takeWhile (· != '='), isBlank c = false := by
  constructor
  · rintro ⟨name, value, front, hs, hfirst, hname, hne⟩
    have hspan := span_sign_eq_iff.mpr ⟨hs, hfirst⟩
    rw [List.span_eq_takeWhile_dropWhile, Prod.mk.injEq] at hspan
    refine ⟨by simp [hs], ?_⟩
    rw [hspan.1]
    exact (ne_nil_iff_of_isMiddle hname).mp hne
  · rintro ⟨hsign, hsome⟩
    cases hrest : s.dropWhile (· != '=') with
    | nil =>
      have hall := List.dropWhile_eq_nil_iff.mp hrest '=' hsign
      exact absurd hall (by decide)
    | cons c value =>
      have hspan : s.span (· != '=') = (s.takeWhile (· != '='), c :: value) := by
        rw [List.span_eq_takeWhile_dropWhile, hrest]
      obtain rfl : c = '=' := eq_sign_of_span hspan
      obtain ⟨hs, hfirst⟩ := span_sign_eq_iff.mp hspan
      have hname := Text.isMiddle_trim (s.takeWhile (· != '='))
      exact ⟨_, value, _, hs, hfirst, hname, (ne_nil_iff_of_isMiddle hname).mpr hsome⟩

/-- The name in a form is one that a cookie can have. -/
theorem Form.isName (h : Form s name value) : IsName name := by
  obtain ⟨front, -, hfirst, ⟨hbare, before, behind, rfl, -, -⟩, hne⟩ := h
  exact ⟨hne, fun hm => hfirst (by simp [hm]), hbare⟩

/-- **A name and a value with an `=` between them have the form just if the name is one that a cookie can
    have.** -/
theorem form_written_iff : Form (name ++ '=' :: value) name value ↔ IsName name :=
  ⟨Form.isName, fun h => ⟨name, rfl, h.no_sign, h.bare.isMiddle, h.ne_nil⟩⟩

end Form

/-! ## 2. Reading -/

section Parse

variable {s : String} {c : Cookie}

theorem parse_eq_ok_iff : parse s = .ok c ↔ Form s.toList c.name.toList c.value.toList := by
  rw [← read?_eq_some_iff]
  unfold parse
  cases hread : read? s.toList with
  | none => simp
  | some pair =>
    obtain ⟨name, value⟩ := pair
    obtain ⟨n, v⟩ := c
    simp [String.ext_iff]

theorem parse_eq_error_iff {e : Malformed} :
    parse s = .error e ↔ (¬ ∃ name value, Form s.toList name value) ∧ e = ⟨s⟩ := by
  simp only [← read?_eq_some_iff]
  unfold parse
  cases hread : read? s.toList with
  | none => simp [eq_comm]
  | some pair =>
    constructor
    · exact nofun
    · exact fun h => absurd ⟨pair.1, pair.2, rfl⟩ h.1

theorem toList_write (c : Cookie) : c.write.toList = c.name.toList ++ '=' :: c.value.toList := by
  simp [write]

/-- **A cookie is read back just if its name is one that a cookie can have.** -/
theorem parse_write_iff : parse c.write = .ok c ↔ IsName c.name.toList := by
  rw [parse_eq_ok_iff, toList_write, form_written_iff]

theorem isName_of_parse (h : parse s = .ok c) : IsName c.name.toList := (parse_eq_ok_iff.mp h).isName

theorem message_malformed (s : String) :
    (Malformed.mk s).message = "Invalid cookie " ++ Text.quoted s ++ ", expected NAME=VALUE" := rfl

/-- **A text is read as a cookie just if it has the form of that cookie, and it has the form of some cookie
    just if there is an `=` and something else than white space before the first. Every other text is refused
    and quoted. A cookie is read back from its written form just if its name is not empty, has no `=` in it and
    neither begins nor ends with white space, whatever its value is; and every cookie that was read is read
    back.** -/
theorem parse_iff_written (s : String) :
    (∀ c, parse s = .ok c ↔ Form s.toList c.name.toList c.value.toList) ∧
    ((∃ c, parse s = .ok c) ↔
      '=' ∈ s.toList ∧ ∃ x ∈ s.toList.takeWhile (· != '='), isBlank x = false) ∧
    (∀ e, parse s = .error e ↔
      ¬ ('=' ∈ s.toList ∧ ∃ x ∈ s.toList.takeWhile (· != '='), isBlank x = false) ∧ e = ⟨s⟩) ∧
    (Malformed.mk s).message = "Invalid cookie " ++ Text.quoted s ++ ", expected NAME=VALUE" ∧
    (∀ name value : String, parse (name ++ "=" ++ value) = .ok ⟨name, value⟩ ↔ IsName name.toList) ∧
    ∀ c, parse s = .ok c → parse (c.name ++ "=" ++ c.value) = .ok c := by
  refine ⟨fun c => parse_eq_ok_iff, ?_, fun e => ?_, message_malformed s,
    fun name value => parse_write_iff (c := ⟨name, value⟩),
    fun c h => parse_write_iff.mpr (isName_of_parse h)⟩
  · rw [← exists_form_iff]
    constructor
    · rintro ⟨c, h⟩
      exact ⟨_, _, parse_eq_ok_iff.mp h⟩
    · rintro ⟨name, value, h⟩
      refine ⟨⟨String.ofList name, String.ofList value⟩, parse_eq_ok_iff.mpr ?_⟩
      rwa [String.toList_ofList, String.toList_ofList]
  · rw [← exists_form_iff]
    exact parse_eq_error_iff

/-- White space around a name is no part of it, also where it is an ideographic space; the one inside it and
    all that is behind the `=` are kept, and so the cookie is read back. -/
theorem parse_padded :
    parse "\u3000a b\u2009= x=y " = .ok ⟨"a b", " x=y "⟩ ∧
      parse ("a b" ++ "=" ++ " x=y ") = .ok ⟨"a b", " x=y "⟩ := by
  have hread : parse "\u3000a b\u2009= x=y " = .ok ⟨"a b", " x=y "⟩ := rfl
  obtain ⟨-, -, -, -, -, hback⟩ := parse_iff_written "\u3000a b\u2009= x=y "
  exact ⟨hread, hback _ hread⟩

end Parse

end Vignette.Cookie

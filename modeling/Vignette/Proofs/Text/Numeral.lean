import Mathlib.Data.List.Induction
import Mathlib.Data.List.TakeDrop
import Vignette.Text.Blank
import Vignette.Text.Decimal

/-!
# Middles and numerals

What it is to take the white space off a text, and what it is to denote a number, said without a word
about how that is done.

* `IsMiddle s t` -- `t` is what stands between the white space around `s`;
* `Numeral ds n` -- the ASCII digits `ds` denote `n`; there may be zeros in front;
* `Number s n` -- the same, with a plus sign in front if one likes.

Main statements: **trimming leaves the middle** (`trim_eq_iff`), and there is only one; **a text is cut
at the first character of a class** (`span_not_eq_iff`); **what is read as
a number is what denotes it** (`readNat?_eq_some_iff`, `readBelow?_eq_some_iff`); the digits of a number
denote it (`numeral_decimal`).
-/

namespace Vignette.Text

/-! ## 1. The middle of a text -/

/-- The text neither begins nor ends with white space. -/
structure Bare (t : List Char) : Prop where
  head : ∀ c ∈ t.head?, isBlank c = false
  last : ∀ c ∈ t.getLast?, isBlank c = false

/-- The text has white space around a middle that has none at its ends. -/
def IsMiddle (s t : List Char) : Prop :=
  Bare t ∧ ∃ front back, s = front ++ t ++ back ∧ (∀ c ∈ front, isBlank c = true) ∧
    ∀ c ∈ back, isBlank c = true

section Middle

variable {s t front back : List Char}

/-- A text without white space is bare. -/
theorem bare_of_forall (h : ∀ c ∈ t, isBlank c = false) : Bare t :=
  ⟨fun c hc => h c (List.mem_of_mem_head? hc), fun c hc => h c (List.mem_of_getLast? hc)⟩

theorem Bare.reverse (h : Bare t) : Bare t.reverse where
  head c hc := h.last c (by rwa [List.head?_reverse] at hc)
  last c hc := h.head c (by rwa [List.getLast?_reverse] at hc)

/-- A bare text is its own middle. -/
theorem Bare.isMiddle (h : Bare t) : IsMiddle t t := ⟨h, [], [], by simp, nofun, nofun⟩

theorem trimStart_blank_append (h : ∀ c ∈ front, isBlank c = true) (t : List Char) :
    trimStart (front ++ t) = trimStart t := List.dropWhile_append_of_pos h

/-- White space behind a bare text is all that is trimmed off. -/
theorem trim_append_blank (ht : Bare t) (hback : ∀ c ∈ back, isBlank c = true) : trim (t ++ back) = t := by
  have hend : trimEnd (t ++ back) = trimEnd t := by
    have hrev : ∀ c ∈ back.reverse, isBlank c = true := fun c hc => hback c (List.mem_reverse.mp hc)
    rw [trimEnd_eq, trimEnd_eq, List.reverse_append, trimStart_blank_append hrev]
  have hlast : trimEnd t = t := by
    rw [trimEnd_eq]
    cases hr : t.reverse with
    | nil => simpa using hr
    | cons c r =>
      have hc : isBlank c = false := ht.reverse.head c (by rw [hr]; rfl)
      rw [trimStart_cons r hc, ← hr, List.reverse_reverse]
  cases t with
  | nil =>
    have hnone : trimStart back = [] := by
      have h := trimStart_blank_append hback []
      rwa [List.append_nil, trimStart_nil] at h
    rw [List.nil_append, trim, hnone, trimEnd_nil]
  | cons c r =>
    have hc : isBlank c = false := ht.head c rfl
    rw [trim, List.cons_append, trimStart_cons _ hc, ← List.cons_append, hend, hlast]

/-- **There is only one middle: the trimmed text.** -/
theorem trim_of_isMiddle (h : IsMiddle s t) : trim s = t := by
  obtain ⟨ht, front, back, rfl, hfront, hback⟩ := h
  rw [trim, List.append_assoc, trimStart_blank_append hfront]
  exact trim_append_blank ht hback

/-- **The trimmed text is a middle.** -/
theorem isMiddle_trim (s : List Char) : IsMiddle s (trim s) := by
  obtain ⟨front, back, hs, hfront, hback⟩ := trim_append s
  refine ⟨⟨fun c hc => ?_, fun c hc => ?_⟩, front, back, hs, hfront, hback⟩
  · -- the trimmed end only shortens the trimmed start from behind
    obtain ⟨rest, hrest⟩ : ∃ rest, trimStart s = trim s ++ rest := by
      obtain ⟨q, hq, -⟩ := trimStart_append (trimStart s).reverse
      have hrev := congrArg List.reverse hq
      refine ⟨q.reverse, ?_⟩
      simpa [trim, trimEnd_eq] using hrev
    obtain ⟨r, hr⟩ := List.head?_eq_some_iff.mp hc
    rw [hr, List.cons_append] at hrest
    exact trimStart_head s c _ hrest
  · have hrev : trimStart (trimStart s).reverse = (trim s).reverse := by
      rw [trim, trimEnd_eq, List.reverse_reverse]
    rw [Option.mem_def, ← List.head?_reverse] at hc
    obtain ⟨r, hr⟩ := List.head?_eq_some_iff.mp hc
    exact trimStart_head _ c r (hrev.trans hr)

/-- **Trimming leaves the middle.** -/
theorem trim_eq_iff : trim s = t ↔ IsMiddle s t := by
  constructor
  · rintro rfl
    exact isMiddle_trim s
  · exact trim_of_isMiddle

end Middle

/-! ## 2. Cutting a text -/

/-- **The cut at the first character of a class.** -/
theorem span_not_eq_iff {p : Char → Bool} {t a b : List Char} {x : Char} :
    t.span (fun c => !p c) = (a, x :: b) ↔ t = a ++ x :: b ∧ p x = true ∧ ∀ c ∈ a, p c = false := by
  rw [List.span_eq_takeWhile_dropWhile, Prod.mk.injEq]
  constructor
  · rintro ⟨ha, hb⟩
    refine ⟨?_, ?_, fun c hc => ?_⟩
    · rw [← ha, ← hb, List.takeWhile_append_dropWhile]
    · have hhead := List.head?_dropWhile_not (fun c => !p c) t
      rw [hb] at hhead
      simpa using hhead
    · have hall := List.all_eq_true.mp (List.all_takeWhile (p := fun c => !p c) (l := t)) c (ha ▸ hc)
      simpa using hall
  · rintro ⟨rfl, hx, ha⟩
    have hpass : ∀ c ∈ a, (!p c) = true := fun c hc => by rw [ha c hc, Bool.not_false]
    rw [List.takeWhile_append_of_pos hpass, List.dropWhile_append_of_pos hpass]
    simp [hx]

/-! ## 3. Numerals -/

/-- One or more ASCII digits, and the number that they denote. -/
inductive Numeral : List Char → Nat → Prop
  | digit (d : Fin 10) : Numeral [Nat.digitChar d] d
  | behind {ds : List Char} {n : Nat} (h : Numeral ds n) (d : Fin 10) :
    Numeral (ds ++ [Nat.digitChar d]) (10 * n + d)

/-- A numeral, perhaps with a plus sign in front. -/
inductive Number : List Char → Nat → Prop
  | plain {ds : List Char} {n : Nat} (h : Numeral ds n) : Number ds n
  | plus {ds : List Char} {n : Nat} (h : Numeral ds n) : Number ('+' :: ds) n

section Numeral

variable {s ds : List Char} {n : Nat}

theorem isDigit_digitChar : ∀ d : Fin 10, isDigit (Nat.digitChar d) = true := by decide

theorem isBlank_digitChar : ∀ d : Fin 10, isBlank (Nat.digitChar d) = false := by decide

theorem exists_digitChar {c : Char} (h : isDigit c = true) : ∃ d : Fin 10, c = Nat.digitChar d := by
  obtain ⟨hlow, hhigh⟩ := isDigit_iff.mp h
  refine ⟨⟨c.toNat - 48, by omega⟩, Char.toNat_inj.mp ?_⟩
  show c.toNat = (Nat.digitChar (c.toNat - 48)).toNat
  rw [Nat.toNat_digitChar_of_lt_ten (by omega)]
  omega

theorem digitsValue_concat (ds : List Char) (c : Char) :
    digitsValue (ds ++ [c]) = 10 * digitsValue ds + (c.toNat - 48) := by
  rw [digitsValue, List.foldl_append]
  rfl

/-- One digit more. -/
theorem digitsValue_digitChar (ds : List Char) (d : Fin 10) :
    digitsValue (ds ++ [Nat.digitChar d]) = 10 * digitsValue ds + d := by
  rw [digitsValue_concat, Nat.toNat_digitChar_of_lt_ten d.isLt]
  omega

theorem Numeral.ne_nil (h : Numeral ds n) : ds ≠ [] := by
  cases h <;> simp

theorem Numeral.isDigit (h : Numeral ds n) : ∀ c ∈ ds, isDigit c = true := by
  induction h with
  | digit d => simpa using isDigit_digitChar d
  | behind h d ih =>
    rw [List.forall_mem_append]
    exact ⟨ih, by simpa using isDigit_digitChar d⟩

theorem Numeral.value (h : Numeral ds n) : digitsValue ds = n := by
  induction h with
  | digit d =>
    have hvalue := digitsValue_digitChar [] d
    rw [List.nil_append] at hvalue
    simpa [digitsValue] using hvalue
  | behind h d ih => rw [digitsValue_digitChar, ih]

/-- Digits are a numeral of their value. -/
theorem numeral_of_forall (hne : ds ≠ []) (h : ∀ c ∈ ds, Text.isDigit c = true) :
    Numeral ds (digitsValue ds) := by
  induction ds using List.reverseRecOn with
  | nil => exact absurd rfl hne
  | append_singleton ds c ih =>
    rw [List.forall_mem_append] at h
    obtain ⟨d, rfl⟩ := exists_digitChar (h.2 c List.mem_cons_self)
    by_cases hds : ds = []
    · subst hds
      have hvalue := digitsValue_digitChar [] d
      rw [List.nil_append] at hvalue ⊢
      have hone : digitsValue [Nat.digitChar d] = d := by simpa [digitsValue] using hvalue
      rw [hone]
      exact .digit d
    · rw [digitsValue_digitChar]
      exact (ih hds h.1).behind d

/-- **Digits are read as the number that they denote.** -/
theorem readDigits?_eq_some_iff : readDigits? ds = some n ↔ Numeral ds n := by
  rw [readDigits?_eq_some]
  constructor
  · rintro ⟨hne, hall, rfl⟩
    exact numeral_of_forall hne hall
  · intro h
    exact ⟨h.ne_nil, h.isDigit, h.value⟩

/-- A numeral begins with a digit, so with no sign. -/
theorem not_numeral_plus : ¬ Numeral ('+' :: ds) n := fun h =>
  absurd (h.isDigit '+' List.mem_cons_self) (by decide)

/-- **A number is read as what it denotes.** -/
theorem readNat?_eq_some_iff : readNat? s = some n ↔ Number s n := by
  unfold readNat?
  split
  · rename_i ds
    rw [readDigits?_eq_some_iff]
    constructor
    · exact .plus
    · intro h
      cases h with
      | plain h => exact absurd h not_numeral_plus
      | plus h => exact h
  · rename_i hplus
    rw [readDigits?_eq_some_iff]
    constructor
    · exact .plain
    · intro h
      cases h with
      | plain h => exact h
      | plus h => exact absurd rfl (hplus _)

/-- **A number of a limited width is read as what it denotes, if it fits.** -/
theorem readBelow?_eq_some_iff {bound : Nat} : readBelow? bound s = some n ↔ Number s n ∧ n < bound := by
  rw [readBelow?, Option.filter_eq_some_iff, readNat?_eq_some_iff, decide_eq_true_iff]

/-- **The digits of a number denote it.** -/
theorem numeral_decimal (n : Nat) : Numeral (decimal n) n := by
  induction n using Nat.strongRecOn with
  | ind n ih =>
    rw [decimal, Nat.toDigits_eq_if (by decide)]
    split
    · rename_i h
      exact .digit ⟨n, h⟩
    · rename_i h
      have hlast : n % 10 < 10 := Nat.mod_lt n (by decide)
      have hsplit : 10 * (n / 10) + n % 10 = n := Nat.div_add_mod n 10
      have hfront : Numeral (decimal (n / 10)) (n / 10) := ih (n / 10) (by omega)
      have hwhole := hfront.behind ⟨n % 10, hlast⟩
      dsimp only at hwhole
      rwa [hsplit] at hwhole

/-- Nothing blank is among the digits of a numeral. -/
theorem Numeral.isBlank (h : Numeral ds n) : ∀ c ∈ ds, isBlank c = false := by
  intro c hc
  obtain ⟨d, rfl⟩ := exists_digitChar (h.isDigit c hc)
  exact isBlank_digitChar d

end Numeral

end Vignette.Text

import Mathlib.Data.List.Forall2
import Mathlib.Tactic.SplitIfs
import Vignette.Settings.Codec

/-!
# What is written is read back

A reader takes a value back if it reads it from the value's text, whatever comes behind the text
(`TakesBack`). Behind a value there is a comma, the end of a list or of an object, or nothing (`Ends`):
a number would go on otherwise.

Main statements, by the form of the value: **strings of any characters** (`takesBack_quoted`),
**numbers** (`takesBack_natural`), **lists** (`takesBack_list`), **names from a fixed set**
(`takesBack_choice`), and **records, their members in any order** (`takesBack_record`).
-/

namespace Vignette.Json

/-! ## 1. Reading back -/

/-- What may come behind a value. -/
def Ends (rest : List Char) : Prop :=
  rest = [] ∨ ∃ c r, rest = c :: r ∧ (c = ',' ∨ c = ']' ∨ c = '\x7d')

theorem ends_comma (r : List Char) : Ends (',' :: r) := .inr ⟨_, r, rfl, .inl rfl⟩

theorem ends_bracket (r : List Char) : Ends (']' :: r) := .inr ⟨_, r, rfl, .inr (.inl rfl)⟩

theorem ends_brace (r : List Char) : Ends ('\x7d' :: r) := .inr ⟨_, r, rfl, .inr (.inr rfl)⟩

/-- The reader reads the value from its text. -/
def TakesBack {α : Type} (read : Reader α) (v : Json) (a : α) : Prop :=
  ∀ rest, Ends rest → read (v.render ++ rest) = .ok (a, rest)

/-! ## 2. Strings -/

/-- The letter that escapes a character stands for the character. -/
theorem unescape?_of_escapeLetter? {c e : Char} (h : escapeLetter? c = some e) :
    e ≠ 'u' ∧ unescape? e = some c := by
  unfold escapeLetter? at h
  split_ifs at h with hquote hslash hn hr ht hb hf <;> cases h
  · exact ⟨by decide, by subst hquote; rfl⟩
  · exact ⟨by decide, by subst hslash; rfl⟩
  · exact ⟨by decide, by subst hn; rfl⟩
  · exact ⟨by decide, by subst hr; rfl⟩
  · exact ⟨by decide, by subst ht; rfl⟩
  · obtain rfl : c = '\x08' := by rw [← Char.ofNat_toNat c, hb]
    exact ⟨by decide, rfl⟩
  · obtain rfl : c = '\x0c' := by rw [← Char.ofNat_toNat c, hf]
    exact ⟨by decide, rfl⟩

theorem hexDigitValue?_hexDigit : ∀ n : Fin 16, Text.hexDigitValue? (Text.hexDigit n.val) = some n.val := by
  decide

/-- The escape of a control character by its number is read back. -/
theorem readNumericEscape_hex {c : Char} (h : c.toNat < 32) (r : List Char) :
    readNumericEscape ('0' :: '0' :: Text.hexDigit (c.toNat / 16) :: Text.hexDigit (c.toNat % 16) :: r) =
      .ok (c, r) := by
  have hhigh := hexDigitValue?_hexDigit ⟨c.toNat / 16, by omega⟩
  have hlow := hexDigitValue?_hexDigit ⟨c.toNat % 16, by omega⟩
  have hzero : Text.hexDigitValue? '0' = some 0 := rfl
  have hn : ((0 * 16 + 0) * 16 + c.toNat / 16) * 16 + c.toNat % 16 = c.toNat := by omega
  have htrailing : isTrailing c.toNat = false := by
    rw [isTrailing, Bool.and_eq_false_iff]
    exact .inl (decide_eq_false (by omega))
  have hleading : isLeading c.toNat = false := by
    rw [isLeading, Bool.and_eq_false_iff]
    exact .inl (decide_eq_false (by omega))
  simp only [readNumericEscape, readHex4, hzero, hhigh, hlow, hn, htrailing, hleading, Char.ofNat_toNat]
  rfl

/-- **One character of a string is read back**, however it is escaped. -/
theorem readChars_escapeChar (c : Char) (fuel : Nat) (s : List Char) :
    readChars (fuel + 1) (escapeChar c ++ s) = (readChars fuel s).map fun p => (c :: p.1, p.2) := by
  unfold escapeChar
  cases he : escapeLetter? c with
  | some e =>
    obtain ⟨hu, hun⟩ := unescape?_of_escapeLetter? he
    simp only [List.cons_append, List.nil_append, readChars, readEscape, hu, if_false, hun]
    cases readChars fuel s <;> rfl
  | none =>
    by_cases hc : c.toNat < 32
    · simp only [hc, if_true, List.cons_append, List.nil_append, readChars, readEscape,
        readNumericEscape_hex hc]
      cases readChars fuel s <;> rfl
    · have hquote : c ≠ '"' := by rintro rfl; cases he
      have hslash : c ≠ '\\' := by rintro rfl; cases he
      simp only [hc, if_false, List.cons_append, List.nil_append, readChars]
      cases readChars fuel s <;> rfl

/-- **The characters of a string are read back**, up to the quote that ends it. -/
theorem readChars_flatMap (rest : List Char) :
    ∀ (cs : List Char) (fuel : Nat), cs.length < fuel →
      readChars fuel (cs.flatMap escapeChar ++ '"' :: rest) = .ok (cs, rest)
  | [], fuel + 1, _ => rfl
  | c :: cs, fuel + 1, h => by
    rw [List.flatMap_cons, List.append_assoc, readChars_escapeChar,
      readChars_flatMap rest cs fuel (Nat.lt_of_succ_lt_succ h)]
    rfl

theorem length_escapeChar_pos (c : Char) : 0 < (escapeChar c).length := by
  unfold escapeChar
  split
  · simp
  · split <;> simp

theorem length_le_flatMap_escapeChar (cs : List Char) : cs.length ≤ (cs.flatMap escapeChar).length := by
  induction cs with
  | nil => simp
  | cons c cs ih =>
    have h := length_escapeChar_pos c
    rw [List.flatMap_cons, List.length_append, List.length_cons]
    omega

/-- **A string is read back behind its opening quote.** -/
theorem readString_flatMap (s : String) (rest : List Char) :
    readString (s.toList.flatMap escapeChar ++ '"' :: rest) = .ok (s, rest) := by
  have hfuel : s.toList.length < (s.toList.flatMap escapeChar ++ '"' :: rest).length + 1 := by
    have h := length_le_flatMap_escapeChar s.toList
    rw [List.length_append]
    omega
  rw [readString, readChars_flatMap rest _ _ hfuel]
  simp

/-- **Strings are read back.** -/
theorem takesBack_quoted (expected s : String) : TakesBack (quoted expected) (.string s) s := by
  intro rest _
  have h := readString_flatMap s rest
  simpa [render, renderString, quoted, skipBlanks, isBlank] using h

/-! ## 3. Numbers -/

theorem isDigit_iff_isDigit (c : Char) : Text.isDigit c = c.isDigit := by
  rw [Bool.eq_iff_iff, Text.isDigit_iff, Char.isDigit_iff_toNat]
  rfl

/-- A text that may come behind a value does not go on with a digit. -/
theorem Ends.not_startsWithDigit {rest : List Char} (h : Ends rest) : startsWithDigit rest = false := by
  rcases h with rfl | ⟨c, r, rfl, rfl | rfl | rfl⟩ <;> rfl

/-- Digits do not make a number smaller. -/
theorem le_ofDigitChars (ds : List Char) (n : Nat) : n ≤ Nat.ofDigitChars 10 ds n := by
  induction ds generalizing n with
  | nil => exact Nat.le_refl n
  | cons d ds ih =>
    rw [Nat.ofDigitChars_cons]
    exact Nat.le_trans (by omega) (ih _)

/-- **All digits are taken**, as long as their number stays in bounds. -/
theorem takeDigits_append {rest : List Char} (hrest : startsWithDigit rest = false) :
    ∀ (ds : List Char) (value count : Nat), (∀ d ∈ ds, d.isDigit = true) →
      Nat.ofDigitChars 10 ds value < UInt64.size →
      takeDigits value count (ds ++ rest) =
        (Nat.ofDigitChars 10 ds value, count + ds.length, rest)
  | [], value, count, _, _ => by
    cases rest with
    | nil => rfl
    | cons c r =>
      have hc : Text.isDigit c = false := hrest
      simp [takeDigits, hc, Nat.ofDigitChars]
  | d :: ds, value, count, hds, hlt => by
    rw [Nat.ofDigitChars_cons] at hlt
    have hvalue : value * 10 + digitValue d = 10 * value + (d.toNat - '0'.toNat) := by
      rw [digitValue, Nat.mul_comm]
      rfl
    have hd : Text.isDigit d = true := by
      rw [isDigit_iff_isDigit]
      exact hds d List.mem_cons_self
    have hbound : value * 10 + digitValue d < UInt64.size := by
      rw [hvalue]
      exact Nat.lt_of_le_of_lt (le_ofDigitChars ds _) hlt
    rw [List.cons_append, takeDigits, if_pos ⟨hd, hbound⟩, hvalue,
      takeDigits_append hrest ds _ _ (fun x hx => hds x (List.mem_cons_of_mem d hx)) hlt,
      Nat.ofDigitChars_cons, List.length_cons, Nat.add_right_comm, Nat.add_assoc]

theorem isDigit_of_mem_decimal {n : Nat} {c : Char} (h : c ∈ Text.decimal n) : c.isDigit = true :=
  Nat.isDigit_of_mem_toDigits (by decide) (by decide) h

/-- A number that is not zero does not begin with a zero. -/
theorem head_decimal_ne_zero {n : Nat} (hn : 0 < n) : (Text.decimal n).head? ≠ some '0' := by
  induction n using Nat.strongRecOn with
  | ind n ih =>
    rw [Text.decimal, Nat.toDigits_eq_if (by decide)]
    split
    next h =>
      have hall : ∀ m : Fin 10, 0 < m.val → [m.val.digitChar].head? ≠ some '0' := by decide
      exact hall ⟨n, h⟩ hn
    next h =>
      have hdigits : (Nat.toDigits 10 (n / 10)).head? ≠ some '0' := ih (n / 10) (by omega) (by omega)
      rw [List.head?_append, Option.or_of_isSome]
      · exact hdigits
      · rw [List.isSome_head?]
        exact Nat.toDigits_ne_nil

/-- Behind the digits of a number there is no more of it. -/
theorem readTail_of_ends {rest : List Char} (h : Ends rest) (n : Nat) :
    readTail true n rest = .ok (.natural n, rest) := by
  rcases h with rfl | ⟨c, r, rfl, rfl | rfl | rfl⟩ <;> rfl

/-- **A numeral is read back.** -/
theorem readNumeral_decimal {n : Nat} (hn : n < UInt64.size) {rest : List Char} (h : Ends rest) :
    readNumeral true (Text.decimal n ++ rest) = .ok (.natural n, rest) := by
  cases hd : Text.decimal n with
  | nil => exact absurd hd Nat.toDigits_ne_nil
  | cons c ds =>
    have hdigits : ∀ x ∈ c :: ds, x.isDigit = true := fun x hx =>
      isDigit_of_mem_decimal (hd ▸ hx)
    have hvalue : Nat.ofDigitChars 10 (c :: ds) 0 = n := by
      rw [← hd]
      exact Nat.ofDigitChars_ten_toDigits
    rw [List.cons_append, readNumeral]
    by_cases hzero : c = '0'
    · -- only zero begins with a zero
      have hn0 : n = 0 := by
        refine Nat.eq_zero_of_not_pos fun hpos => head_decimal_ne_zero hpos ?_
        rw [hd, hzero]
        rfl
      subst hn0
      obtain ⟨-, rfl⟩ : c = '0' ∧ ds = [] := by
        have h0 : Text.decimal 0 = ['0'] := rfl
        rw [h0] at hd
        cases hd
        exact ⟨rfl, rfl⟩
      rw [if_pos hzero, List.nil_append, if_neg (by rw [h.not_startsWithDigit]; decide)]
      exact readTail_of_ends h 0
    · have hc : Text.isDigit c = true := by
        rw [isDigit_iff_isDigit]
        exact hdigits c List.mem_cons_self
      rw [Nat.ofDigitChars_cons] at hvalue
      have hfirst : digitValue c = 10 * 0 + (c.toNat - '0'.toNat) := by
        rw [digitValue, Nat.mul_zero, Nat.zero_add]
        rfl
      rw [if_neg hzero, if_pos hc, hfirst,
        takeDigits_append h.not_startsWithDigit ds _ _
          (fun x hx => hdigits x (List.mem_cons_of_mem c hx)) (by rw [hvalue]; exact hn), hvalue]
      exact readTail_of_ends h n

/-- A digit is none of the characters that begin something else. -/
theorem startsWithDigit_decimal (n : Nat) (rest : List Char) :
    ∃ c r, Text.decimal n ++ rest = c :: r ∧ c.isDigit = true := by
  cases hd : Text.decimal n with
  | nil => exact absurd hd Nat.toDigits_ne_nil
  | cons c ds =>
    exact ⟨c, ds ++ rest, rfl, isDigit_of_mem_decimal (hd ▸ List.mem_cons_self)⟩

/-- **Numbers are read back.** -/
theorem takesBack_natural {bound n : Nat} (hbound : bound ≤ UInt64.size) (expected : String)
    (hn : n < bound) : TakesBack (natural bound expected) (.number n) n := by
  intro rest h
  have hread := readNumeral_decimal (Nat.lt_of_lt_of_le hn hbound) h
  obtain ⟨c, r, hcr, hc⟩ := startsWithDigit_decimal n rest
  rw [hcr] at hread
  rw [render, hcr]
  have hblank : isBlank c = false := by
    rw [Bool.eq_false_iff]
    intro hb
    simp only [isBlank, Bool.or_eq_true, beq_iff_eq] at hb
    rcases hb with ((rfl | rfl) | rfl) | rfl <;> cases hc
  have hminus : c ≠ '-' := by rintro rfl; cases hc
  have hdigit : startsWithDigit (c :: r) = true := (isDigit_iff_isDigit c).trans hc
  have hskip : skipBlanks (c :: r) = c :: r := by simp [skipBlanks, hblank]
  unfold natural
  rw [hskip]
  split
  · rename_i heq; cases heq
  · rename_i heq; cases heq; exact absurd rfl hminus
  · rw [if_pos hdigit, hread]
    exact if_pos hn

/-- **Numbers of 32 bits are read back.** -/
theorem takesBack_word32 (w : UInt32) : TakesBack word32 (.number w.toNat) w := by
  intro rest h
  rw [word32, takesBack_natural (by decide) "u32" w.toNat_lt rest h]
  simp

/-! ## 4. Lists -/

/-- Does a value begin with the character? -/
def isOpening (c : Char) : Bool :=
  c.isDigit || c == 'n' || c == 't' || c == 'f' || c == '"' || c == '[' || c == '\x7b'

/-- The text of a value begins with a character that tells that there is one. -/
theorem exists_render_cons (v : Json) : ∃ c r, v.render = c :: r ∧ isOpening c = true := by
  cases v with
  | null => exact ⟨'n', _, rfl, rfl⟩
  | bool b =>
    cases b with
    | true => exact ⟨'t', _, rfl, rfl⟩
    | false => exact ⟨'f', _, rfl, rfl⟩
  | number n =>
    obtain ⟨c, r, hcr, hc⟩ := startsWithDigit_decimal n []
    rw [List.append_nil] at hcr
    exact ⟨c, r, by rw [render, hcr], by simp [isOpening, hc]⟩
  | string s => exact ⟨'"', _, rfl, rfl⟩
  | array items => exact ⟨'[', _, rfl, rfl⟩
  | object members => exact ⟨'\x7b', _, rfl, rfl⟩

/-- A character that begins a value is no blank, and ends no list. -/
theorem isOpening_ne {c : Char} (h : isOpening c = true) : isBlank c = false ∧ c ≠ ']' := by
  constructor
  · rw [Bool.eq_false_iff]
    intro hb
    simp only [isBlank, Bool.or_eq_true, beq_iff_eq] at hb
    rcases hb with ((rfl | rfl) | rfl) | rfl <;> cases h
  · rintro rfl
    cases h

theorem nextItem_first {c : Char} (h : isOpening c = true) (r : List Char) :
    nextItem true (c :: r) = .ok (true, c :: r) := by
  obtain ⟨hblank, hend⟩ := isOpening_ne h
  have hskip : skipBlanks (c :: r) = c :: r := by simp [skipBlanks, hblank]
  simp only [nextItem, hskip, if_true]
  split
  · rename_i heq; cases heq
  · rename_i heq; cases heq; exact absurd rfl hend
  · rfl

theorem nextItem_comma {c : Char} (h : isOpening c = true) (r : List Char) :
    nextItem false (',' :: c :: r) = .ok (true, c :: r) := by
  obtain ⟨hblank, hend⟩ := isOpening_ne h
  have hskip : skipBlanks (c :: r) = c :: r := by simp [skipBlanks, hblank]
  have hcomma : skipBlanks (',' :: c :: r) = ',' :: c :: r := by simp [skipBlanks, isBlank]
  simp only [nextItem, hcomma, Bool.false_eq_true, if_false]
  split
  · rename_i heq; cases heq
  · rename_i heq; cases heq
  · split
    · rename_i heq
      cases heq
      rw [hskip]
      split
      · rename_i heq; cases heq
      · rename_i heq; cases heq; exact absurd rfl hend
      · rfl
    · rename_i hne
      exact absurd rfl (hne (c :: r))

/-- The text behind an item: the other items, the end of the list, and the rest. -/
def itemsBehind (rest : List Char) : List Json → List Char
  | [] => ']' :: rest
  | v :: vs => ',' :: (v.render ++ itemsBehind rest vs)

theorem renderItems_append (rest : List Char) (v : Json) (vs : List Json) :
    renderItems (v :: vs) ++ ']' :: rest = v.render ++ itemsBehind rest vs := by
  induction vs generalizing v with
  | nil => rfl
  | cons w vs ih => rw [renderItems, List.append_assoc, List.cons_append, ih w, itemsBehind]

theorem ends_itemsBehind (rest : List Char) : ∀ vs : List Json, Ends (itemsBehind rest vs)
  | [] => ends_bracket rest
  | _ :: _ => ends_comma _

theorem length_le_itemsBehind (rest : List Char) (vs : List Json) :
    vs.length < (itemsBehind rest vs).length := by
  induction vs with
  | nil => simp [itemsBehind]
  | cons v vs ih =>
    simp only [itemsBehind, List.length_cons, List.length_append]
    omega

section List

variable {α : Type} {read : Reader α}

/-- The other items of a list are read back. -/
theorem items_itemsBehind (rest : List Char) :
    ∀ {vs : List Json} {as : List α} (fuel : Nat), List.Forall₂ (TakesBack read) vs as →
      vs.length < fuel → items read fuel false (itemsBehind rest vs) = .ok (as, rest)
  | [], _, fuel + 1, h, _ => by
    cases h
    rfl
  | v :: vs, _, fuel + 1, h, hlt => by
    cases h with
    | cons hv hvs =>
      obtain ⟨c, r, hcr, hc⟩ := exists_render_cons v
      have hread := hv _ (ends_itemsBehind rest vs)
      rw [hcr, List.cons_append] at hread
      rw [itemsBehind, hcr, List.cons_append, items, nextItem_comma hc]
      simp only [hread, items_itemsBehind rest fuel hvs (Nat.lt_of_succ_lt_succ hlt)]

/-- **Lists are read back** if their items are. -/
theorem takesBack_list {vs : List Json} {as : List α} (h : List.Forall₂ (TakesBack read) vs as) :
    TakesBack (list read) (.array vs) as := by
  intro rest _
  cases h with
  | nil => rfl
  | @cons v a vs as hv hvs =>
    obtain ⟨c, r, hcr, hc⟩ := exists_render_cons v
    have hread := hv _ (ends_itemsBehind rest vs)
    have hfuel := length_le_itemsBehind rest vs
    rw [render, List.cons_append, List.append_assoc, List.singleton_append, renderItems_append]
    show items read ((v.render ++ itemsBehind rest vs).length + 1) true _ = _
    rw [hcr, List.cons_append] at hread ⊢
    rw [items, nextItem_first hc]
    simp only [hread]
    rw [items_itemsBehind rest _ hvs (by rw [List.length_cons, List.length_append]; omega)]

end List

/-! ## 5. Names from a fixed set -/

/-- **Names are read back** as what they stand for. -/
theorem takesBack_choice {α : Type} {variants : List (String × α)} {name : String} {a : α}
    (h : variants.lookup name = some a) : TakesBack (choice variants) (.string name) a := by
  intro rest hrest
  have hread := takesBack_quoted "variant identifier" name rest hrest
  have hknown : known variants ((Json.string name).render ++ rest) = .ok (a, rest) := by
    rw [known, hread]
    simp only [h]
  exact hknown

/-! ## 6. Records -/

/-- The text behind a member: the other members, the end of the object, and the rest. -/
def membersBehind (rest : List Char) : List (String × Json) → List Char
  | [] => '\x7d' :: rest
  | (name, v) :: ms => ',' :: (renderString name.toList ++ ':' :: (v.render ++ membersBehind rest ms))

theorem renderMembers_append (rest : List Char) (name : String) (v : Json) (ms : List (String × Json)) :
    renderMembers ((name, v) :: ms) ++ '\x7d' :: rest =
      renderString name.toList ++ ':' :: (v.render ++ membersBehind rest ms) := by
  induction ms generalizing name v with
  | nil => simp [renderMembers, membersBehind]
  | cons m ms ih =>
    obtain ⟨other, w⟩ := m
    have hrest := ih other w
    simp only [renderMembers, membersBehind, List.append_assoc, List.cons_append] at hrest ⊢
    rw [hrest]

theorem ends_membersBehind (rest : List Char) : ∀ ms, Ends (membersBehind rest ms)
  | [] => ends_brace rest
  | _ :: _ => ends_comma _

theorem length_le_membersBehind (rest : List Char) (ms : List (String × Json)) :
    ms.length < (membersBehind rest ms).length := by
  induction ms with
  | nil => simp [membersBehind]
  | cons m ms ih =>
    simp only [membersBehind, List.length_cons, List.length_append]
    omega

section Record

variable {σ α : Type} {l : Layout σ}

/-- A member fills its field: the layout has one of its name, which reads the member's value. -/
def Fills (l : Layout σ) (m : String × Json) (put : σ → σ) : Prop :=
  ∃ slot, l.slot? m.1 = some slot ∧ TakesBack slot.read m.2 put

/-- A field reads back what its reader does. -/
theorem TakesBack.field {read : Reader α} {v : Json} {a : α} (h : TakesBack read v a) (name : String)
    (put : α → σ → σ) : TakesBack (Json.field name read put).read v (put a) := by
  intro rest hrest
  simp only [Json.field, h rest hrest]

/-- A member is read back, behind the quote that opens its name. -/
theorem readMember_of_fills {name : String} {v : Json} {put : σ → σ} (h : Fills l (name, v) put)
    {seen : List String} (hseen : name ∉ seen) (value : σ) {rest : List Char} (hrest : Ends rest) :
    readMember l seen value name (':' :: (v.render ++ rest)) = .ok ((name :: seen, put value), rest) := by
  obtain ⟨slot, hslot, hread⟩ := h
  have hcolon : skipColon (':' :: (v.render ++ rest)) = .ok (v.render ++ rest) := rfl
  have hnew : seen.contains name = false := by simpa using hseen
  simp only [readMember, hslot, hnew, Bool.false_eq_true, if_false, hcolon, hread rest hrest]

/-- The members that are left are read back, behind the one before them. -/
theorem readMembers_membersBehind (rest : List Char) :
    ∀ {ms : List (String × Json)} {puts : List (σ → σ)} (fuel : Nat) (seen : List String) (value : σ),
      List.Forall₂ (Fills l) ms puts → ((ms.map Prod.fst).reverse ++ seen).Nodup →
      l.missing? ((ms.map Prod.fst).reverse ++ seen) = none → ms.length < fuel →
      readMembers l fuel false seen value (membersBehind rest ms) =
        .ok (puts.foldl (fun v put => put v) value, rest)
  | [], _, fuel + 1, seen, value, h, _, hmissing, _ => by
    cases h
    have hnext : nextName false (membersBehind rest []) = .ok (false, rest) := rfl
    have hnone : l.missing? seen = none := hmissing
    simp only [readMembers, hnext, hnone]
    rfl
  | (name, v) :: ms, _, fuel + 1, seen, value, h, hnodup, hmissing, hlt => by
    cases h with
    | @cons _ put _ puts hm hms =>
      have hnames : (((name, v) :: ms).map Prod.fst).reverse ++ seen =
          (ms.map Prod.fst).reverse ++ name :: seen := by simp
      rw [hnames] at hnodup hmissing
      have hseen : name ∉ seen := (List.nodup_cons.mp (List.nodup_append.mp hnodup).2.1).1
      have hnext : nextName false (membersBehind rest ((name, v) :: ms)) =
          .ok (true, name.toList.flatMap escapeChar ++
            '"' :: ':' :: (v.render ++ membersBehind rest ms)) := by
        simp [membersBehind, renderString, nextName, skipBlanks, isBlank]
      simp only [readMembers, hnext, readString_flatMap,
        readMember_of_fills hm hseen value (ends_membersBehind rest ms),
        readMembers_membersBehind rest fuel (name :: seen) (put value) hms hnodup hmissing
          (Nat.lt_of_succ_lt_succ hlt), List.foldl_cons]

/-- **Records are read back**, their members in any order, if each fills a field and no field that must
    be there is missing. -/
theorem takesBack_record {finish : σ → Except Cause α} {ms : List (String × Json)}
    {puts : List (σ → σ)} {a : α} (h : List.Forall₂ (Fills l) ms puts)
    (hnodup : (ms.map Prod.fst).Nodup) (hmissing : l.missing? (ms.map Prod.fst).reverse = none)
    (hfinish : finish (puts.foldl (fun v put => put v) l.start) = .ok a) :
    TakesBack (record l finish) (.object ms) a := by
  intro rest _
  have hread : ∀ fuel, ms.length < fuel →
      readMembers l fuel true [] l.start (renderMembers ms ++ '\x7d' :: rest) =
        .ok (puts.foldl (fun v put => put v) l.start, rest) := by
    intro fuel hfuel
    cases h with
    | nil =>
      cases fuel with
      | zero => cases hfuel
      | succ fuel =>
        have hnext : nextName true (renderMembers [] ++ '\x7d' :: rest) = .ok (false, rest) := rfl
        have hnone : l.missing? [] = none := hmissing
        simp only [readMembers, hnext, hnone]
        rfl
    | @cons m put ms puts hm hms =>
      obtain ⟨name, v⟩ := m
      cases fuel with
      | zero => cases hfuel
      | succ fuel =>
        have hnext : nextName true (renderMembers ((name, v) :: ms) ++ '\x7d' :: rest) =
            .ok (true, name.toList.flatMap escapeChar ++
              '"' :: ':' :: (v.render ++ membersBehind rest ms)) := by
          rw [renderMembers_append]
          simp [renderString, nextName, skipBlanks, isBlank]
        rw [List.map_cons, List.reverse_cons] at hmissing
        have hrev : ((ms.map Prod.fst).reverse ++ [name]).Nodup := by
          rw [← List.reverse_cons]
          exact List.pairwise_reverse.mpr (hnodup.imp fun hne => hne.symm)
        simp only [readMembers, hnext, readString_flatMap,
          readMember_of_fills hm List.not_mem_nil l.start (ends_membersBehind rest ms),
          readMembers_membersBehind rest fuel [name] (put l.start) hms hrev hmissing
            (Nat.lt_of_succ_lt_succ hfuel), List.foldl_cons]
  have hlength : ms.length < (renderMembers ms ++ '\x7d' :: rest).length + 1 := by
    cases ms with
    | nil => simp
    | cons m ms =>
      have hl := length_le_membersBehind rest ms
      rw [renderMembers_append, List.length_append, List.length_cons, List.length_cons,
        List.length_append]
      omega
  rw [render, List.cons_append, List.append_assoc, List.singleton_append]
  have hskip (t : List Char) : skipBlanks ('\x7b' :: t) = '\x7b' :: t := rfl
  simp only [record, hskip, hread _ hlength, hfinish]

end Record

end Vignette.Json

import Mathlib.Data.List.TakeDrop
import Vignette.Proofs.Text.Utf8
import Vignette.Url.Form

/-!
# Form data read back

A name or a value is written with ASCII characters, and neither `&` nor `=` is among them; so a query
is cut where it was put together, and each part is read as what it was written from. `Form.IsPut` says
what it is to give a name a value in a list, without a word about how that is done.

Main statements: **every list of names with values is read back from its own text**
(`Form.parse_text`); **`Form.put` gives a name a value** (`Form.isPut_put`), and then the name stands
there once, with all other pairs as they were (`Form.IsPut.own`, `Form.IsPut.others`).
-/

namespace Vignette

namespace Text

/-! ## 1. Bytes of ASCII text -/

@[simp] theorem encodeUtf8_nil : encodeUtf8 [] = [] := by rw [encodeUtf8_eq, List.flatMap_nil]

theorem encodeUtf8_append (s t : List Char) : encodeUtf8 (s ++ t) = encodeUtf8 s ++ encodeUtf8 t := by
  rw [encodeUtf8_eq, encodeUtf8_eq, encodeUtf8_eq, List.flatMap_append]

/-- A character of ASCII is one byte. -/
theorem encodeUtf8_cons {c : Char} (h : c.toNat ≤ 127) (s : List Char) :
    encodeUtf8 (c :: s) = UInt8.ofNat c.toNat :: encodeUtf8 s := by
  rw [encodeUtf8_eq, encodeUtf8_eq, List.flatMap_cons, String.utf8EncodeChar]
  change (if c.toNat ≤ 127 then _ else _) ++ _ = _
  rw [if_pos h, List.singleton_append]
  rfl

/-- Characters of ASCII that are not in a text are not among its bytes. -/
theorem not_mem_encodeUtf8 {s : List Char} (hs : ∀ c ∈ s, c.toNat ≤ 127) {d : Char}
    (hd : d.toNat ≤ 127) (h : d ∉ s) : UInt8.ofNat d.toNat ∉ encodeUtf8 s := by
  induction s with
  | nil =>
    rw [encodeUtf8_nil]
    exact List.not_mem_nil
  | cons c s ih =>
    have hc := hs c List.mem_cons_self
    rw [encodeUtf8_cons hc, List.mem_cons, not_or]
    refine ⟨fun he => h ?_, ih (fun x hx => hs x (List.mem_cons_of_mem c hx))
      fun hm => h (List.mem_cons_of_mem c hm)⟩
    have hnat := congrArg UInt8.toNat he
    rw [toNat_ofNat (by omega), toNat_ofNat (by omega)] at hnat
    rw [← Char.ofNat_toNat d, hnat, Char.ofNat_toNat]
    exact List.mem_cons_self

end Text

namespace Url

open Text (encodeUtf8 encodeUtf8_append encodeUtf8_cons encodeUtf8_nil)

/-! ## 2. Percent-encoded bytes -/

/-- A byte other than a percent sign stands for itself. -/
theorem percentDecode_cons {b : UInt8} (h : b ≠ 0x25) (rest : List UInt8) :
    percentDecode (b :: rest) = b :: percentDecode rest := by
  have hescaped : escaped? b rest = none := by
    match rest with
    | [] => rfl
    | [_] => rfl
    | _ :: _ :: _ => rw [escaped?, if_neg h]
  rw [percentDecode, percentDecodeFrom, hescaped]
  rfl

/-- A percent sign and two digits stand for one byte. -/
theorem percentDecode_escape {h l : UInt8} {x y : Nat}
    (hx : Text.hexDigitValue? (Char.ofNat h.toNat) = some x)
    (hy : Text.hexDigitValue? (Char.ofNat l.toNat) = some y) (rest : List UInt8) :
    percentDecode (0x25 :: h :: l :: rest) = UInt8.ofNat (16 * x + y) :: percentDecode rest := by
  have hescaped : escaped? 0x25 (h :: l :: rest) = some (UInt8.ofNat (16 * x + y)) := by
    rw [escaped?, if_pos rfl, hx, hy]
  rw [percentDecode, percentDecodeFrom, hescaped]
  rfl

/-- A character of ASCII that is none of the marks of a query or a URL. -/
def IsCalm (c : Char) : Prop := c.toNat ≤ 127 ∧ c ≠ '&' ∧ c ≠ '=' ∧ c ≠ '#'

instance (c : Char) : Decidable (IsCalm c) := inferInstanceAs (Decidable (_ ∧ _))

/-- The digit of a half byte is a calm character that is read as the half byte. -/
theorem upperDigit_spec : ∀ n : Fin 16, IsCalm (upperDigit n.val) ∧
    Text.hexDigitValue? (Char.ofNat (UInt8.ofNat (upperDigit n.val).toNat).toNat) = some n.val ∧
    UInt8.ofNat (upperDigit n.val).toNat ≠ 0x2B := by
  decide

namespace Form

/-! ## 3. Names and values -/

/-- What a byte of a query is read as, before percent signs are looked at. -/
def unplus (b : UInt8) : UInt8 := if b = 0x2B then 0x20 else b

theorem read_eq (bytes : List UInt8) :
    read bytes = String.ofList (Text.decodeUtf8 (percentDecode (bytes.map unplus))) := rfl

/-- A byte that stands for itself is a calm character, and neither a percent sign nor a plus sign. -/
theorem isPlain_spec : ∀ n : Fin 256, isPlain (UInt8.ofNat n.val) = true →
    (Char.ofNat n.val).toNat = n.val ∧ IsCalm (Char.ofNat n.val) ∧ UInt8.ofNat n.val ≠ 0x25 ∧
      UInt8.ofNat n.val ≠ 0x2B := by
  decide +kernel

/-- **A byte is read back from what it was written as, whatever follows.** -/
theorem percentDecode_writeByte (b : UInt8) (rest : List UInt8) :
    percentDecode ((encodeUtf8 (writeByte b)).map unplus ++ rest) = b :: percentDecode rest := by
  have hb : b.toNat < 256 := b.toNat_lt
  have hback : UInt8.ofNat b.toNat = b := UInt8.ofNat_toNat
  unfold writeByte
  split
  · rename_i hplain
    have hspec := isPlain_spec ⟨b.toNat, hb⟩
    rw [hback] at hspec
    obtain ⟨hchar, hcalm, hpercent, hplus⟩ := hspec hplain
    rw [encodeUtf8_cons hcalm.1, hchar, hback, encodeUtf8_nil, List.map_singleton,
      unplus, if_neg hplus, List.singleton_append, percentDecode_cons hpercent]
  split
  · rename_i hblank
    rw [encodeUtf8_cons (by decide), encodeUtf8_nil, hblank]
    exact percentDecode_cons (by decide) rest
  · obtain ⟨hhigh, hvalue, hplus⟩ := upperDigit_spec ⟨b.toNat / 16, by omega⟩
    obtain ⟨llow, lvalue, lplus⟩ := upperDigit_spec ⟨b.toNat % 16, by omega⟩
    have hsum : 16 * (b.toNat / 16) + b.toNat % 16 = b.toNat := by omega
    rw [percentByte, encodeUtf8_cons (by decide), encodeUtf8_cons hhigh.1, encodeUtf8_cons llow.1,
      encodeUtf8_nil, List.map_cons, List.map_cons, List.map_singleton, unplus, unplus, unplus,
      if_neg (by decide), if_neg hplus, if_neg lplus]
    exact (percentDecode_escape hvalue lvalue rest).trans (by rw [hsum, hback])

/-- Bytes are read back from what they were written as. -/
theorem percentDecode_flatMap (bs : List UInt8) :
    percentDecode ((encodeUtf8 (bs.flatMap writeByte)).map unplus) = bs := by
  induction bs with
  | nil => rw [List.flatMap_nil, encodeUtf8_nil, List.map_nil, percentDecode_nil]
  | cons b bs ih =>
    rw [List.flatMap_cons, encodeUtf8_append, List.map_append, percentDecode_writeByte, ih]

/-- **A name or a value is read back from what it was written as.** -/
theorem read_write (s : String) : read (encodeUtf8 (write s)) = s := by
  rw [read_eq, write, percentDecode_flatMap, Text.toList_toUTF8, Text.decodeUtf8_encodeUtf8,
    String.ofList_toList]

/-- What a byte is written as is calm. -/
theorem isCalm_of_mem_writeByte {b : UInt8} {c : Char} (h : c ∈ writeByte b) : IsCalm c := by
  have hb : b.toNat < 256 := b.toNat_lt
  unfold writeByte at h
  split at h
  · rename_i hplain
    have hspec := isPlain_spec ⟨b.toNat, hb⟩
    rw [UInt8.ofNat_toNat] at hspec
    rw [List.mem_singleton.mp h]
    exact (hspec hplain).2.1
  split at h
  · rw [List.mem_singleton.mp h]
    decide
  · have hhigh := (upperDigit_spec ⟨b.toNat / 16, by omega⟩).1
    have hlow := (upperDigit_spec ⟨b.toNat % 16, by omega⟩).1
    rw [percentByte, List.mem_cons, List.mem_cons, List.mem_singleton] at h
    rcases h with rfl | rfl | rfl
    · decide
    · exact hhigh
    · exact hlow

/-- None of the marks of a query or a URL is in what is written. -/
theorem isCalm_of_mem_write {s : String} {c : Char} (h : c ∈ write s) : IsCalm c := by
  obtain ⟨b, -, hc⟩ := List.mem_flatMap.mp h
  exact isCalm_of_mem_writeByte hc

/-! ## 4. Queries -/

section Split

variable {α : Type} [DecidableEq α] {sep : α}

theorem splitAll_of_not_mem {a : List α} (h : sep ∉ a) : splitAll sep a = [a] := by
  induction a with
  | nil => rfl
  | cons x a ih =>
    have hx : x ≠ sep := fun e => h (e ▸ List.mem_cons_self)
    rw [splitAll, if_neg hx, ih fun hm => h (List.mem_cons_of_mem x hm)]

/-- **A text is cut at its first separator, and then what follows is.** -/
theorem splitAll_append {a : List α} (h : sep ∉ a) (rest : List α) :
    splitAll sep (a ++ sep :: rest) = a :: splitAll sep rest := by
  induction a with
  | nil => rw [List.nil_append, splitAll, if_pos rfl]
  | cons x a ih =>
    have hx : x ≠ sep := fun e => h (e ▸ List.mem_cons_self)
    rw [List.cons_append, splitAll, if_neg hx, ih fun hm => h (List.mem_cons_of_mem x hm)]

end Split

/-- The text of a name with a value. -/
def pairText (p : String × String) : List Char := write p.1 ++ '=' :: write p.2

@[simp] theorem text_nil : text [] = [] := rfl

@[simp] theorem text_singleton (p : String × String) : text [p] = pairText p := by
  simp [text, List.intercalate, pairText]

@[simp] theorem text_cons_cons (p q : String × String) (rest : List (String × String)) :
    text (p :: q :: rest) = pairText p ++ '&' :: text (q :: rest) := by
  simp [text, List.intercalate, pairText]

theorem of_mem_pairText {p : String × String} {c : Char} (h : c ∈ pairText p) :
    c.toNat ≤ 127 ∧ c ≠ '&' ∧ c ≠ '#' := by
  have hwrite {s : String} (hc : c ∈ write s) : c.toNat ≤ 127 ∧ c ≠ '&' ∧ c ≠ '#' :=
    ⟨(isCalm_of_mem_write hc).1, (isCalm_of_mem_write hc).2.1, (isCalm_of_mem_write hc).2.2.2⟩
  rcases List.mem_append.mp h with hname | hvalue
  · exact hwrite hname
  rcases List.mem_cons.mp hvalue with rfl | hvalue
  · decide
  · exact hwrite hvalue

/-- The separator of parts is not in the text of a pair. -/
theorem separator_not_mem (p : String × String) : (0x26 : UInt8) ∉ encodeUtf8 (pairText p) :=
  Text.not_mem_encodeUtf8 (fun _ hc => (of_mem_pairText hc).1) (d := '&') (by decide)
    fun hm => (of_mem_pairText hm).2.1 rfl

/-- **A name with a value is read back from its own text.** -/
theorem readPair_pairText (p : String × String) : readPair (encodeUtf8 (pairText p)) = p := by
  have hname : ∀ b ∈ encodeUtf8 (write p.1), (b != 0x3D) = true := by
    intro b hb
    rw [bne_iff_ne]
    rintro rfl
    exact Text.not_mem_encodeUtf8 (fun c hc => (isCalm_of_mem_write hc).1) (d := '=') (by decide)
      (fun hm => (isCalm_of_mem_write hm).2.2.1 rfl) hb
  have hbytes : encodeUtf8 (pairText p) = encodeUtf8 (write p.1) ++ 0x3D :: encodeUtf8 (write p.2) := by
    rw [pairText, encodeUtf8_append, encodeUtf8_cons (by decide)]
    rfl
  have hspan : (encodeUtf8 (pairText p)).span (· != 0x3D) =
      (encodeUtf8 (write p.1), 0x3D :: encodeUtf8 (write p.2)) := by
    rw [List.span_eq_takeWhile_dropWhile, hbytes, List.takeWhile_append_of_pos hname,
      List.dropWhile_append_of_pos hname]
    simp
  rw [readPair, hspan]
  dsimp only
  rw [read_write, read_write]

/-- What a part of a query is read as; an empty part is left out. -/
def partPair? (part : List UInt8) : Option (String × String) :=
  if part.isEmpty then none else some (readPair part)

theorem parse_eq (query : List Char) :
    parse query = (splitAll 0x26 (encodeUtf8 query)).filterMap partPair? := rfl

theorem partPair?_pairText (p : String × String) : partPair? (encodeUtf8 (pairText p)) = some p := by
  have hmark : UInt8.ofNat '='.toNat ∈ encodeUtf8 (pairText p) := by
    rw [pairText, encodeUtf8_append, encodeUtf8_cons (by decide)]
    exact List.mem_append_right _ List.mem_cons_self
  have hnonempty : (encodeUtf8 (pairText p)).isEmpty = false := by
    rw [List.isEmpty_eq_false_iff]
    exact List.ne_nil_of_mem hmark
  rw [partPair?, hnonempty, if_neg Bool.false_ne_true, readPair_pairText]

/-- **Every list of names with values is read back from its own text.** -/
theorem parse_text : ∀ pairs : List (String × String), parse (text pairs) = pairs
  | [] => by rw [parse_eq, text_nil, encodeUtf8_nil]; rfl
  | [p] => by
    rw [parse_eq, text_singleton, splitAll_of_not_mem (separator_not_mem p), List.filterMap_cons,
      partPair?_pairText, List.filterMap_nil]
  | p :: q :: rest => by
    have ih := parse_text (q :: rest)
    have hbytes : encodeUtf8 (text (p :: q :: rest)) =
        encodeUtf8 (pairText p) ++ 0x26 :: encodeUtf8 (text (q :: rest)) := by
      rw [text_cons_cons, encodeUtf8_append, encodeUtf8_cons (by decide)]
      rfl
    rw [parse_eq] at ih
    rw [parse_eq, hbytes, splitAll_append (separator_not_mem p), List.filterMap_cons,
      partPair?_pairText, ih]

/-- The mark of a fragment is not in the text of a query. -/
theorem hash_not_mem_text : ∀ pairs : List (String × String), '#' ∉ text pairs
  | [] => List.not_mem_nil
  | [p] => by
    rw [text_singleton]
    exact fun h => (of_mem_pairText h).2.2 rfl
  | p :: q :: rest => by
    rw [text_cons_cons, List.mem_append, List.mem_cons, not_or, not_or]
    exact ⟨fun h => (of_mem_pairText h).2.2 rfl, by decide, hash_not_mem_text (q :: rest)⟩

/-! ## 5. One name, one value -/

/-- What it is to give a name a value: the first pair of that name takes it and the later ones go, or the
    pair is added at the end. -/
inductive IsPut (name value : String) : List (String × String) → List (String × String) → Prop
  | replaced (before after : List (String × String)) (old : String)
      (h : ∀ p ∈ before, p.1 ≠ name) :
      IsPut name value (before ++ (name, old) :: after)
        (before ++ (name, value) :: after.filter (·.1 ≠ name))
  | added (pairs : List (String × String)) (h : ∀ p ∈ pairs, p.1 ≠ name) :
      IsPut name value pairs (pairs ++ [(name, value)])

section Put

variable {name value : String} {pairs result : List (String × String)}

theorem IsPut.cons {p : String × String} (h : IsPut name value pairs result) (hp : p.1 ≠ name) :
    IsPut name value (p :: pairs) (p :: result) := by
  cases h with
  | replaced before after old h => exact .replaced (p :: before) after old (List.forall_mem_cons.mpr ⟨hp, h⟩)
  | added _ h => exact .added (p :: pairs) (List.forall_mem_cons.mpr ⟨hp, h⟩)

/-- **`put` gives a name a value.** -/
theorem isPut_put (name value : String) : ∀ pairs : List (String × String),
    IsPut name value pairs (put name value pairs)
  | [] => .added [] (fun _ h => nomatch h)
  | (n, v) :: rest => by
    rw [put]
    split
    · rename_i hn
      subst hn
      exact .replaced [] rest v (fun _ h => nomatch h)
    · rename_i hn
      exact (isPut_put name value rest).cons hn

theorem filter_of_forall_ne (h : ∀ p ∈ pairs, p.1 ≠ name) : pairs.filter (·.1 = name) = [] := by
  rw [List.filter_eq_nil_iff]
  exact fun p hp => by simpa using h p hp

/-- **A name that is given a value stands there once, with that value.** -/
theorem IsPut.own (h : IsPut name value pairs result) :
    result.filter (·.1 = name) = [(name, value)] := by
  cases h with
  | replaced before after old h =>
    have hafter : (after.filter (·.1 ≠ name)).filter (·.1 = name) = [] :=
      filter_of_forall_ne fun p hp => by simpa using (List.mem_filter.mp hp).2
    rw [List.filter_append, filter_of_forall_ne h, List.filter_cons_of_pos (by simp), hafter,
      List.nil_append]
  | added _ h =>
    rw [List.filter_append, filter_of_forall_ne h]
    simp

/-- **The pairs of other names are as they were, in their order.** -/
theorem IsPut.others (h : IsPut name value pairs result) :
    result.filter (·.1 ≠ name) = pairs.filter (·.1 ≠ name) := by
  cases h with
  | replaced before after old h => simp
  | added _ h => simp

end Put

end Form

end Url

end Vignette

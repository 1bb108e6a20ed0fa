import Vignette.Proofs.Url.Form
import Vignette.Proofs.Url.Reading

/-!
# What is read again as it stands

The reader of URLs changes what it reads: it encodes characters, makes letters small, resolves points.
What it leaves has nothing left to change, and is read again as it stands. This is said here of each part
of a URL by itself: a scheme (`IsScheme`), a segment (`IsSegment`), a query and a fragment (`Ended`).

Main statements: **a scheme, the segments of a path, and a query and a fragment are found again in front
of, between and behind whatever else stands in a URL** (`takeScheme?_append`, `takeSegments_append`,
`readEnd_append`); and **what is read is of this kind** (`isScheme_of_takeScheme?`,
`isSegment_takeSegments`, `ended_readEnd`).
-/

namespace Vignette.Url

/-! ## 1. Encoded texts -/

section Free

variable {set other : Char → Bool} {s t : List Char} {c : Char}

/-- **Where there is nothing to encode, nothing is encoded.** -/
theorem percentEncode_of_free (h : Free set s) : percentEncode set s = s := by
  induction s with
  | nil => rfl
  | cons c s ih =>
    rw [free_cons] at h
    rw [percentEncode, List.flatMap_cons, if_neg (by rw [h.1]; exact Bool.false_ne_true),
      List.singleton_append]
    exact congrArg (c :: ·) (ih h.2)

/-- A text that is encoded is free of what is free of its own characters, of percent signs and of
    digits. -/
theorem free_percentEncode (h : ∀ c ∈ s, set c = false → other c = false) (hpercent : other '%' = false)
    (hdigit : ∀ n : Fin 16, other (upperDigit n.val) = false) : Free other (percentEncode set s) := by
  intro c hc
  rcases of_mem_percentEncode hc with ⟨hmem, hset⟩ | rfl | ⟨n, rfl⟩
  · exact h c hmem hset
  · exact hpercent
  · exact hdigit n

/-- Encoded text has nothing left to encode. -/
theorem free_percentEncode_self (hpercent : set '%' = false) (hdigit : ∀ n : Fin 16, set (upperDigit n.val) = false)
    (s : List Char) : Free set (percentEncode set s) :=
  free_percentEncode (fun _ _ h => h) hpercent hdigit

/-- An encoded text begins with a percent sign or with its own first character. -/
theorem head_percentEncode : ∀ c ∈ (percentEncode set s).head?, c = '%' ∨ c ∈ s.head? := by
  intro c hc
  cases s with
  | nil => exact .inr hc
  | cons d s =>
    rw [percentEncode, List.flatMap_cons] at hc
    split at hc
    · obtain ⟨b, rest, hbytes, -⟩ := Text.exists_first_byte d
      rw [Text.encodeUtf8_eq, List.flatMap_singleton, hbytes] at hc
      exact .inl (Option.some.inj hc).symm
    · exact .inr hc

end Free

/-- Every set of characters that are encoded holds the controls. -/
theorem isControl_of_not_inFragmentSet {c : Char} (h : inFragmentSet c = false) : isControl c = false :=
  (Bool.or_eq_false_iff.mp h).1

theorem isControl_of_not_inPathSet {c : Char} (h : inPathSet c = false) : isControl c = false :=
  isControl_of_not_inFragmentSet (Bool.or_eq_false_iff.mp h).1

theorem isControl_of_not_inUserinfoSet {c : Char} (h : inUserinfoSet c = false) : isControl c = false :=
  isControl_of_not_inPathSet (Bool.or_eq_false_iff.mp h).1

theorem isControl_of_not_inQuerySet {c : Char} (h : inQuerySet c = false) : isControl c = false :=
  (Bool.or_eq_false_iff.mp h).1

/-- The breaks in a URL are among its margins, and the margins are controls, but for the blank. -/
theorem isBreak_of_not_isMargin {c : Char} (h : isMargin c = false) : isBreak c = false := by
  simp only [isBreak, Bool.or_eq_false_iff, beq_eq_false_iff_ne]
  refine ⟨⟨?_, ?_⟩, ?_⟩ <;> rintro rfl <;> exact absurd h (by decide)

theorem isMargin_of_not_isControl {c : Char} (h : isControl c = false) (hblank : c ≠ ' ') :
    isMargin c = false := by
  rw [isControl, Bool.or_eq_false_iff, decide_eq_false_iff_not] at h
  rw [isMargin, decide_eq_false_iff_not]
  intro hle
  have hc : c.toNat = 0x20 := by omega
  have hchar : c = ' ' := by rw [← Char.ofNat_toNat c, hc]
  exact hblank hchar

theorem isBreak_of_not_isControl {c : Char} (h : isControl c = false) : isBreak c = false := by
  by_cases hblank : c = ' '
  · subst hblank
    rfl
  · exact isBreak_of_not_isMargin (isMargin_of_not_isControl h hblank)

/-! ## 2. Stripping -/

section Strip

variable {p : Char → Bool} {s : List Char}

theorem dropWhile_of_head (h : ∀ c ∈ s.head?, p c = false) : s.dropWhile p = s := by
  cases s with
  | nil => rfl
  | cons c s => exact List.dropWhile_cons_of_neg (by rw [h c rfl]; exact Bool.false_ne_true)

/-- **A text without margins and breaks stays as it is.** -/
theorem strip_of_free (hhead : ∀ c ∈ s.head?, isMargin c = false)
    (hlast : ∀ c ∈ s.getLast?, isMargin c = false) (hbreak : Free isBreak s) : strip s = s := by
  have hback : s.reverse.dropWhile isMargin = s.reverse :=
    dropWhile_of_head (by rwa [List.head?_reverse])
  rw [strip, dropWhile_of_head hhead, hback, List.reverse_reverse, List.filter_eq_self]
  exact fun c hc => by rw [hbreak c hc, Bool.not_false]

end Strip

/-! ## 3. Schemes -/

/-- A letter, and then letters, digits and three other characters; no letter is a capital one. -/
structure IsScheme (s : List Char) : Prop where
  head : ∃ c ∈ s.head?, isLetter c = true
  chars : ∀ c ∈ s, isSchemeChar c = true
  small : ∀ c ∈ s, Domain.smallLetter c = c

/-- A character made small is itself, or one of the small letters. -/
theorem smallLetter_cases (c : Char) :
    Domain.smallLetter c = c ∨ ∃ n : Fin 26, Domain.smallLetter c = Char.ofNat (97 + n.val) := by
  unfold Domain.smallLetter
  split
  · rename_i hc
    have hlow : 65 ≤ c.toNat := hc.1
    have hhigh : c.toNat ≤ 90 := hc.2
    refine .inr ⟨⟨c.toNat - 65, by omega⟩, ?_⟩
    rw [show c.toNat + 32 = 97 + (c.toNat - 65) by omega]
  · exact .inl rfl

/-- What is true of a character and of all small letters is true of the character made small. -/
theorem smallLetter_of {P : Char → Prop} {c : Char} (h : P c) (hsmall : ∀ n : Fin 26, P (Char.ofNat (97 + n.val))) :
    P (Domain.smallLetter c) := by
  rcases smallLetter_cases c with hc | ⟨n, hn⟩
  · rw [hc]
    exact h
  · rw [hn]
    exact hsmall n

theorem smallLetter_smallLetter (c : Char) :
    Domain.smallLetter (Domain.smallLetter c) = Domain.smallLetter c := by
  rcases smallLetter_cases c with hc | ⟨n, hn⟩
  · rw [hc, hc]
  · have hsmall : ∀ n : Fin 26, Domain.smallLetter (Char.ofNat (97 + n.val)) = Char.ofNat (97 + n.val) := by
      decide
    rw [hn, hsmall n]

section Scheme

variable {s scheme rest : List Char}

/-- Nothing is stripped off a scheme. -/
theorem IsScheme.free_margin (h : IsScheme scheme) : Free isMargin scheme := by
  intro c hc
  have hchar := h.chars c hc
  rw [isMargin, decide_eq_false_iff_not]
  intro hle
  have hall : ∀ n : Fin 33, isSchemeChar (Char.ofNat n.val) = false := by decide
  have hnot := hall ⟨c.toNat, by omega⟩
  dsimp only at hnot
  rw [Char.ofNat_toNat, hchar] at hnot
  cases hnot

/-- **A scheme is found again, whatever stands behind its colon.** -/
theorem takeScheme?_append (h : IsScheme scheme) (rest : List Char) :
    takeScheme? (scheme ++ ':' :: rest) = some (scheme, rest) := by
  obtain ⟨c, hc, hletter⟩ := h.head
  cases scheme with
  | nil => cases hc
  | cons d cs =>
    obtain rfl : d = c := Option.some.inj hc
    have hspan : (d :: cs ++ ':' :: rest).span isSchemeChar = (d :: cs, ':' :: rest) :=
      span_append h.chars fun c hc => by rw [← Option.some.inj hc]; rfl
    have hsmall : (d :: cs).map Domain.smallLetter = d :: cs :=
      (List.map_congr_left h.small).trans (List.map_id' _)
    rw [takeScheme?, hspan]
    show (if isLetter d = true then some ((d :: cs).map Domain.smallLetter, rest) else none) = _
    rw [if_pos hletter, hsmall]

/-- **What is read as a scheme is one.** -/
theorem isScheme_of_takeScheme? (h : takeScheme? s = some (scheme, rest)) : IsScheme scheme := by
  have hletters : ∀ n : Fin 26, isLetter (Char.ofNat (97 + n.val)) = true := by decide
  have hchars : ∀ n : Fin 26, isSchemeChar (Char.ofNat (97 + n.val)) = true := by decide
  unfold takeScheme? at h
  split at h
  · rename_i c cs rest' hspan
    split at h
    · rename_i hletter
      rw [Option.some.injEq, Prod.mk.injEq] at h
      rw [List.span_eq_takeWhile_dropWhile, Prod.mk.injEq] at hspan
      obtain ⟨rfl, -⟩ := h
      have hall : ∀ d ∈ c :: cs, isSchemeChar d = true := fun d hd =>
        List.all_eq_true.mp (List.all_takeWhile (p := isSchemeChar) (l := s)) d (hspan.1 ▸ hd)
      refine ⟨⟨_, rfl, smallLetter_of (P := (isLetter · = true)) hletter hletters⟩, fun d hd => ?_,
        fun d hd => ?_⟩
      · obtain ⟨e, he, rfl⟩ := List.mem_map.mp hd
        exact smallLetter_of (P := (isSchemeChar · = true)) (hall e he) hchars
      · obtain ⟨e, -, rfl⟩ := List.mem_map.mp hd
        exact smallLetter_smallLetter e
    · cases h
  · cases h

end Scheme

/-! ## 4. Segments -/

/-- A segment that stays: nothing in it is encoded, it holds no slash, and is no point. -/
structure IsSegment (special : Bool) (s : List Char) : Prop where
  free : Free inPathSet s
  slash : Free (isSlash special) s
  not_up : isUp s = false
  not_here : isHere s = false

section Point

variable {s : List Char}

/-- An encoded byte other than a point is no spelling of a point. -/
theorem percentByte_ne_point : ∀ n : Fin 256, n.val ≠ 0x2E → upperDigit (n.val / 16) = '2' →
    upperDigit (n.val % 16) ≠ 'e' ∧ upperDigit (n.val % 16) ≠ 'E' := by
  decide +kernel

/-- How a character stands in an encoded text: as it is, or behind a percent sign that begins no
    spelling of a point. -/
theorem percentEncode_cons_cases (c : Char) (s : List Char) :
    (inPathSet c = false ∧ percentEncode inPathSet (c :: s) = c :: percentEncode inPathSet s) ∨
    (inPathSet c = true ∧ ∃ x y rest, percentEncode inPathSet (c :: s) = '%' :: x :: y :: rest ∧
      (x = '2' → y ≠ 'e' ∧ y ≠ 'E')) := by
  cases hc : inPathSet c with
  | false =>
    refine .inl ⟨rfl, ?_⟩
    rw [percentEncode, List.flatMap_cons, if_neg (by rw [hc]; exact Bool.false_ne_true)]
    rfl
  | true =>
    obtain ⟨b, rest, hbytes, hfirst⟩ := Text.exists_first_byte c
    have hpoint : b.toNat ≠ 0x2E := by
      intro hb
      rw [hfirst (by omega), hb] at hc
      exact absurd hc (by decide)
    refine .inr ⟨rfl, upperDigit (b.toNat / 16), upperDigit (b.toNat % 16),
      rest.flatMap percentByte ++ percentEncode inPathSet s, ?_,
      percentByte_ne_point ⟨b.toNat, b.toNat_lt⟩ hpoint⟩
    rw [percentEncode, List.flatMap_cons, if_pos hc, Text.encodeUtf8_eq, List.flatMap_singleton, hbytes,
      List.flatMap_cons, List.append_assoc]
    rfl

theorem dropPoint?_eq_none {c : Char} (hpoint : c ≠ '.') (hpercent : c ≠ '%') (s : List Char) :
    dropPoint? (c :: s) = none := by
  unfold dropPoint?
  split <;> simp_all

/-- Behind a percent sign only two spellings of a point go on. -/
theorem dropPoint?_percent_eq_none (hsmall : ∀ t, s ≠ '2' :: 'e' :: t) (hlarge : ∀ t, s ≠ '2' :: 'E' :: t) :
    dropPoint? ('%' :: s) = none := by
  unfold dropPoint?
  split <;> simp_all

/-- Behind a percent sign, points are spelled alike before and after encoding. -/
theorem dropPoint?_percent_percentEncode (s : List Char) :
    dropPoint? ('%' :: percentEncode inPathSet s) =
      (dropPoint? ('%' :: s)).map (percentEncode inPathSet) := by
  -- the two characters behind the percent sign are looked at one after the other
  have behind (c : Char) (h : inPathSet c = true) : c ≠ '2' ∧ c ≠ 'e' ∧ c ≠ 'E' := by
    refine ⟨?_, ?_, ?_⟩ <;> rintro rfl <;> exact absurd h (by decide)
  cases s with
  | nil => rfl
  | cons d s =>
    rcases percentEncode_cons_cases d s with ⟨-, hd⟩ | ⟨hset, x, y, rest, hd, -⟩
    · rw [hd]
      by_cases htwo : d = '2'
      · subst htwo
        cases s with
        | nil => rfl
        | cons e s =>
          rcases percentEncode_cons_cases e s with ⟨-, he⟩ | ⟨hset, x, y, rest, he, -⟩
          · rw [he]
            by_cases hsmall : e = 'e'
            · subst hsmall
              rfl
            by_cases hlarge : e = 'E'
            · subst hlarge
              rfl
            · rw [dropPoint?_percent_eq_none (by simp [hsmall]) (by simp [hlarge]),
                dropPoint?_percent_eq_none (by simp [hsmall]) (by simp [hlarge])]
              rfl
          · obtain ⟨-, hsmall, hlarge⟩ := behind e hset
            rw [he, dropPoint?_percent_eq_none (by simp) (by simp),
              dropPoint?_percent_eq_none (by simp [hsmall]) (by simp [hlarge])]
            rfl
      · rw [dropPoint?_percent_eq_none (by simp [htwo]) (by simp [htwo]),
          dropPoint?_percent_eq_none (by simp [htwo]) (by simp [htwo])]
        rfl
    · obtain ⟨htwo, -⟩ := behind d hset
      rw [hd, dropPoint?_percent_eq_none (by simp) (by simp),
        dropPoint?_percent_eq_none (by simp [htwo]) (by simp [htwo])]
      rfl

/-- **Points are spelled alike before and after encoding.** -/
theorem dropPoint?_percentEncode (s : List Char) :
    dropPoint? (percentEncode inPathSet s) = (dropPoint? s).map (percentEncode inPathSet) := by
  cases s with
  | nil => rfl
  | cons c s =>
    rcases percentEncode_cons_cases c s with ⟨-, he⟩ | ⟨hc, x, y, rest, he, hxy⟩
    · rw [he]
      by_cases hpoint : c = '.'
      · subst hpoint
        rfl
      by_cases hpercent : c = '%'
      · subst hpercent
        exact dropPoint?_percent_percentEncode s
      · rw [dropPoint?_eq_none hpoint hpercent, dropPoint?_eq_none hpoint hpercent]
        rfl
    · have hpoint : c ≠ '.' := by
        rintro rfl
        exact absurd hc (by decide)
      have hpercent : c ≠ '%' := by
        rintro rfl
        exact absurd hc (by decide)
      have hnone : dropPoint? ('%' :: x :: y :: rest) = none := by
        refine dropPoint?_percent_eq_none (fun t ht => ?_) (fun t ht => ?_)
        · cases ht
          exact (hxy rfl).1 rfl
        · cases ht
          exact (hxy rfl).2 rfl
      rw [he, hnone, dropPoint?_eq_none hpoint hpercent]
      rfl

theorem percentEncode_eq_nil : percentEncode inPathSet s = [] ↔ s = [] := by
  cases s with
  | nil => exact Iff.rfl
  | cons c s =>
    rcases percentEncode_cons_cases c s with ⟨-, he⟩ | ⟨-, x, y, rest, he, -⟩ <;> simp [he]

theorem isHere_percentEncode (s : List Char) : isHere (percentEncode inPathSet s) = isHere s := by
  rw [isHere, isHere, dropPoint?_percentEncode]
  cases dropPoint? s with
  | none => rfl
  | some t =>
    rw [Option.map_some, Bool.eq_iff_iff, beq_iff_eq, beq_iff_eq, Option.some.injEq, Option.some.injEq]
    exact percentEncode_eq_nil

theorem isUp_percentEncode (s : List Char) : isUp (percentEncode inPathSet s) = isUp s := by
  have hback : ((dropPoint? s).map (percentEncode inPathSet)).bind dropPoint? =
      ((dropPoint? s).bind dropPoint?).map (percentEncode inPathSet) := by
    cases dropPoint? s with
    | none => rfl
    | some t => exact dropPoint?_percentEncode t
  rw [isUp, isUp, dropPoint?_percentEncode, hback]
  cases (dropPoint? s).bind dropPoint? with
  | none => rfl
  | some t =>
    rw [Option.map_some, Bool.eq_iff_iff, beq_iff_eq, beq_iff_eq, Option.some.injEq, Option.some.injEq]
    exact percentEncode_eq_nil

end Point

section Segments

variable {type : SchemeType} {special : Bool} {s rest : List Char} {path parts : List (List Char)}

theorem isSlash_upperDigit : ∀ special : Bool, ∀ n : Fin 16, isSlash special (upperDigit n.val) = false := by
  decide

theorem isSegment_nil : IsSegment special [] where
  free := free_nil
  slash := free_nil
  not_up := rfl
  not_here := rfl

/-- **A segment is encoded once.** -/
theorem isSegment_percentEncode (hslash : Free (isSlash special) s) (hup : isUp s = false)
    (hhere : isHere s = false) : IsSegment special (percentEncode inPathSet s) where
  free := free_percentEncode_self (by decide) (by decide) _
  slash := free_percentEncode (fun c hc _ => hslash c hc) (by cases special <;> decide)
    (isSlash_upperDigit special)
  not_up := (isUp_percentEncode s).trans hup
  not_here := (isHere_percentEncode s).trans hhere

theorem isDrive_iff : isDrive s = true ↔ ∃ c d, s = [c, d] ∧ isLetter c = true ∧ (d = ':' ∨ d = '|') := by
  unfold isDrive
  split
  · rename_i c d
    simp [Bool.and_eq_true, Bool.or_eq_true]
  · simp_all

/-- A letter is neither encoded nor a slash nor the beginning of a point. -/
theorem of_isLetter {c : Char} (h : isLetter c = true) (special : Bool) :
    inPathSet c = false ∧ isSlash special c = false ∧ c ≠ '.' ∧ c ≠ '%' := by
  have hall : ∀ special : Bool, ∀ n : Fin 128, isLetter (Char.ofNat n.val) = true →
      inPathSet (Char.ofNat n.val) = false ∧ isSlash special (Char.ofNat n.val) = false ∧
        Char.ofNat n.val ≠ '.' ∧ Char.ofNat n.val ≠ '%' := by
    decide
  have hascii : c.toNat < 128 := by
    rw [isLetter, Bool.or_eq_true, Bool.and_eq_true, Bool.and_eq_true] at h
    simp only [decide_eq_true_eq] at h
    rcases h with ⟨-, hz⟩ | ⟨-, hz⟩
    · exact Nat.lt_of_le_of_lt (show c.toNat ≤ 122 from hz) (by decide)
    · exact Nat.lt_of_le_of_lt (show c.toNat ≤ 90 from hz) (by decide)
  have hc := hall special ⟨c.toNat, hascii⟩
  dsimp only at hc
  rw [Char.ofNat_toNat] at hc
  exact hc h

/-- A drive letter with its colon is a segment. -/
theorem isSegment_drive {c : Char} (h : isLetter c = true) (special : Bool) :
    IsSegment special [c, ':'] := by
  obtain ⟨hset, hslash, hpoint, hpercent⟩ := of_isLetter h special
  have hdrop := dropPoint?_eq_none hpoint hpercent [':']
  constructor
  · exact free_cons.mpr ⟨hset, free_cons.mpr ⟨by decide, free_nil⟩⟩
  · exact free_cons.mpr ⟨hslash, free_cons.mpr ⟨by cases special <;> decide, free_nil⟩⟩
  · rw [isUp, hdrop]
    rfl
  · rw [isHere, hdrop]
    rfl

theorem isSegment_keepSegment (hslash : Free (isSlash special) s) (hup : isUp s = false)
    (hhere : isHere s = false) : IsSegment special (keepSegment type path s) := by
  unfold keepSegment
  split
  · rename_i h
    obtain ⟨c, d, rfl, hc, -⟩ := isDrive_iff.mp h.2.2
    exact isSegment_drive hc special
  · exact isSegment_percentEncode hslash hup hhere

/-- The parts between slashes hold none. -/
theorem free_splitSlashes (special : Bool) : ∀ s : List Char,
    ∀ part ∈ splitSlashes special s, Free (isSlash special) part
  | [] => fun part hpart => List.mem_singleton.mp hpart ▸ free_nil
  | c :: s => by
    have ih := free_splitSlashes special s
    rw [splitSlashes]
    split
    · exact List.forall_mem_cons.mpr ⟨free_nil, ih⟩
    · rename_i hc
      have hc := eq_false_of_ne_true hc
      split
      · exact fun part hpart => List.mem_singleton.mp hpart ▸ free_cons.mpr ⟨hc, free_nil⟩
      · rename_i first others heq
        rw [heq, List.forall_mem_cons] at ih
        exact List.forall_mem_cons.mpr ⟨free_cons.mpr ⟨hc, ih.1⟩, ih.2⟩

/-- **The segments that are read stay.** -/
theorem isSegment_takeSegments (type : SchemeType) (s : List Char) :
    ∀ part ∈ (takeSegments type s).1, IsSegment (type != .other) part :=
  of_mem_addSegments isSegment_nil
    (fun _ part hpart hup hhere => isSegment_keepSegment (free_splitSlashes _ _ part hpart) hup hhere)
    fun _ h => nomatch h

theorem addSegments_ne_nil (h : parts ≠ []) : addSegments type path parts ≠ [] := by
  induction path, parts using addSegments.induct type with
  | case1 path => exact absurd rfl h
  | case2 path s hs => simp [addSegments, hs]
  | case3 path s hs hhere => simp [addSegments, hs, hhere]
  | case4 path s hs hhere => simp [addSegments, hs, hhere]
  | case5 path s t rest hs ih =>
    rw [addSegments, if_pos hs]
    exact ih (List.cons_ne_nil t rest)
  | case6 path s t rest hs hhere ih =>
    rw [addSegments, if_neg hs, if_pos hhere]
    exact ih (List.cons_ne_nil t rest)
  | case7 path s t rest hs hhere ih =>
    rw [addSegments, if_neg hs, if_neg hhere]
    exact ih (List.cons_ne_nil t rest)

theorem splitSlashes_ne_nil (special : Bool) (s : List Char) : splitSlashes special s ≠ [] := by
  cases s with
  | nil => exact List.cons_ne_nil _ _
  | cons c s =>
    rw [splitSlashes]
    split
    · exact List.cons_ne_nil _ _
    · split <;> exact List.cons_ne_nil _ _

theorem takeSegments_ne_nil (type : SchemeType) (s : List Char) : (takeSegments type s).1 ≠ [] :=
  addSegments_ne_nil (splitSlashes_ne_nil _ _)

/-- A drive letter at the beginning of a file's path has its colon. -/
def DriveKept (type : SchemeType) (parts : List (List Char)) : Prop :=
  type = .file → ∀ s ∈ parts.head?, isDrive s = true → s.getLast? = some ':'

/-- A segment that stays is kept as it is. -/
theorem keepSegment_of_isSegment (h : IsSegment special s)
    (hdrive : type = .file → path = [] → isDrive s = true → s.getLast? = some ':') :
    keepSegment type path s = s := by
  unfold keepSegment
  split
  · rename_i hfile
    obtain ⟨c, d, rfl, -, -⟩ := isDrive_iff.mp hfile.2.2
    obtain rfl : d = ':' := Option.some.inj (hdrive hfile.1 hfile.2.1 hfile.2.2)
    rfl
  · exact percentEncode_of_free h.free

/-- Segments that stay are added as they are. -/
theorem addSegments_of_isSegment (h : ∀ part ∈ parts, IsSegment special part)
    (hdrive : path = [] → DriveKept type parts) : addSegments type path parts = path ++ parts := by
  induction path, parts using addSegments.induct type with
  | case1 path => rw [addSegments, List.append_nil]
  | case2 path s hs => exact absurd (h s List.mem_cons_self).not_up (by rw [hs]; exact Bool.noConfusion)
  | case3 path s hs hhere =>
    exact absurd (h s List.mem_cons_self).not_here (by rw [hhere]; exact Bool.noConfusion)
  | case4 path s hs hhere =>
    rw [addSegments, if_neg hs, if_neg hhere, keepSegment_of_isSegment (h s List.mem_cons_self)]
    exact fun hfile hpath => hdrive hpath hfile s rfl
  | case5 path s t rest hs ih =>
    exact absurd (h s List.mem_cons_self).not_up (by rw [hs]; exact Bool.noConfusion)
  | case6 path s t rest hs hhere ih =>
    exact absurd (h s List.mem_cons_self).not_here (by rw [hhere]; exact Bool.noConfusion)
  | case7 path s t rest hs hhere ih =>
    have hkeep : keepSegment type path s = s := keepSegment_of_isSegment (h s List.mem_cons_self)
      fun hfile hpath => hdrive hpath hfile s rfl
    rw [hkeep] at ih
    rw [addSegments, if_neg hs, if_neg hhere, hkeep, ih (fun part hpart => h part (List.mem_cons_of_mem s hpart))
      (fun hpath => absurd hpath (by simp)), List.append_assoc]
    rfl

/-- A text without slashes goes before the first part of what follows. -/
theorem splitSlashes_append (hs : Free (isSlash special) s) {part : List Char} {others : List (List Char)}
    (h : splitSlashes special rest = part :: others) :
    splitSlashes special (s ++ rest) = (s ++ part) :: others := by
  induction s with
  | nil => exact h
  | cons c s ih =>
    rw [free_cons] at hs
    rw [List.cons_append, splitSlashes, if_neg (by rw [hs.1]; exact Bool.false_ne_true), ih hs.2]
    rfl

theorem segmentsText_cons (part : List Char) (parts : List (List Char)) :
    segmentsText (part :: parts) = '/' :: (part ++ segmentsText parts) := rfl

/-- Segments are cut where they were put together. -/
theorem splitSlashes_segmentsText (h : ∀ part ∈ parts, Free (isSlash special) part) :
    splitSlashes special (segmentsText parts) = [] :: parts := by
  induction parts with
  | nil => rfl
  | cons part parts ih =>
    rw [List.forall_mem_cons] at h
    have hslash : isSlash special '/' = true := by cases special <;> rfl
    rw [segmentsText_cons, splitSlashes, if_pos hslash, splitSlashes_append h.1 (ih h.2), List.append_nil]

theorem unmarked_of_isSegment (h : ∀ part ∈ parts, IsSegment special part) :
    ∀ part ∈ parts, Unmarked part :=
  fun part hpart => (h part hpart).free.unmarked fun _ => endsPath_of_not_inPathSet

/-- A text without marks is cut at its slashes, in front of a query or a fragment. -/
theorem takeSegments_of_unmarked (h : Unmarked s) (hrest : ∀ c ∈ rest.head?, endsPath c = true) :
    takeSegments type (s ++ rest) = (addSegments type [] (splitSlashes (type != .other) s), rest) := by
  rw [takeSegments, span_of_free h hrest]

/-- **Segments that stay are found again**, in front of a query or a fragment. -/
theorem takeSegments_append (hne : parts ≠ []) (h : ∀ part ∈ parts, IsSegment (type != .other) part)
    (hdrive : DriveKept type parts) (hrest : ∀ c ∈ rest.head?, endsPath c = true) :
    takeSegments type (dropSlash (type != .other) (segmentsText parts ++ rest)) = (parts, rest) := by
  cases parts with
  | nil => exact absurd rfl hne
  | cons part parts =>
    have hslash : ∀ special : Bool, isSlash special '/' = true := by decide
    have hdrop : dropSlash (type != .other) (segmentsText (part :: parts) ++ rest) =
        part ++ segmentsText parts ++ rest := by
      rw [segmentsText_cons, List.cons_append, dropSlash, if_pos (hslash _)]
    have hmark : Unmarked (part ++ segmentsText parts) := by
      have hall := unmarked_of_isSegment h
      rw [List.forall_mem_cons] at hall
      exact unmarked_append.mpr ⟨hall.1, unmarked_segmentsText hall.2⟩
    have hsplit : splitSlashes (type != .other) (part ++ segmentsText parts) = part :: parts := by
      have hfree : ∀ p ∈ part :: parts, Free (isSlash (type != .other)) p := fun p hp => (h p hp).slash
      rw [List.forall_mem_cons] at hfree
      rw [splitSlashes_append hfree.1 (splitSlashes_segmentsText hfree.2), List.append_nil]
    rw [hdrop, takeSegments_of_unmarked hmark hrest, hsplit, addSegments_of_isSegment h fun _ => hdrive,
      List.nil_append]

end Segments

/-! ## 5. Queries and fragments -/

/-- The characters that are encoded in a query. -/
def querySet (type : SchemeType) : Char → Bool := if type = .other then inQuerySet else inSpecialQuerySet

/-- A query and a fragment in which nothing is left to encode. -/
structure Ended (type : SchemeType) (query fragment : Option (List Char)) : Prop where
  query : ∀ q ∈ query, Free (querySet type) q
  fragment : ∀ f ∈ fragment, Free inFragmentSet f

section Ended

variable {type : SchemeType} {u : Url}

theorem not_inQuerySet_of_querySet {c : Char} (h : querySet type c = false) : inQuerySet c = false := by
  unfold querySet at h
  split at h
  · exact h
  · exact (Bool.or_eq_false_iff.mp h).1

theorem head_fragmentText (u : Url) : ∀ c ∈ u.fragmentText.head?, c = '#' := by
  unfold fragmentText
  split
  · exact nofun
  · intro c hc
    exact (Option.some.inj hc).symm

/-- What stands behind a path begins with a mark. -/
theorem head_end (u : Url) : ∀ c ∈ (u.queryText ++ u.fragmentText).head?, endsPath c = true := by
  unfold queryText
  split
  · intro c hc
    rw [u.head_fragmentText c hc]
    rfl
  · intro c hc
    rw [← Option.some.inj hc]
    rfl

/-- Nothing is stripped off behind a path. -/
theorem Ended.free_margin (h : Ended type u.query u.fragment) : Free isMargin (u.queryText ++ u.fragmentText) := by
  have hquery : Free isMargin u.queryText := by
    unfold queryText
    split
    · exact free_nil
    · rename_i q hq
      refine free_cons.mpr ⟨rfl, (h.query q hq).mono fun c hc => ?_⟩
      have hset := not_inQuerySet_of_querySet hc
      refine isMargin_of_not_isControl (isControl_of_not_inQuerySet hset) ?_
      rintro rfl
      exact absurd hset (by decide)
  have hfragment : Free isMargin u.fragmentText := by
    unfold fragmentText
    split
    · exact free_nil
    · rename_i f hf
      refine free_cons.mpr ⟨rfl, (h.fragment f hf).mono fun c hc => ?_⟩
      refine isMargin_of_not_isControl (isControl_of_not_inFragmentSet hc) ?_
      rintro rfl
      exact absurd hc (by decide)
  exact free_append.mpr ⟨hquery, hfragment⟩

theorem readEnd_fragmentText (h : ∀ f ∈ u.fragment, Free inFragmentSet f) :
    readEnd type u.fragmentText = (none, u.fragment) := by
  unfold fragmentText
  cases hf : u.fragment with
  | none => rfl
  | some f =>
    show (none, some (percentEncode inFragmentSet f)) = _
    rw [percentEncode_of_free (h f hf)]

/-- **A query and a fragment are found again.** -/
theorem readEnd_append (h : Ended type u.query u.fragment) :
    readEnd type (u.queryText ++ u.fragmentText) = (u.query, u.fragment) := by
  unfold queryText
  cases hq : u.query with
  | none => exact readEnd_fragmentText h.fragment
  | some q =>
    have hfree := h.query q hq
    have hhash : Free (· == '#') q := hfree.mono fun c hc => by
      rw [beq_eq_false_iff_ne]
      rintro rfl
      exact absurd (not_inQuerySet_of_querySet hc) (by decide)
    have hspan : (q ++ u.fragmentText).span (· != '#') = (q, u.fragmentText) :=
      span_of_free hhash fun c hc => by rw [u.head_fragmentText c hc]; rfl
    rw [List.cons_append]
    unfold readEnd
    dsimp only
    split
    · rename_i heq
      cases heq
      rw [hspan]
      dsimp only
      rw [← querySet, percentEncode_of_free hfree]
      cases hf : u.fragment with
      | none => simp [fragmentText, hf]
      | some f => simp [fragmentText, hf, percentEncode_of_free (h.fragment f hf)]
    · rename_i hne
      exact absurd rfl (hne _)

/-- **What is read behind a path is of this kind.** -/
theorem ended_readEnd (type : SchemeType) (s : List Char) : Ended type (readEnd type s).1 (readEnd type s).2 := by
  have hquery (q : List Char) : Free (querySet type) (percentEncode (querySet type) q) :=
    free_percentEncode_self (by cases type <;> decide) (by cases type <;> decide) _
  have hfragment (f : List Char) : Free inFragmentSet (percentEncode inFragmentSet f) :=
    free_percentEncode_self (by decide) (by decide) _
  constructor
  · intro q hq
    unfold readEnd at hq
    dsimp only at hq
    split at hq
    · rw [Option.mem_some_iff] at hq
      rw [← hq]
      exact hquery _
    · cases hq
  · intro f hf
    unfold readEnd at hf
    dsimp only at hf
    split at hf <;> dsimp only at hf <;> split at hf
    · rw [Option.mem_some_iff] at hf
      rw [← hf]
      exact hfragment _
    · cases hf
    · rw [Option.mem_some_iff] at hf
      rw [← hf]
      exact hfragment _
    · cases hf

end Ended

end Vignette.Url

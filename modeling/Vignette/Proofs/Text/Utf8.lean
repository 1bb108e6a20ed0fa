import Vignette.Text.Utf8

/-!
# Text read back from its bytes

Whatever bytes stand behind the bytes of a character, they do not change how that character is read.
So a text is read back from its own bytes, and no replacement character is put into it.

Main statement: **decoding undoes encoding** (`Text.decodeUtf8_encodeUtf8`).
-/

namespace Vignette.Text

/-! ## 1. The bytes of a text -/

theorem toList_loop (bs : ByteArray) (i : Nat) (r : List UInt8) :
    ByteArray.toList.loop bs i r = r.reverse ++ bs.data.toList.drop i := by
  fun_induction ByteArray.toList.loop bs i r with
  | case1 i r hi ih =>
    have hlength : i < bs.data.toList.length := hi
    have hget : bs.get! i = bs.data.toList[i] := getElem!_pos bs.data i hi
    rw [ih, List.drop_eq_getElem_cons hlength, List.reverse_cons, hget, List.append_assoc,
      List.singleton_append]
  | case2 i r hi =>
    have hlength : bs.data.toList.length ≤ i := Nat.le_of_not_lt hi
    rw [List.drop_eq_nil_of_le hlength, List.append_nil]

theorem toList_toByteArray (l : List UInt8) : l.toByteArray.toList = l := by
  rw [ByteArray.toList, toList_loop, List.reverse_nil, List.nil_append, List.drop_zero,
    List.toList_data_toByteArray]

/-- **The bytes of a text are those of its characters.** -/
theorem encodeUtf8_eq (s : List Char) : encodeUtf8 s = s.flatMap String.utf8EncodeChar := by
  rw [encodeUtf8, String.toUTF8, String.toByteArray_ofList, List.utf8Encode, toList_toByteArray]

theorem toList_toUTF8 (s : String) : s.toUTF8.toList = encodeUtf8 s.toList := by
  rw [encodeUtf8, String.ofList_toList]

/-! ## 2. One character -/

theorem decodeUtf8_ascii {b : UInt8} (h : b.toNat < 0x80) (bs : List UInt8) :
    decodeUtf8 (b :: bs) = Char.ofNat b.toNat :: decodeUtf8 bs := by
  rw [decodeUtf8, if_pos h]

/-- A first byte tells how many bytes are to follow. -/
theorem decodeUtf8_lead {b : UInt8} {more acc lo hi : Nat} (h : 0x80 ≤ b.toNat)
    (hlead : leadByte? b = some (more, acc, lo, hi)) (bs : List UInt8) :
    decodeUtf8 (b :: bs) =
      (continueUtf8 more acc lo hi bs).1 :: decodeUtf8 (continueUtf8 more acc lo hi bs).2 := by
  rw [decodeUtf8, if_neg (Nat.not_lt.mpr h), hlead]

/-- A byte that may follow contributes its last six bits. -/
theorem continueUtf8_cons {b : UInt8} {lo hi : Nat} (hlo : lo ≤ b.toNat) (hhi : b.toNat ≤ hi)
    (more acc : Nat) (bs : List UInt8) :
    continueUtf8 (more + 1) acc lo hi (b :: bs) =
      continueUtf8 more (64 * acc + (b.toNat - 0x80)) 0x80 0xBF bs := by
  rw [continueUtf8, if_pos ⟨hlo, hhi⟩]

theorem toNat_ofNat {n : Nat} (h : n < 256) : (UInt8.ofNat n).toNat = n := by
  rw [UInt8.toNat_ofNat', Nat.mod_eq_of_lt h]

/-- A byte behind the first. -/
theorem toNat_tail (n : Nat) : (UInt8.ofNat (n % 64 + 128)).toNat = n % 64 + 128 :=
  toNat_ofNat (by omega)

/-- A character of two bytes. -/
theorem decodeUtf8_two {v : Nat} (hlo : 0x80 ≤ v) (hhi : v < 0x800) (bs : List UInt8) :
    decodeUtf8 (UInt8.ofNat (v / 64 % 32 + 192) :: UInt8.ofNat (v % 64 + 128) :: bs) =
      Char.ofNat v :: decodeUtf8 bs := by
  have hb : (UInt8.ofNat (v / 64 % 32 + 192)).toNat = v / 64 + 192 :=
    (toNat_ofNat (by omega)).trans (by omega)
  have hlead : leadByte? (UInt8.ofNat (v / 64 % 32 + 192)) = some (1, v / 64, 0x80, 0xBF) := by
    simp only [leadByte?, hb]
    rw [if_neg (by omega), if_pos (by omega), Nat.add_sub_cancel]
  have hv : 64 * (v / 64) + (v % 64 + 128 - 0x80) = v := by omega
  rw [decodeUtf8_lead (by omega) hlead,
    continueUtf8_cons (by rw [toNat_tail]; omega) (by rw [toNat_tail]; omega), toNat_tail, hv]
  rfl

/-- A character of three bytes: the second stays above the shorter forms and below the surrogates. -/
theorem decodeUtf8_three {v : Nat} (hlo : 0x800 ≤ v) (hhi : v < 0x10000)
    (hvalid : v < 0xD800 ∨ 0xDFFF < v) (bs : List UInt8) :
    decodeUtf8 (UInt8.ofNat (v / 4096 % 16 + 224) :: UInt8.ofNat (v / 64 % 64 + 128) ::
        UInt8.ofNat (v % 64 + 128) :: bs) = Char.ofNat v :: decodeUtf8 bs := by
  have hb : (UInt8.ofNat (v / 4096 % 16 + 224)).toNat = v / 4096 + 224 :=
    (toNat_ofNat (by omega)).trans (by omega)
  obtain ⟨lo, hi, hlead, hsecond⟩ : ∃ lo hi,
      leadByte? (UInt8.ofNat (v / 4096 % 16 + 224)) = some (2, v / 4096, lo, hi) ∧
        lo ≤ v / 64 % 64 + 128 ∧ v / 64 % 64 + 128 ≤ hi := by
    simp only [leadByte?, hb]
    rw [if_neg (by omega), if_neg (by omega)]
    by_cases hfirst : v / 4096 = 0
    · exact ⟨0xA0, 0xBF, by rw [if_pos (by omega), hfirst], by omega⟩
    rw [if_neg (by omega)]
    by_cases hsurrogate : v / 4096 = 0xD
    · exact ⟨0x80, 0x9F, by rw [if_pos (by omega), hsurrogate], by omega⟩
    · exact ⟨0x80, 0xBF, by rw [if_neg (by omega), if_pos (by omega), Nat.add_sub_cancel], by omega⟩
  have hv : 64 * (64 * (v / 4096) + (v / 64 % 64 + 128 - 0x80)) + (v % 64 + 128 - 0x80) = v := by omega
  rw [decodeUtf8_lead (by omega) hlead,
    continueUtf8_cons (by rw [toNat_tail]; exact hsecond.1) (by rw [toNat_tail]; exact hsecond.2),
    continueUtf8_cons (by rw [toNat_tail]; omega) (by rw [toNat_tail]; omega), toNat_tail, toNat_tail, hv]
  rfl

/-- A character of four bytes: the second stays above the shorter forms and below the last
    character. -/
theorem decodeUtf8_four {v : Nat} (hlo : 0x10000 ≤ v) (hhi : v < 0x110000) (bs : List UInt8) :
    decodeUtf8 (UInt8.ofNat (v / 262144 % 8 + 240) :: UInt8.ofNat (v / 4096 % 64 + 128) ::
        UInt8.ofNat (v / 64 % 64 + 128) :: UInt8.ofNat (v % 64 + 128) :: bs) =
      Char.ofNat v :: decodeUtf8 bs := by
  have hb : (UInt8.ofNat (v / 262144 % 8 + 240)).toNat = v / 262144 + 240 :=
    (toNat_ofNat (by omega)).trans (by omega)
  obtain ⟨lo, hi, hlead, hsecond⟩ : ∃ lo hi,
      leadByte? (UInt8.ofNat (v / 262144 % 8 + 240)) = some (3, v / 262144, lo, hi) ∧
        lo ≤ v / 4096 % 64 + 128 ∧ v / 4096 % 64 + 128 ≤ hi := by
    simp only [leadByte?, hb]
    rw [if_neg (by omega), if_neg (by omega), if_neg (by omega), if_neg (by omega), if_neg (by omega)]
    by_cases hfirst : v / 262144 = 0
    · exact ⟨0x90, 0xBF, by rw [if_pos (by omega), hfirst], by omega⟩
    rw [if_neg (by omega)]
    by_cases hlast : v / 262144 = 4
    · exact ⟨0x80, 0x8F, by rw [if_neg (by omega), if_pos (by omega), hlast], by omega⟩
    · exact ⟨0x80, 0xBF, by rw [if_pos (by omega), Nat.add_sub_cancel], by omega⟩
  have hv : 64 * (64 * (64 * (v / 262144) + (v / 4096 % 64 + 128 - 0x80)) +
      (v / 64 % 64 + 128 - 0x80)) + (v % 64 + 128 - 0x80) = v := by omega
  rw [decodeUtf8_lead (by omega) hlead,
    continueUtf8_cons (by rw [toNat_tail]; exact hsecond.1) (by rw [toNat_tail]; exact hsecond.2),
    continueUtf8_cons (by rw [toNat_tail]; omega) (by rw [toNat_tail]; omega),
    continueUtf8_cons (by rw [toNat_tail]; omega) (by rw [toNat_tail]; omega), toNat_tail, toNat_tail,
    toNat_tail, hv]
  rfl

/-- **A character is read back, whatever follows.** -/
theorem decodeUtf8_encodeChar (c : Char) (bs : List UInt8) :
    decodeUtf8 (String.utf8EncodeChar c ++ bs) = c :: decodeUtf8 bs := by
  have hvalid : c.val.toNat < 0xD800 ∨ 0xDFFF < c.val.toNat ∧ c.val.toNat < 0x110000 := c.valid
  have hback : Char.ofNat c.val.toNat = c := Char.ofNat_toNat c
  rw [String.utf8EncodeChar]
  generalize c.val.toNat = v at hvalid hback ⊢
  rw [← hback]
  split
  · have hv : (UInt8.ofNat v).toNat = v := toNat_ofNat (by omega)
    rw [List.singleton_append, decodeUtf8_ascii (by omega), hv]
  split
  · exact decodeUtf8_two (by omega) (by omega) bs
  split
  · exact decodeUtf8_three (by omega) (by omega) (by omega) bs
  · exact decodeUtf8_four (by omega) (by omega) bs

/-- The first byte of a character within ASCII is the character. -/
theorem exists_first_byte (c : Char) : ∃ b rest, String.utf8EncodeChar c = b :: rest ∧
    (b.toNat < 0x80 → c = Char.ofNat b.toNat) := by
  cases hbytes : String.utf8EncodeChar c with
  | nil => exact absurd hbytes String.utf8EncodeChar_ne_nil
  | cons b rest =>
    refine ⟨b, rest, rfl, fun hb => ?_⟩
    have hread := decodeUtf8_encodeChar c []
    rw [hbytes, List.cons_append, decodeUtf8_ascii hb] at hread
    exact (List.head_eq_of_cons_eq hread).symm

/-! ## 3. Texts -/

/-- **Decoding undoes encoding.** -/
theorem decodeUtf8_encodeUtf8 (s : List Char) : decodeUtf8 (encodeUtf8 s) = s := by
  rw [encodeUtf8_eq]
  induction s with
  | nil => rw [List.flatMap_nil, decodeUtf8]
  | cons c s ih => rw [List.flatMap_cons, decodeUtf8_encodeChar, ih]

end Vignette.Text

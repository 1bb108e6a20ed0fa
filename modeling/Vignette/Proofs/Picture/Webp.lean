import Mathlib.Data.List.Basic
import Vignette.Proofs.Picture.Bits
import Vignette.Proofs.Picture.Header

/-!
# WebP read back

Behind the dimensions of a written file stand five prefix codes and then the pixels, bit by bit. Three of
the codes give each byte a word of eight bits (`Webp.bytesCode`), so three words are a pixel
(`Webp.readPixels?_of_stands`); the other two have one symbol each, whose word is empty.

Main statement: **what is encoded as WebP is decoded to the picture that it was, with three samples of a
byte** (`Webp.decode?_encode`).
-/

namespace Vignette.Webp

open Binary (byteAt bytes)
open Deflate (lowBits bitList bit? bits? Stands stands_append)

variable {data : ByteArray} {place : Nat}

/-! ## 1. Words -/

/-- A code whose words all have eight bits gives them to the symbols in order. -/
structure EightBits (c : Deflate.Code) : Prop where
  shorter : ∀ n, n < 8 → c.counts.getD n 0 = 0
  eight : c.counts.getD 8 0 = 256
  symbols : ∀ n, n < 256 → c.symbols[n]? = some n

/-- The number that bits make behind others, the highest bit first. -/
def word (w : Nat) (bs : List Nat) : Nat := bs.foldl (fun w b => 2 * w + b) w

/-- The last bits of a word lead to its symbol. -/
theorem symbol?_of_stands {c : Deflate.Code} (hc : EightBits c) : ∀ (bs : List Nat) (len w fuel place : Nat),
    bs ≠ [] → len + bs.length = 9 → bs.length ≤ fuel → Stands data place bs → word w bs < 256 →
      Deflate.Code.symbol? c data fuel len place w 0 0 = some (word w bs, place + bs.length)
  | [], _, _, _, _, h, _, _, _, _ => absurd rfl h
  | _ :: _, _, _, 0, _, _, _, hfuel, _, _ => absurd hfuel (Nat.not_succ_le_zero _)
  | [b], len, w, fuel + 1, place, _, hlen, _, hold, hw => by
    obtain rfl : len = 8 := Nat.succ.inj hlen
    have hword : word w [b] = 2 * w + b := rfl
    rw [hword] at hw ⊢
    rw [Deflate.Code.symbol?, hold.1]
    simp only [Nat.mul_zero, Nat.zero_add, Nat.sub_zero, hc.eight, hc.symbols _ hw, hw, if_true]
    rfl
  | b :: b' :: bs, len, w, fuel + 1, place, _, hlen, hfuel, hold, hw => by
    have hshort : c.counts.getD len 0 = 0 := hc.shorter len (by simp only [List.length_cons] at hlen; omega)
    have ih := symbol?_of_stands hc (b' :: bs) (len + 1) (2 * w + b) fuel (place + 1)
      (List.cons_ne_nil _ _) (by simp only [List.length_cons] at hlen ⊢; omega)
      (Nat.le_of_succ_le_succ hfuel) hold.2 hw
    rw [Deflate.Code.symbol?, hold.1]
    simp only [Nat.mul_zero, Nat.zero_add, hshort, Nat.not_lt_zero, if_false, Nat.add_zero]
    rw [ih, List.length_cons, List.length_cons, Nat.add_assoc place 1, Nat.add_comm 1]
    rfl

theorem getD_reversedTable {n : Nat} (h : n < 256) : reversedTable.getD n 0 = reversed (UInt8.ofNat n) := by
  rw [reversedTable, Array.getD_eq_getD_getElem?, Array.getElem?_map, Array.getElem?_range, if_pos h,
    Option.map_some, Option.getD_some]

/-- The bits of a byte in reverse order spell it, the highest bit first. -/
theorem word_reversed : ∀ n < 256, word 0 (lowBits 8 (reversed (UInt8.ofNat n))) = n := by decide +kernel

/-- **A word of eight bits is read as its byte.** -/
theorem read?_of_stands {c : Deflate.Code} (hc : EightBits c) {b : UInt8}
    (h : Stands data place (lowBits 8 (reversedTable.getD b.toNat 0))) :
    (Code.many c).read? data place = some (b.toNat, place + 8) := by
  rw [getD_reversedTable b.toNat_lt] at h
  have hword := word_reversed _ b.toNat_lt
  have hlength := Deflate.length_lowBits 8 (reversed (UInt8.ofNat b.toNat))
  generalize lowBits 8 (reversed (UInt8.ofNat b.toNat)) = bs at h hword hlength
  have hne : bs ≠ [] := List.ne_nil_of_length_pos (by rw [hlength]; decide)
  have hread := symbol?_of_stands hc bs 1 0 15 place hne (by rw [hlength])
    (by rw [hlength]; decide) h (by rw [hword]; exact b.toNat_lt)
  rw [hword, hlength] at hread
  exact hread

/-! ## 2. Codes -/

/-- The lengths of a code for bytes: eight for each, and nothing for the `rest` behind them. -/
def byteLengths (rest : Nat) : List Nat := List.replicate 256 8 ++ List.replicate rest 0

/-- The code for lengths: a word for zero, and a word for eight. -/
def lengthCode : Deflate.Code := ⟨#[0, 2, 0, 0, 0, 0, 0, 0, 0, 0, 0, 0, 0, 0, 0, 0], #[0, 8]⟩

/-- The code for bytes. -/
def bytesCode : Deflate.Code :=
  ⟨#[0, 0, 0, 0, 0, 0, 0, 0, 256, 0, 0, 0, 0, 0, 0, 0], (List.range' 0 256).toArray⟩

theorem eightBits_bytesCode : EightBits bytesCode where
  shorter := by decide
  eight := rfl
  symbols n hn := by
    rw [bytesCode, List.getElem?_toArray, List.getElem?_range' hn, Nat.one_mul, Nat.zero_add]

/-- The symbols among equal lengths that have a certain length. -/
theorem filterMap_zipIdx_replicate (a len n i : Nat) :
    ((List.replicate n a).zipIdx i).filterMap (fun (m, j) => if m = len then some j else none) =
      if a = len then List.range' i n else [] := by
  induction n generalizing i with
  | zero => exact (ite_self _).symm
  | succ n ih =>
    rw [List.replicate_succ, List.zipIdx_cons, List.filterMap_cons, ih, List.range'_succ]
    by_cases h : a = len
    · simp only [if_pos h]
    · simp only [if_neg h]

/-- **The lengths of a code for bytes make that code.** -/
theorem ofLengths?_byteLengths (rest : Nat) :
    Deflate.Code.ofLengths? (byteLengths rest) false = some bytesCode := by
  have hcounts : ((List.range 15).map fun k => ((byteLengths rest).filter (· == k + 1)).length) =
      [0, 0, 0, 0, 0, 0, 0, 256, 0, 0, 0, 0, 0, 0, 0] := by
    have hcount (k : Nat) : ((byteLengths rest).filter (· == k + 1)).length = if 8 = k + 1 then 256 else 0 := by
      have hzero : ¬ ((0 : Nat) == k + 1) = true := by simp
      rw [byteLengths, List.filter_append, List.filter_replicate, List.filter_replicate, if_neg hzero,
        List.append_nil]
      simp only [beq_iff_eq]
      split
      · exact List.length_replicate
      · rfl
    simp only [hcount]
    rfl
  have hsymbols : ((List.range 15).flatMap fun k =>
      (byteLengths rest).zipIdx.filterMap fun (n, i) => if n = k + 1 then some i else none) =
        List.range' 0 256 := by
    have hone (k : Nat) : ((byteLengths rest).zipIdx.filterMap fun (n, i) => if n = k + 1 then some i else none) =
        if 8 = k + 1 then List.range' 0 256 else [] := by
      rw [byteLengths, List.zipIdx_append, List.filterMap_append, filterMap_zipIdx_replicate,
        filterMap_zipIdx_replicate, if_neg (Nat.succ_ne_zero k).symm, List.append_nil]
    simp only [hone]
    generalize List.range' 0 256 = symbols
    exact List.append_nil symbols
  unfold Deflate.Code.ofLengths?
  simp only [hcounts, hsymbols]
  rfl

theorem code_ofLengths?_byteLengths (rest : Nat) : Code.ofLengths? (byteLengths rest) = some (.many bytesCode) := by
  have htwo : byteLengths rest = 8 :: 8 :: (List.replicate 254 8 ++ List.replicate rest 0) := rfl
  unfold Code.ofLengths?
  rw [ofLengths?_byteLengths, htwo, List.zipIdx_cons, List.zipIdx_cons, List.filter_cons_of_pos (by decide),
    List.filter_cons_of_pos (by decide)]
  rfl

/-! ## 3. Codes that are read -/

/-- A length is a bit. -/
theorem read?_lengthCode {b : Nat} (hb : b < 2) (h : bit? data place = some b) :
    (Code.many lengthCode).read? data place = some (8 * b, place + 1) := by
  rw [Code.read?, Deflate.Code.read?, Deflate.Code.symbol?, h]
  obtain rfl | rfl : b = 0 ∨ b = 1 := by omega
  · rfl
  · rfl

/-- **Equal lengths are read one after the other**: eights or zeros, when the last that was not zero is an
    eight. -/
theorem readLengths?_replicate {b : Nat} (hb : b < 2) : ∀ {n fuel room place : Nat} {done : List Nat},
    Stands data place (List.replicate n b) →
      readLengths? (.many lengthCode) data (fuel + n) (room + n) 8 place done =
        readLengths? (.many lengthCode) data fuel room 8 (place + n) (List.replicate n (8 * b) ++ done)
  | 0, _, _, _, _, _ => rfl
  | n + 1, fuel, room, place, done, h => by
    have hlast : (if 8 * b = 0 then 8 else 8 * b) = 8 := by
      split <;> omega
    rw [← Nat.add_assoc fuel, ← Nat.add_assoc room, readLengths?, read?_lengthCode hb h.1]
    dsimp only
    rw [if_pos (by omega), hlast, readLengths?_replicate hb h.2, Nat.add_assoc place, Nat.add_comm 1,
      List.replicate_succ', List.append_assoc]
    rfl

/-- Numbers of the same width are read one after the other. -/
theorem mapM_bits? {n : Nat} : ∀ {vs : List Nat} {place : Nat}, Stands data place (vs.flatMap (lowBits n)) →
    (∀ v ∈ vs, v < 2 ^ n) → (List.range vs.length).mapM (fun i => bits? data (place + n * i) n) = some vs
  | [], _, _, _ => rfl
  | v :: vs, place, h, hlt => by
    rw [List.flatMap_cons, stands_append, Deflate.length_lowBits] at h
    have hv := Deflate.bits?_of_lt h.1 (hlt v List.mem_cons_self)
    have ih := mapM_bits? h.2 fun u hu => hlt u (List.mem_cons_of_mem v hu)
    have hshift (i : Nat) : place + n * (i + 1) = place + n + n * i := by
      rw [Nat.mul_succ, Nat.add_comm (n * i), Nat.add_assoc]
    rw [List.length_cons, List.range_succ_eq_map, List.mapM_cons, List.mapM_map, Nat.mul_zero, Nat.add_zero, hv]
    simp only [Function.comp_def, hshift, ih]
    rfl

/-- The lengths of the code for lengths, in the order in which they are written. -/
def lengthLengths : List Nat := [0, 0, 1, 0, 0, 0, 0, 0, 0, 0, 0, 1]

/-- The bits of a code for bytes. -/
def bytesCodeBits (rest : Nat) : List Nat :=
  lowBits 1 0 ++ (lowBits 4 8 ++ (lengthLengths.flatMap (lowBits 3) ++ (lowBits 1 0 ++
    (List.replicate 256 1 ++ List.replicate rest 0))))

theorem length_bytesCodeBits (rest : Nat) : (bytesCodeBits rest).length = 298 + rest := by
  simp only [bytesCodeBits, List.length_append, Deflate.length_lowBits, List.length_replicate]
  have hlength : (lengthLengths.flatMap (lowBits 3)).length = 36 := rfl
  omega

/-- **A code for bytes is read as it was written.** -/
theorem readCode?_bytes {rest : Nat} (h : Stands data place (bytesCodeBits rest)) :
    readCode? data (256 + rest) place = some (.many bytesCode, place + (298 + rest)) := by
  have hthree : (lengthLengths.flatMap (lowBits 3)).length = 36 := rfl
  simp only [bytesCodeBits, stands_append, Deflate.length_lowBits, hthree, List.length_replicate] at h
  obtain ⟨hsimple, hcount, hgiven, hall, heights, hzeros⟩ := h
  have hgiven' := mapM_bits? hgiven (by decide)
  have hcode : Code.ofLengths? ((List.range 19).map fun s =>
      ((lengthOrder.zip lengthLengths).lookup s).getD 0) = some (.many lengthCode) := rfl
  have hlengths : readLengths? (.many lengthCode) data (256 + rest + 1) (256 + rest) 8 (place + 1 + 4 + 36 + 1) [] =
      some (List.replicate rest 0 ++ List.replicate 256 8, place + 1 + 4 + 36 + 1 + 256 + rest) := by
    have hfuel : 256 + rest + 1 = 1 + rest + 256 := by omega
    have hroom : 256 + rest = 0 + rest + 256 := by omega
    rw [hfuel, hroom, readLengths?_replicate (by decide) heights, readLengths?_replicate (by decide) hzeros,
      List.append_nil]
    rfl
  have hreverse : (List.replicate rest 0 ++ List.replicate 256 8).reverse = byteLengths rest := by
    rw [List.reverse_append, List.reverse_replicate, List.reverse_replicate, byteLengths]
  have hplace (i : Nat) : place + 5 + 3 * i = place + 1 + 4 + 3 * i := rfl
  have hplace' : place + 1 + 4 + 3 * lengthLengths.length = place + 1 + 4 + 36 := rfl
  have hcount' : lengthLengths.length = 8 + 4 := rfl
  unfold readCode?
  simp only [Deflate.bits?_of_lt hsimple (by decide), Deflate.bits?_of_lt hcount (by decide),
    Option.bind_eq_bind, Option.bind_some, if_neg (by decide : ¬ 0 = 1), hplace, hplace', ← hcount', hgiven',
    hcode, Deflate.bits?_of_lt hall (by decide), hlengths, hreverse, code_ofLengths?_byteLengths]
  refine congrArg (fun i => some (Code.many bytesCode, i)) ?_
  omega

/-- The bits of a code of one symbol, which has eight bits, or one. -/
def oneCodeBits (symbol : Nat) (wide : Bool) : List Nat :=
  lowBits 1 1 ++ (lowBits 1 0 ++ (lowBits 1 wide.toNat ++ lowBits (if wide then 8 else 1) symbol))

/-- **A code of one symbol is read as it was written.** -/
theorem readCode?_one {symbol : Nat} {wide : Bool} (hsymbol : symbol < 2 ^ (if wide then 8 else 1))
    (h : Stands data place (oneCodeBits symbol wide)) (alphabet : Nat) :
    readCode? data alphabet place = some (.one symbol, place + (oneCodeBits symbol wide).length) := by
  simp only [oneCodeBits, stands_append, Deflate.length_lowBits, List.length_append] at h ⊢
  obtain ⟨hsimple, htwo, hwide, hone⟩ := h
  have hwide' : bits? data (place + 1 + 1) 1 = some wide.toNat :=
    Deflate.bits?_of_lt hwide (by cases wide <;> decide)
  have hone' : bits? data (place + 3) (if wide then 8 else 1) = some symbol := Deflate.bits?_of_lt hone hsymbol
  have hbits : (if wide.toNat = 1 then 8 else 1) = if wide then 8 else 1 := by cases wide <;> rfl
  unfold readCode?
  simp only [Deflate.bits?_of_lt hsimple (by decide), Deflate.bits?_of_lt htwo (by decide), Option.bind_eq_bind,
    Option.bind_some, if_true, hwide', hbits, hone']
  refine congrArg (fun i => some (Code.one symbol, i)) ?_
  omega

/-! ## 4. Pixels -/

/-- The word of the byte at a place. -/
def wordAt (pixels : ByteArray) (i : Nat) : Nat := reversedTable.getD (byteAt pixels i).toNat 0

/-- The bits of `n` pixels from a place on: green, red, blue. -/
def pixelBits (pixels : ByteArray) : (n i : Nat) → List Nat
  | 0, _ => []
  | n + 1, i => lowBits 8 (wordAt pixels (i + 1)) ++ (lowBits 8 (wordAt pixels (i + 0)) ++
      (lowBits 8 (wordAt pixels (i + 2)) ++ pixelBits pixels n (i + 3)))

/-- **Pixels are read as they were written.** -/
theorem readPixels?_of_stands {pixels : ByteArray} : ∀ {n i place : Nat} (out : ByteArray),
    Stands data place (pixelBits pixels n i) →
      ∃ read, readPixels? data false (.many bytesCode) (.many bytesCode) (.many bytesCode) (.one 255) n place out =
          some read ∧
        read.data.toList = out.data.toList ++ (List.range' i (n * 3)).map (byteAt pixels)
  | 0, i, _, out, _ => ⟨out, rfl, by rw [Nat.zero_mul]; exact (List.append_nil _).symm⟩
  | n + 1, i, place, out, h => by
    simp only [pixelBits, stands_append, Deflate.length_lowBits] at h
    obtain ⟨hgreen, hred, hblue, hrest⟩ := h
    have hg := read?_of_stands eightBits_bytesCode hgreen
    have hr := read?_of_stands eightBits_bytesCode hred
    have hb := read?_of_stands eightBits_bytesCode hblue
    obtain ⟨read, hread, hlist⟩ := readPixels?_of_stands
      (((out.push (byteAt pixels (i + 0))).push (byteAt pixels (i + 1))).push (byteAt pixels (i + 2))) hrest
    refine ⟨read, ?_, ?_⟩
    · rw [readPixels?, hg]
      dsimp only
      rw [hr]
      dsimp only
      rw [hb]
      dsimp only [Code.read?]
      rw [if_neg (Nat.not_le.mpr (UInt8.toNat_lt _)), UInt8.ofNat_toNat, UInt8.ofNat_toNat, UInt8.ofNat_toNat]
      exact hread
    · rw [hlist, Binary.toList_push, Binary.toList_push, Binary.toList_push, Nat.succ_mul, Nat.add_comm (n * 3),
        ← List.range'_append_1, List.map_append]
      simp only [List.append_assoc]
      rfl

/-! ## 5. Writing -/

/-- A writer has written certain bits. -/
structure Bits.Wrote (b : Bits) (bs : List Nat) : Prop where
  valid : b.Valid
  list_eq : b.list = bs

namespace Bits.Wrote

variable {b : Bits} {bs : List Nat}

theorem push (h : b.Wrote bs) (value n : Nat) : (b.push value n).Wrote (bs ++ lowBits n value) := by
  obtain ⟨hvalid, hlist⟩ := h.valid.push value n
  exact ⟨hvalid, by rw [hlist, h.list_eq]⟩

theorem foldl_push (n : Nat) : ∀ (vs : List Nat) {b : Bits} {bs : List Nat}, b.Wrote bs →
    (vs.foldl (fun b v => b.push v n) b).Wrote (bs ++ vs.flatMap (lowBits n))
  | [], _, _, h => by
    rw [List.flatMap_nil, List.append_nil]
    exact h
  | v :: vs, b, bs, h => by
    rw [List.flatMap_cons, ← List.append_assoc]
    exact foldl_push n vs (h.push v n)

end Bits.Wrote

theorem lowBits_zero (n : Nat) : lowBits n 0 = List.replicate n 0 := by
  induction n with
  | zero => rfl
  | succ n ih => exact congrArg (0 :: ·) ih

theorem lowBits_ones (n : Nat) : lowBits n (2 ^ n - 1) = List.replicate n 1 := by
  induction n with
  | zero => rfl
  | succ n ih =>
    have hpos := Nat.two_pow_pos n
    have hmod : (2 ^ (n + 1) - 1) % 2 = 1 := by
      rw [Nat.pow_succ]
      omega
    have hdiv : (2 ^ (n + 1) - 1) / 2 = 2 ^ n - 1 := by
      rw [Nat.pow_succ]
      omega
    rw [lowBits, hmod, hdiv, ih, List.replicate_succ]

section Pushes

variable {b : Bits} {bs : List Nat}

theorem wrote_pushBytesCode (h : b.Wrote bs) (rest : Nat) :
    (pushBytesCode b rest).Wrote (bs ++ bytesCodeBits rest) := by
  have hwrote := (((((h.push 0 1).push 8 4).foldl_push 3 lengthLengths).push 0 1).push (2 ^ 256 - 1)
    256).push 0 rest
  rw [lowBits_ones, lowBits_zero rest] at hwrote
  simp only [List.append_assoc] at hwrote
  exact hwrote

theorem wrote_pushFullCode (h : b.Wrote bs) : (pushFullCode b).Wrote (bs ++ oneCodeBits 255 true) := by
  have hwrote := ((h.push 1 1).push 2 2).push 255 8
  simp only [List.append_assoc] at hwrote
  exact hwrote

theorem wrote_pushZeroCode (h : b.Wrote bs) : (pushZeroCode b).Wrote (bs ++ oneCodeBits 0 false) := by
  have hwrote := ((h.push 1 1).push 0 2).push 0 1
  simp only [List.append_assoc] at hwrote
  exact hwrote

theorem reversed_lt : ∀ n < 256, reversed (UInt8.ofNat n) < 2 ^ 8 := by decide +kernel

theorem wordAt_lt (pixels : ByteArray) (i : Nat) : wordAt pixels i < 2 ^ 8 := by
  rw [wordAt, getD_reversedTable (UInt8.toNat_lt _)]
  exact reversed_lt _ (UInt8.toNat_lt _)

/-- Three words in one number. -/
theorem lowBits_words {u v w : Nat} (hu : u < 2 ^ 8) (hv : v < 2 ^ 8) :
    lowBits 24 (u + 256 * v + 65536 * w) = lowBits 8 u ++ (lowBits 8 v ++ lowBits 8 w) := by
  have hsum : u + 256 * v + 65536 * w = u + (v + w * 2 ^ 8) * 2 ^ 8 := by omega
  rw [hsum, ← Deflate.lowBits_add 8 8 w hv, ← Deflate.lowBits_add 16 8 _ hu]

theorem wrote_pushPixels (pixels : ByteArray) : ∀ {n i : Nat} {b : Bits} {bs : List Nat}, b.Wrote bs →
    (pushPixels pixels n i b).Wrote (bs ++ pixelBits pixels n i)
  | 0, _, _, bs, h => by
    rw [pixelBits, List.append_nil]
    exact h
  | n + 1, i, b, bs, h => by
    have hwrote := wrote_pushPixels pixels (n := n) (i := i + 3)
      (h.push (wordAt pixels (i + 1) + 256 * wordAt pixels (i + 0) + 65536 * wordAt pixels (i + 2)) 24)
    rw [lowBits_words (wordAt_lt _ _) (wordAt_lt _ _)] at hwrote
    simp only [List.append_assoc] at hwrote
    exact hwrote

end Pushes

/-- The bits behind the dimensions. -/
def bodyBits (p : Picture) : List Nat :=
  lowBits 3 0 ++ (bytesCodeBits 24 ++ (bytesCodeBits 0 ++ (bytesCodeBits 0 ++ (oneCodeBits 255 true ++
    (oneCodeBits 0 false ++ pixelBits p.data (p.width * p.height) 0)))))

/-- **The bits of the body are those of the codes and the pixels.** -/
theorem exists_bitList_body (p : Picture) : ∃ rest, bitList (body p).data.toList = bodyBits p ++ rest := by
  have hstart : (Bits.mk ByteArray.empty 0 0).Wrote [] := ⟨⟨by decide, by decide⟩, rfl⟩
  have hwrote := wrote_pushPixels p.data (n := p.width * p.height) (i := 0) (wrote_pushZeroCode
    (wrote_pushFullCode (wrote_pushBytesCode (wrote_pushBytesCode (wrote_pushBytesCode (hstart.push 0 3) 24) 0) 0)))
  obtain ⟨rest, hrest⟩ := hwrote.valid.exists_finish
  refine ⟨rest, ?_⟩
  rw [hwrote.list_eq] at hrest
  simp only [List.append_assoc, List.nil_append] at hrest
  rw [bodyBits]
  simp only [List.append_assoc]
  exact hrest

/-! ## 6. Files -/

/-- **The codes and the pixels stand behind the dimensions.** -/
theorem stands_encode (p : Picture) : Stands (encode p) 200 (bodyBits p.toRgb8) := by
  obtain ⟨rest, hrest⟩ := exists_bitList_body p.toRgb8
  have hfront : (bitList (opening p.size (body p.toRgb8).size)).length = 200 := by
    rw [Deflate.length_bitList, opening, ascii_RIFF, ascii_WEBPVP8L]
    simp only [List.length_append, Binary.length_le, List.length_cons, List.length_nil]
  have hlist : bitList (encode p).data.toList = bitList (opening p.size (body p.toRgb8).size) ++
      (bodyBits p.toRgb8 ++ (rest ++ bitList (List.replicate ((5 + (body p.toRgb8).size) % 2) 0))) := by
    rw [encode]
    simp only [ByteArray.toList_data_append, Binary.toList_bytes, Deflate.bitList_append, hrest, List.append_assoc]
  exact hfront ▸ Deflate.stands_of_bitList hlist

/-- **What is encoded as WebP is decoded to the picture that it was, with three samples of a byte.** -/
theorem decode?_encode {p : Picture} (hsize : p.size.InLimits) : decode? (encode p) = some p.toRgb8 := by
  have hold := stands_encode p
  have hone : (oneCodeBits 255 true).length = 11 := rfl
  have hone' : (oneCodeBits 0 false).length = 4 := rfl
  simp only [bodyBits, stands_append, Deflate.length_lowBits, length_bytesCodeBits, hone, hone'] at hold
  obtain ⟨hstart, hgreen, hred, hblue, halpha, hlast, hpixels⟩ := hold
  obtain ⟨read, hread, hlist⟩ := readPixels?_of_stands ByteArray.empty hpixels
  have hdata : read = p.toRgb8.data := by
    refine Binary.ext_toList ?_
    rw [hlist, ← Binary.map_byteAt_range p.toRgb8.data, p.toRgb8.data_size]
    rfl
  have hzero : bits? (encode p) 200 3 = some 0 := Deflate.bits?_of_lt hstart (by decide)
  have hgreen' := readCode?_bytes hgreen
  have hred' := readCode?_bytes hred
  have hblue' := readCode?_bytes hblue
  have halpha' := readCode?_one (by decide) halpha 256
  have hlast' := readCode?_one (by decide) hlast 40
  have halike : (Color.rgb8 == Color.rgba8) = false := rfl
  have hpicture : Picture.ofData? p.size .rgb8 p.toRgb8.data = some p.toRgb8 := Picture.ofData?_self p.toRgb8
  have hcount : p.size.width.toNat * p.size.height.toNat = p.toRgb8.width * p.toRgb8.height := rfl
  rw [hone] at halpha'
  rw [hone'] at hlast'
  subst hdata
  simp only [Nat.reduceAdd] at hgreen' hred' hblue' halpha' hlast' hread
  unfold decode?
  simp only [header?_encode hsize, Option.bind_eq_bind, Option.bind_some, Nat.reduceMul, Nat.reduceAdd, hzero,
    ne_eq, not_true_eq_false, if_false, hgreen', hred', hblue', halpha', hlast', halike, hcount, hread, hpicture]

end Vignette.Webp

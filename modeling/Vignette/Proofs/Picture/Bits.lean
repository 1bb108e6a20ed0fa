import Mathlib.Algebra.Order.Ring.Nat
import Vignette.Picture.Webp
import Vignette.Proofs.Picture.Bytes

/-!
# Bits in their places

A writer puts the bits of numbers one behind the other, and bytes come out of it whenever eight bits are
there. What it has written is a list of bits (`Webp.Bits.list`), and a number adds its bits to the end of
the list (`Webp.Bits.Valid.push`). A reader finds bits *standing* in the data from a place on
(`Deflate.Stands`), as it finds bytes.

Main statements: **the bits of a file are those that were written, filled up with zeros**
(`Webp.Bits.Valid.exists_finish`); **a number is read from its bits** (`Deflate.bits?_of_stands`).
-/

namespace Vignette

namespace Deflate

/-! ## 1. Lists of bits -/

/-- The lowest `n` bits of a number, the lowest first. -/
def lowBits : (n v : Nat) → List Nat
  | 0, _ => []
  | n + 1, v => v % 2 :: lowBits n (v / 2)

@[simp] theorem length_lowBits (n v : Nat) : (lowBits n v).length = n := by
  induction n generalizing v with
  | zero => rfl
  | succ n ih => rw [lowBits, List.length_cons, ih]

theorem getElem?_lowBits {n k : Nat} (v : Nat) (h : k < n) : (lowBits n v)[k]? = some ((v >>> k) % 2) := by
  induction n generalizing v k with
  | zero => exact absurd h (Nat.not_lt_zero k)
  | succ n ih =>
    cases k with
    | zero => rfl
    | succ k =>
      rw [lowBits, List.getElem?_cons_succ, ih _ (Nat.lt_of_succ_lt_succ h), Nat.shiftRight_eq_div_pow,
        Nat.shiftRight_eq_div_pow, Nat.div_div_eq_div_mul, Nat.pow_succ']

/-- Higher bits do not matter. -/
theorem lowBits_mod (n v : Nat) : lowBits n (v % 2 ^ n) = lowBits n v := by
  induction n generalizing v with
  | zero => rfl
  | succ n ih =>
    rw [lowBits, lowBits, ← ih (v / 2), Nat.pow_succ', Nat.mod_mul_right_div_self,
      Nat.mod_mul_right_mod]

/-- The bits of a number that is put above another. -/
theorem lowBits_add (n m : Nat) {low : Nat} (high : Nat) (h : low < 2 ^ m) :
    lowBits (m + n) (low + high * 2 ^ m) = lowBits m low ++ lowBits n high := by
  induction m generalizing low with
  | zero =>
    obtain rfl : low = 0 := Nat.lt_one_iff.mp h
    rw [Nat.zero_add, Nat.zero_add, Nat.pow_zero, Nat.mul_one]
    rfl
  | succ m ih =>
    rw [Nat.pow_succ'] at h
    have hmod : (low + high * 2 ^ (m + 1)) % 2 = low % 2 := by
      rw [Nat.pow_succ, ← Nat.mul_assoc, Nat.add_mul_mod_self_right]
    have hdiv : (low + high * 2 ^ (m + 1)) / 2 = low / 2 + high * 2 ^ m := by
      rw [Nat.pow_succ, ← Nat.mul_assoc, Nat.add_mul_div_right _ _ (by decide)]
    rw [Nat.succ_add, lowBits, lowBits, hmod, hdiv, ih (Nat.div_lt_of_lt_mul h), List.cons_append]

/-- The bits of a byte more, and those above it. -/
theorem lowBits_eight (n v : Nat) : lowBits (8 + n) v = lowBits 8 v ++ lowBits n (v / 256) := by
  have hsplit : v = v % 2 ^ 8 + v / 256 * 2 ^ 8 := by
    rw [Nat.add_comm, Nat.mul_comm]
    exact (Nat.div_add_mod v 256).symm
  conv => lhs; rw [hsplit]
  rw [lowBits_add n 8 _ (Nat.mod_lt v (by decide)), lowBits_mod]

/-- The bits of bytes, the first byte first, the lowest bit of a byte first. -/
def bitList (bs : List UInt8) : List Nat := bs.flatMap fun b => lowBits 8 b.toNat

theorem bitList_append (as bs : List UInt8) : bitList (as ++ bs) = bitList as ++ bitList bs :=
  List.flatMap_append

@[simp] theorem length_bitList (bs : List UInt8) : (bitList bs).length = 8 * bs.length := by
  induction bs with
  | nil => rfl
  | cons b bs ih =>
    rw [bitList, List.flatMap_cons, List.length_append, length_lowBits, List.length_cons]
    exact (congrArg (8 + ·) ih).trans (by omega)

theorem getElem?_bitList {bs : List UInt8} {i k : Nat} (hk : k < 8) :
    (bitList bs)[8 * i + k]? = bs[i]?.map fun b => (b.toNat >>> k) % 2 := by
  induction bs generalizing i with
  | nil => rfl
  | cons b bs ih =>
    rw [bitList, List.flatMap_cons]
    cases i with
    | zero =>
      rw [Nat.mul_zero, Nat.zero_add, List.getElem?_append_left (by rw [length_lowBits]; exact hk),
        getElem?_lowBits _ hk]
      rfl
    | succ i =>
      have hplace : 8 * (i + 1) + k - 8 = 8 * i + k := by omega
      rw [List.getElem?_append_right (by rw [length_lowBits]; omega), length_lowBits, hplace,
        List.getElem?_cons_succ]
      exact ih

/-- **A reader looks at the list of the bits.** -/
theorem bit?_eq_getElem? (data : ByteArray) (place : Nat) :
    bit? data place = (bitList data.data.toList)[place]? := by
  have hplace : place = 8 * (place / 8) + place % 8 := (Nat.div_add_mod place 8).symm
  conv => rhs; rw [hplace]
  rw [getElem?_bitList (Nat.mod_lt place (by decide)), ← Binary.getElem?_eq_toList]
  unfold bit?
  split
  · rename_i hlt
    rw [getElem?_pos data _ hlt]
    rfl
  · rename_i hge
    rw [getElem?_neg data _ hge]
    rfl

/-! ## 2. Bits that stand in the data -/

/-- Do these bits stand in the data from a place on? -/
def Stands (data : ByteArray) : (place : Nat) → List Nat → Prop
  | _, [] => True
  | place, b :: bs => bit? data place = some b ∧ Stands data (place + 1) bs

variable {data : ByteArray} {place : Nat}

theorem stands_cons {b : Nat} {bs : List Nat} :
    Stands data place (b :: bs) ↔ bit? data place = some b ∧ Stands data (place + 1) bs := Iff.rfl

theorem stands_append {as bs : List Nat} :
    Stands data place (as ++ bs) ↔ Stands data place as ∧ Stands data (place + as.length) bs := by
  induction as generalizing place with
  | nil => simp [Stands]
  | cons a as ih =>
    rw [List.cons_append, stands_cons, stands_cons, ih, and_assoc, List.length_cons, Nat.add_assoc place 1,
      Nat.add_comm 1]

/-- **The bits of a file stand in it.** -/
theorem stands_of_bitList {first bs rest : List Nat} (h : bitList data.data.toList = first ++ (bs ++ rest)) :
    Stands data first.length bs := by
  induction bs generalizing first with
  | nil => trivial
  | cons b bs ih =>
    refine ⟨?_, ?_⟩
    · rw [bit?_eq_getElem?, h, List.cons_append, List.getElem?_append_right (Nat.le_refl _), Nat.sub_self]
      rfl
    · have hrest : bitList data.data.toList = (first ++ [b]) ++ (bs ++ rest) := by
        rw [h, List.append_assoc]
        rfl
      have hbs : Stands data (first ++ [b]).length bs := ih hrest
      rwa [List.length_append] at hbs

/-- **A number is read from its bits.** -/
theorem bits?_of_stands {n v : Nat} (h : Stands data place (lowBits n v)) :
    bits? data place n = some (v % 2 ^ n) := by
  induction n generalizing place v with
  | zero => rw [Nat.pow_zero, Nat.mod_one]; rfl
  | succ n ih =>
    obtain ⟨hb, hrest⟩ := h
    rw [bits?, hb, ih hrest, Nat.pow_succ', Nat.mod_mul]

/-- A number that fits into its bits is read as it was written. -/
theorem bits?_of_lt {n v : Nat} (h : Stands data place (lowBits n v)) (hv : v < 2 ^ n) :
    bits? data place n = some v := by
  rw [bits?_of_stands h, Nat.mod_eq_of_lt hv]

end Deflate

/-! ## 3. Writing -/

namespace Webp.Bits

open Deflate (lowBits bitList)

/-- The bits that were written so far. -/
def list (b : Bits) : List Nat := bitList b.out.data.toList ++ lowBits b.count b.pending

/-- Less than a byte waits, and nothing stands above what waits. -/
structure Valid (b : Bits) : Prop where
  count_lt : b.count < 8
  pending_lt : b.pending < 2 ^ b.count

theorem drain_spec (fuel : Nat) (out : ByteArray) {n bits : Nat} (hfuel : n < 8 * (fuel + 1)) (hbits : bits < 2 ^ n) :
    (drain fuel out bits n).Valid ∧
      (drain fuel out bits n).list = bitList out.data.toList ++ lowBits n bits := by
  induction fuel generalizing out bits n with
  | zero => exact ⟨⟨hfuel, hbits⟩, rfl⟩
  | succ fuel ih =>
    rw [drain]
    split
    · rename_i hn
      exact ⟨⟨hn, hbits⟩, rfl⟩
    · rename_i hn
      obtain ⟨m, rfl⟩ := Nat.exists_eq_add_of_le (Nat.le_of_not_lt hn)
      rw [Nat.add_sub_cancel_left]
      have hhigh : bits / 256 < 2 ^ m := by
        refine Nat.div_lt_of_lt_mul ?_
        rwa [Nat.pow_add] at hbits
      obtain ⟨hvalid, hlist⟩ := ih (out.push (UInt8.ofNat bits)) (by omega) hhigh
      have hbyte : lowBits 8 (UInt8.ofNat bits).toNat = lowBits 8 bits := by
        rw [UInt8.toNat_ofNat', Deflate.lowBits_mod]
      refine ⟨hvalid, ?_⟩
      rw [hlist, Binary.toList_push, Deflate.bitList_append, List.append_assoc, Deflate.lowBits_eight, ← hbyte]
      rfl

/-- **A number adds its bits.** -/
theorem Valid.push {b : Bits} (h : b.Valid) (value n : Nat) :
    (b.push value n).Valid ∧ (b.push value n).list = b.list ++ lowBits n value := by
  have hvalue : value % 2 ^ n < 2 ^ n := Nat.mod_lt _ (Nat.two_pow_pos n)
  have hbits : b.pending + value % 2 ^ n * 2 ^ b.count < 2 ^ (b.count + n) := by
    have hle : (value % 2 ^ n + 1) * 2 ^ b.count ≤ 2 ^ n * 2 ^ b.count := Nat.mul_le_mul_right _ hvalue
    have hlt := h.pending_lt
    rw [Nat.succ_mul] at hle
    rw [Nat.pow_add, Nat.mul_comm (2 ^ b.count)]
    omega
  obtain ⟨hvalid, hlist⟩ := drain_spec (b.count + n) b.out (by omega) hbits
  refine ⟨hvalid, hlist.trans ?_⟩
  rw [Deflate.lowBits_add n b.count _ h.pending_lt, Deflate.lowBits_mod, list, List.append_assoc]

/-- **The bits of the bytes are those that were written, filled up with zeros.** -/
theorem Valid.exists_finish {b : Bits} (h : b.Valid) :
    ∃ rest, bitList b.finish.data.toList = b.list ++ rest := by
  unfold finish
  split
  · rename_i hzero
    refine ⟨[], ?_⟩
    rw [List.append_nil, list, hzero]
    exact (List.append_nil _).symm
  · have hcount : 8 = b.count + (8 - b.count) := by
      have := h.count_lt
      omega
    refine ⟨lowBits (8 - b.count) 0, ?_⟩
    have hbyte : lowBits 8 (UInt8.ofNat b.pending).toNat = lowBits b.count b.pending ++ lowBits (8 - b.count) 0 := by
      rw [UInt8.toNat_ofNat', Deflate.lowBits_mod, ← Deflate.lowBits_add _ b.count 0 h.pending_lt, ← hcount,
        Nat.zero_mul, Nat.add_zero]
    rw [Binary.toList_push, Deflate.bitList_append, list, List.append_assoc, ← hbyte]
    exact congrArg _ (List.append_nil _)

end Webp.Bits

end Vignette

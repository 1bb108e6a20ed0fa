import Mathlib.Algebra.Group.Nat.Defs
import Mathlib.Tactic.ByContra
import Vignette.Picture.Png
import Vignette.Picture.Signature

/-!
# Bytes in their places

What an encoder puts together is found again by a reader that looks at certain places. Bytes *stand* in
the data from a place on (`Binary.Holds`), and whatever is put into a file stands where the parts before
it end (`Binary.holds_of_toList`).

Main statements: **a number is read from its bytes** (`Binary.be?_of_holds`, `Binary.le?_of_holds`); **the
format is told by the signature that the bytes start with** (`Signature.ofBytes?_png`, `ofBytes?_jpeg`,
`ofBytes?_webp`).
-/

namespace Vignette

/-! ## 1. Bytes in their places -/

namespace Binary

/-- Do these bytes stand in the data from place `i` on? -/
def Holds (data : ByteArray) : (i : Nat) → List UInt8 → Prop
  | _, [] => True
  | i, b :: bs => data[i]? = some b ∧ Holds data (i + 1) bs

section Holds

variable {data : ByteArray}

@[simp] theorem holds_nil (i : Nat) : Holds data i [] := trivial

theorem holds_cons {i : Nat} {b : UInt8} {bs : List UInt8} :
    Holds data i (b :: bs) ↔ data[i]? = some b ∧ Holds data (i + 1) bs := Iff.rfl

theorem holds_append {i : Nat} {as bs : List UInt8} :
    Holds data i (as ++ bs) ↔ Holds data i as ∧ Holds data (i + as.length) bs := by
  induction as generalizing i with
  | nil => simp
  | cons a as ih =>
    have hplace : i + 1 + as.length = i + (a :: as).length := by
      rw [List.length_cons]
      omega
    rw [List.cons_append, holds_cons, holds_cons, ih, hplace, and_assoc]

theorem getElem?_eq_toList (data : ByteArray) (i : Nat) : data[i]? = data.data.toList[i]? := by
  by_cases h : i < data.size
  · have hlength : i < data.data.toList.length := h
    rw [getElem?_pos data i h, List.getElem?_eq_getElem hlength]
    rfl
  · have hlength : data.data.toList.length ≤ i := Nat.le_of_not_lt h
    rw [getElem?_neg data i h, List.getElem?_eq_none hlength]

/-- **What a file is put together of stands in it.** -/
theorem holds_of_toList {first bs rest : List UInt8} (h : data.data.toList = first ++ (bs ++ rest)) :
    Holds data first.length bs := by
  induction bs generalizing first with
  | nil => trivial
  | cons b bs ih =>
    refine ⟨?_, ?_⟩
    · rw [getElem?_eq_toList, h, List.cons_append, List.getElem?_append_right (Nat.le_refl _),
        Nat.sub_self]
      rfl
    · have hrest : data.data.toList = (first ++ [b]) ++ (bs ++ rest) := by
        rw [h, List.append_assoc]
        rfl
      have hbs : Holds data (first ++ [b]).length bs := ih hrest
      rwa [List.length_append] at hbs

theorem holds_zero {bs rest : List UInt8} (h : data.data.toList = bs ++ rest) : Holds data 0 bs :=
  holds_of_toList (show data.data.toList = [] ++ (bs ++ rest) from h)

theorem lt_size_of_getElem? {i : Nat} {b : UInt8} (h : data[i]? = some b) : i < data.size := by
  by_contra hge
  rw [getElem?_neg data i hge] at h
  cases h

@[simp] theorem toList_bytes (bs : List UInt8) : (bytes bs).data.toList = bs := rfl

@[simp] theorem length_be (v n : Nat) : (be v n).length = n := by
  induction n generalizing v with
  | zero => rfl
  | succ n ih => rw [be, List.length_append, ih, List.length_singleton]

@[simp] theorem length_le (v n : Nat) : (le v n).length = n := by
  induction n generalizing v with
  | zero => rfl
  | succ n ih => rw [le, List.length_cons, ih]

/-- The digits of a number to the base 256, the last of them apart. -/
theorem mod_pow_succ (v n : Nat) : v % 256 ^ (n + 1) = v / 256 % 256 ^ n * 256 + v % 256 := by
  rw [Nat.pow_succ', Nat.mod_mul, Nat.mul_comm, Nat.add_comm]

/-- **A number is read from its bytes, the highest first.** -/
theorem be?_of_holds {i v n : Nat} (h : Holds data i (be v n)) : be? data i n = some (v % 256 ^ n) := by
  induction n generalizing v with
  | zero => rw [Nat.pow_zero, Nat.mod_one]; rfl
  | succ n ih =>
    obtain ⟨hhigh, hlow⟩ := holds_append.mp h
    rw [length_be, holds_cons] at hlow
    rw [be?, ih hhigh, hlow.1, mod_pow_succ]
    exact congrArg (fun b => some (v / 256 % 256 ^ n * 256 + b)) UInt8.toNat_ofNat'

/-- A number that fits into its bytes is read as it was written. -/
theorem be?_of_lt {i v n : Nat} (h : Holds data i (be v n)) (hv : v < 256 ^ n) :
    be? data i n = some v := by
  rw [be?_of_holds h, Nat.mod_eq_of_lt hv]

/-- **A number is read from its bytes, the lowest first.** -/
theorem le?_of_holds {i v n : Nat} (h : Holds data i (le v n)) : le? data i n = some (v % 256 ^ n) := by
  induction n generalizing i v with
  | zero => rw [Nat.pow_zero, Nat.mod_one]; rfl
  | succ n ih =>
    obtain ⟨hlow, hhigh⟩ := holds_cons.mp h
    rw [le?, hlow, ih hhigh, mod_pow_succ, Nat.add_comm, Nat.mul_comm]
    exact congrArg (fun b => some (b + 256 * (v / 256 % 256 ^ n))) UInt8.toNat_ofNat'

/-- A byte is a number of one byte. -/
theorem be?_one {i : Nat} {b : UInt8} (h : data[i]? = some b) : be? data i 1 = some b.toNat := by
  rw [be?, be?, Nat.add_zero, h]
  exact congrArg some (by rw [Nat.zero_mul, Nat.zero_add])

/-- A number of two bytes is read as it was written. -/
theorem le?_two_of_holds {i v : Nat} (h : Holds data i (le v 2)) (hv : v < 65536) :
    le? data i 2 = some v := by
  rw [le?_of_holds h, Nat.mod_eq_of_lt (show v < 256 ^ 2 from hv)]

end Holds

section Parts

variable {data : ByteArray} {first bs rest : List UInt8}

theorem ext_toList {a b : ByteArray} (h : a.data.toList = b.data.toList) : a = b :=
  ByteArray.ext (Array.toList_inj.mp h)

theorem size_eq_length (data : ByteArray) : data.size = data.data.toList.length := rfl

theorem toList_push (data : ByteArray) (b : UInt8) : (data.push b).data.toList = data.data.toList ++ [b] :=
  Array.toList_push

theorem byteAt_eq (data : ByteArray) (i : Nat) : byteAt data i = (data.data.toList[i]?).getD 0 := by
  rw [← getElem?_eq_toList, byteAt]
  by_cases h : i < data.size
  · rw [dif_pos h, getElem?_pos data i h, Option.getD_some]
  · rw [dif_neg h, getElem?_neg data i h, Option.getD_none]

/-- **What a file is put together of is taken out of it again**, as a part, or byte by byte. -/
theorem extract_of_toList (h : data.data.toList = first ++ (bs ++ rest)) :
    data.extract first.length (first.length + bs.length) = bytes bs := by
  refine ext_toList ?_
  rw [ByteArray.data_extract, Array.toList_extract, h, toList_bytes, List.extract_eq_take_drop,
    Nat.add_sub_cancel_left, List.drop_left, List.take_left]

theorem map_byteAt_of_toList (h : data.data.toList = first ++ (bs ++ rest)) :
    (List.range' first.length bs.length).map (byteAt data) = bs := by
  refine List.ext_getElem (by rw [List.length_map, List.length_range']) fun k _ hk => ?_
  rw [List.getElem_map, List.getElem_range', Nat.one_mul, byteAt_eq, h,
    List.getElem?_append_right (Nat.le_add_right _ _), Nat.add_sub_cancel_left,
    List.getElem?_append_left hk, List.getElem?_eq_getElem hk, Option.getD_some]

/-- The bytes of the whole, one by one. -/
theorem map_byteAt_range (data : ByteArray) :
    (List.range' 0 data.size).map (byteAt data) = data.data.toList := by
  have hall : data.data.toList = [] ++ (data.data.toList ++ []) := (List.append_nil _).symm
  exact map_byteAt_of_toList hall

end Parts

end Binary

/-! ## 2. Signatures -/

namespace Signature

/-- Do bytes start as a signature says? -/
def suits : List UInt8 → List (Option UInt8) → Bool
  | _, [] => true
  | [], _ :: _ => false
  | b :: bs, want :: rest => (want.isNone || want == some b) && suits bs rest

theorem fits_eq_suits (data : ByteArray) (i : Nat) (s : List (Option UInt8)) :
    fits data i s = suits (data.data.toList.drop i) s := by
  induction s generalizing i with
  | nil => cases data.data.toList.drop i <;> rfl
  | cons want rest ih =>
    rw [fits, Binary.getElem?_eq_toList, ih, ← List.head?_drop, ← List.tail_drop]
    cases data.data.toList.drop i <;> rfl

theorem ofBytes?_eq (data : ByteArray) :
    ofBytes? data = (table.find? fun (_, s) => suits data.data.toList s).map Prod.fst := by
  unfold ofBytes?
  simp only [fits_eq_suits, List.drop_zero]

/-- The signatures that are tried first, as far as those of written pictures. -/
theorem exists_table_eq : ∃ later, table = [
    (png, bytes Png.signature), (jpeg, bytes [0xFF, 0xD8, 0xFF]),
    (gif, bytes [0x47, 0x49, 0x46, 0x38, 0x39, 0x61]), (gif, bytes [0x47, 0x49, 0x46, 0x38, 0x37, 0x61]),
    (webp, bytes [0x52, 0x49, 0x46, 0x46] ++ any 4 ++ bytes [0x57, 0x45, 0x42, 0x50])] ++ later :=
  ⟨table.drop 5, by decide +kernel⟩

variable {data : ByteArray} {rest : List UInt8}

theorem ofBytes?_png (h : data.data.toList = Png.signature ++ rest) : ofBytes? data = some png := by
  obtain ⟨later, htable⟩ := exists_table_eq
  rw [ofBytes?_eq, htable, h]
  simp [suits, bytes, any, Png.signature]

theorem ofBytes?_jpeg (h : data.data.toList = [0xFF, 0xD8, 0xFF] ++ rest) :
    ofBytes? data = some jpeg := by
  obtain ⟨later, htable⟩ := exists_table_eq
  rw [ofBytes?_eq, htable, h]
  simp [suits, bytes, any, Png.signature]

theorem ofBytes?_webp (n : Nat) (h : data.data.toList =
      [0x52, 0x49, 0x46, 0x46] ++ Binary.le n 4 ++ [0x57, 0x45, 0x42, 0x50] ++ rest) :
    ofBytes? data = some webp := by
  obtain ⟨later, htable⟩ := exists_table_eq
  rw [ofBytes?_eq, htable, h]
  simp [suits, bytes, any, Png.signature, Binary.le]

end Signature

end Vignette

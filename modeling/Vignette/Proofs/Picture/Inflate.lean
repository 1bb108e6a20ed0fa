import Vignette.Picture.Deflate
import Vignette.Proofs.Picture.Bytes

/-!
# Deflated data read back

What is written is a row of stored blocks, so a reader finds each block behind the one before: its
first byte, its length twice, and its bytes. The bytes that it collects are those that were stored.

Main statement: **what is deflated is inflated to what it was** (`Deflate.inflate?_deflate`).
-/

namespace Vignette

/-! ## 1. Stored blocks -/

namespace Deflate

open Binary (le bytes Holds)

variable {data out : ByteArray} {first chunk rest : List UInt8}

/-- Bits of a byte that is a zero or a one. -/
theorem bits?_of_getElem? {i : Nat} {final : Bool} (h : data[i]? = some final.toUInt8) :
    bits? data (8 * i) 1 = some final.toNat ∧ bits? data (8 * i + 1) 2 = some 0 := by
  have hsize : i < data.size := Binary.lt_size_of_getElem? h
  have hbyte : data[i] = final.toUInt8 := by
    rw [getElem?_pos data i hsize] at h
    exact Option.some.inj h
  have hbit (k : Nat) (hk : k < 8) : bit? data (8 * i + k) = some ((final.toUInt8.toNat >>> k) % 2) := by
    have hplace : (8 * i + k) / 8 = i := by omega
    have hmod : (8 * i + k) % 8 = k := by omega
    unfold bit?
    simp only [hplace, hmod, hsize, dif_pos, hbyte]
  have h₀ : bit? data (8 * i) = _ := hbit 0 (by decide)
  have h₁ := hbit 1 (by decide)
  have h₂ : bit? data (8 * i + 1 + 1) = _ := hbit 2 (by decide)
  refine ⟨?_, ?_⟩
  · rw [bits?, h₀, bits?]
    cases final <;> rfl
  · rw [bits?, h₁, bits?, h₂, bits?]
    cases final <;> rfl

/-- The bytes in front of a stored block. -/
def blockHead (final : Bool) (n : Nat) : List UInt8 := final.toUInt8 :: (le n 2 ++ le (65535 - n) 2)

@[simp] theorem length_blockHead (final : Bool) (n : Nat) : (blockHead final n).length = 5 := rfl

/-- **A stored block is read to its end.** -/
theorem readStored?_of_toList {final : Bool} (hchunk : chunk.length ≤ 65535)
    (h : data.data.toList = first ++ (blockHead final chunk.length ++ (chunk ++ rest))) :
    readStored? data (8 * first.length + 3) out =
      some (8 * (first.length + 5 + chunk.length), out ++ bytes chunk) := by
  have hstart : (8 * first.length + 3 + 7) / 8 = first.length + 1 := by omega
  obtain ⟨-, hnumbers⟩ := Binary.holds_cons.mp (Binary.holds_of_toList h)
  obtain ⟨hn, hcheck⟩ := Binary.holds_append.mp hnumbers
  have hn' := Binary.le?_two_of_holds hn (by omega)
  have hcheck' := Binary.le?_two_of_holds hcheck (by omega)
  have hbehind : data.data.toList = (first ++ blockHead final chunk.length) ++ (chunk ++ rest) := by
    rw [h, List.append_assoc]
  have hextract := Binary.extract_of_toList hbehind
  have hsize : data.size = first.length + 5 + chunk.length + rest.length := by
    rw [Binary.size_eq_length, h]
    simp only [List.length_append, length_blockHead]
    omega
  rw [Binary.length_le] at hcheck'
  rw [List.length_append, length_blockHead] at hextract
  unfold readStored?
  simp only [hstart, hn', hcheck']
  rw [if_pos ⟨by omega, by omega⟩, hextract]

/-- A stored block among others: what is read is put behind what was there, and the last one ends the
    data. -/
theorem readBlocks?_of_toList {final : Bool} (hchunk : chunk.length ≤ 65535)
    (h : data.data.toList = first ++ (blockHead final chunk.length ++ (chunk ++ rest))) (fuel : Nat) :
    readBlocks? data (fuel + 1) (8 * first.length) out =
      if final then some (8 * (first.length + 5 + chunk.length), out ++ bytes chunk)
      else readBlocks? data fuel (8 * (first.length + 5 + chunk.length)) (out ++ bytes chunk) := by
  obtain ⟨hbyte, -⟩ := Binary.holds_cons.mp (Binary.holds_of_toList h)
  obtain ⟨hfinal, htype⟩ := bits?_of_getElem? hbyte
  rw [readBlocks?, hfinal, htype]
  simp only [readStored?_of_toList hchunk h]
  cases final <;> rfl

/-! ## 2. Rows of blocks -/

/-- What stored blocks put behind the bytes that are there. -/
theorem toList_storeBlocks_zero (data : ByteArray) (place : Nat) (out : ByteArray) :
    (storeBlocks data 0 place out).data.toList = out.data.toList ++
      (blockHead true (data.size - place) ++ (data.extract place data.size).data.toList) := by
  simp only [storeBlocks, blockHead, ByteArray.toList_data_append, Binary.toList_bytes, List.append_assoc]
  rfl

theorem toList_storeBlocks_succ (data : ByteArray) (n place : Nat) (out : ByteArray) :
    ∃ next : ByteArray, storeBlocks data (n + 1) place out = storeBlocks data n (place + blockSize) next ∧
      next.data.toList = out.data.toList ++
        (blockHead false blockSize ++ (data.extract place (place + blockSize)).data.toList) := by
  refine ⟨_, rfl, ?_⟩
  simp only [blockHead, ByteArray.toList_data_append, Binary.toList_bytes, List.append_assoc]
  rfl

theorem length_extract {i n : Nat} (h : i + n ≤ data.size) :
    (data.extract i (i + n)).data.toList.length = n := by
  rw [← Binary.size_eq_length, ByteArray.size_extract, Nat.min_eq_left h, Nat.add_sub_cancel_left]

theorem length_extract_end (data : ByteArray) (i : Nat) :
    (data.extract i data.size).data.toList.length = data.size - i := by
  rw [← Binary.size_eq_length, ByteArray.size_extract, Nat.min_self]

/-- A full block takes five bytes more than it stores. -/
theorem size_of_block {next : ByteArray} {place : Nat} (hplace : place + blockSize ≤ data.size)
    (hnext : next.data.toList = out.data.toList ++
      (blockHead false blockSize ++ (data.extract place (place + blockSize)).data.toList)) :
    next.size = out.size + 5 + blockSize := by
  rw [Binary.size_eq_length, hnext, List.length_append, List.length_append, length_blockHead,
    length_extract hplace, ← Binary.size_eq_length]
  omega

/-- How long stored blocks are. -/
theorem size_storeBlocks (data : ByteArray) : ∀ (n place : Nat) (out : ByteArray),
    place + n * blockSize ≤ data.size →
      (storeBlocks data n place out).size = out.size + 5 * (n + 1) + (data.size - place)
  | 0, place, out, h => by
    rw [Binary.size_eq_length, toList_storeBlocks_zero, List.length_append, List.length_append,
      length_blockHead, length_extract_end, ← Binary.size_eq_length]
    omega
  | n + 1, place, out, h => by
    rw [Nat.succ_mul] at h
    obtain ⟨next, heq, hnext⟩ := toList_storeBlocks_succ data n place out
    rw [heq, size_storeBlocks data n (place + blockSize) next (by omega), size_of_block (by omega) hnext]
    omega

/-- What is put in front of stored blocks stays in front. -/
theorem exists_toList_storeBlocks (data : ByteArray) : ∀ (n place : Nat) (out : ByteArray),
    ∃ rest, (storeBlocks data n place out).data.toList = out.data.toList ++ rest
  | 0, place, out => ⟨_, toList_storeBlocks_zero data place out⟩
  | n + 1, place, out => by
    obtain ⟨next, heq, hnext⟩ := toList_storeBlocks_succ data n place out
    obtain ⟨rest, hrest⟩ := exists_toList_storeBlocks data n (place + blockSize) next
    exact ⟨_, by rw [heq, hrest, hnext, List.append_assoc]⟩

theorem extract_append_extract (data : ByteArray) {i j : Nat} (hi : i ≤ j) (hj : j ≤ data.size) :
    data.extract i j ++ data.extract j data.size = data.extract i data.size := by
  rw [ByteArray.extract_append_extract, Nat.min_eq_left hi, Nat.max_eq_right hj]

/-- **Stored blocks are read to the end, and what is collected is what they store.** The induction is on
    the blocks, over whatever stands in front of them. -/
theorem readBlocks?_storeBlocks {stream : ByteArray} {tail : List UInt8} (data : ByteArray) :
    ∀ (n place fuel : Nat) (front out : ByteArray), n < fuel → place + n * blockSize ≤ data.size →
      data.size ≤ place + (n + 1) * blockSize →
      stream.data.toList = (storeBlocks data n place front).data.toList ++ tail →
      readBlocks? stream fuel (8 * front.size) out =
        some (8 * (storeBlocks data n place front).size, out ++ data.extract place data.size)
  | _, _, 0, _, _, hfuel, _, _, _ => absurd hfuel (Nat.not_lt_zero _)
  | 0, place, fuel + 1, front, out, _, hlow, hhigh, hstream => by
    have hsize := size_storeBlocks data 0 place front hlow
    have hlength := length_extract_end data place
    have hblock : blockSize = 65535 := rfl
    rw [toList_storeBlocks_zero, List.append_assoc, List.append_assoc, ← hlength] at hstream
    rw [Binary.size_eq_length front, readBlocks?_of_toList (by rw [hlength]; omega) hstream, if_pos rfl,
      hlength, ← Binary.size_eq_length, hsize]
    rfl
  | n + 1, place, fuel + 1, front, out, hfuel, hlow, hhigh, hstream => by
    have hblock : blockSize = 65535 := rfl
    rw [Nat.succ_mul] at hlow hhigh
    have hplace : place + blockSize ≤ data.size := by omega
    obtain ⟨next, heq, hnext⟩ := toList_storeBlocks_succ data n place front
    obtain ⟨rest, hrest⟩ := exists_toList_storeBlocks data n (place + blockSize) next
    have hlength := length_extract hplace
    have hsize := size_of_block hplace hnext
    rw [heq] at hstream
    have ih := readBlocks?_storeBlocks data n (place + blockSize) fuel next
      (out ++ data.extract place (place + blockSize)) (Nat.lt_of_succ_lt_succ hfuel)
      (by omega) (by omega) hstream
    have hfront : stream.data.toList = front.data.toList ++ (blockHead false
        (data.extract place (place + blockSize)).data.toList.length ++
          ((data.extract place (place + blockSize)).data.toList ++ (rest ++ tail))) := by
      rw [hstream, hrest, hnext, hlength]
      simp only [List.append_assoc]
    rw [Binary.size_eq_length front, readBlocks?_of_toList (by rw [hlength]; exact Nat.le_of_eq hblock) hfront,
      if_neg Bool.false_ne_true, hlength, ← Binary.size_eq_length, heq, ← hsize]
    refine ih.trans ?_
    rw [ByteArray.append_assoc, extract_append_extract data (Nat.le_add_right _ _) hplace]

/-! ## 3. Compressed data -/

/-- The number of blocks before the last is just large enough. -/
theorem blocks_suffice (n : Nat) : (n - 1) / blockSize * blockSize ≤ n ∧ n ≤ ((n - 1) / blockSize + 1) * blockSize := by
  have hblock : blockSize = 65535 := rfl
  rw [hblock]
  omega

/-- How long compressed data is. -/
theorem size_deflate (data : ByteArray) :
    (deflate data).size = data.size + 5 * ((data.size - 1) / blockSize + 1) + 6 := by
  have hlow := (blocks_suffice data.size).1
  rw [deflate, ByteArray.size_append,
    size_storeBlocks data _ 0 _ (by rw [Nat.zero_add]; exact hlow)]
  have hfront : (bytes [0x78, 0x01]).size = 2 := rfl
  have hsum : (bytes (Binary.be (Binary.adler32 data).toNat 4)).size = 4 := Binary.length_be _ _
  rw [hfront, hsum]
  omega

/-- **What is deflated is inflated to what it was.** -/
theorem inflate?_deflate (data : ByteArray) : inflate? (deflate data) = some data := by
  obtain ⟨hlow, hhigh⟩ := blocks_suffice data.size
  generalize hn : (data.size - 1) / blockSize = n at hlow hhigh
  have hsize := size_deflate data
  rw [hn] at hsize
  have hstream : (deflate data).data.toList = (storeBlocks data n 0 (bytes [0x78, 0x01])).data.toList ++
      Binary.be (Binary.adler32 data).toNat 4 := by
    rw [deflate, hn, ByteArray.toList_data_append, Binary.toList_bytes]
  have hblocks := size_storeBlocks data n 0 (bytes [0x78, 0x01]) (by rw [Nat.zero_add]; exact hlow)
  have hfront : (bytes [0x78, 0x01]).size = 2 := rfl
  obtain ⟨rest, hrest⟩ := exists_toList_storeBlocks data n 0 (bytes [0x78, 0x01])
  have hhead : Binary.be? (deflate data) 0 2 = some 0x7801 := by
    have hopening : (deflate data).data.toList =
        Binary.be 0x7801 2 ++ (rest ++ Binary.be (Binary.adler32 data).toNat 4) := by
      rw [hstream, hrest, List.append_assoc]
      rfl
    exact Binary.be?_of_holds (Binary.holds_zero hopening)
  have hread := readBlocks?_storeBlocks data n 0 (8 * (deflate data).size)
    (bytes [0x78, 0x01]) ByteArray.empty (by omega) (by rw [Nat.zero_add]; exact hlow)
    (by rw [Nat.zero_add]; exact hhigh) hstream
  rw [hfront] at hread
  unfold inflate?
  rw [hhead]
  dsimp only
  rw [if_neg (by decide), hread]
  dsimp only
  rw [if_pos (by omega), ByteArray.empty_append, ByteArray.extract_zero_size]

end Deflate

end Vignette

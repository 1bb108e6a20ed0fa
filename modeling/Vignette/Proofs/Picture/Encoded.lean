import Vignette.Thumbnail

/-!
# What is encoded

Main statements: **a picture that is encoded has at least a byte, in every format**
(`Format.encode_pos`); **a thumbnail that is made is the encoding of a picture of just the size that
is wanted** (`Thumbnail.depicts_of_make`); **making a thumbnail warns of nothing**
(`Thumbnail.level_of_mem_make`).
-/

namespace Vignette

@[simp] theorem Picture.size_resize (p : Picture) (size : Size) : (p.resize size).size = size := by
  unfold Picture.resize
  split
  · assumption
  · rfl

/-! ## 1. Encoders write something -/

@[simp] theorem Binary.size_bytes (bs : List UInt8) : (Binary.bytes bs).size = bs.length := rfl

theorem Png.encode?_pos {p : Picture} {data : ByteArray} (h : Png.encode? p = some data) :
    0 < data.size := by
  unfold Png.encode? at h
  split at h
  · cases h
  · cases h
    simp only [ByteArray.size_append, Binary.size_bytes]
    have : Png.signature.length = 8 := rfl
    omega

theorem Jpeg.encode_pos (p : Picture) : 0 < (Jpeg.encode p).size := by
  unfold Jpeg.encode
  simp only [ByteArray.size_append, Binary.size_bytes]
  have : ([0xFF, 0xD9] : List UInt8).length = 2 := rfl
  omega

theorem Webp.encode_pos (p : Picture) : 0 < (Webp.encode p).size := by
  unfold Webp.encode Webp.opening
  simp only [ByteArray.size_append, Binary.size_bytes, List.length_append]
  have : ([0x2F] : List UInt8).length = 1 := rfl
  omega

/-- **A picture that is encoded has at least a byte.** -/
theorem Format.encode_pos {f : Format} {p : Picture} {data : ByteArray} (h : f.encode p = .ok data) :
    0 < data.size := by
  cases f with
  | jpeg =>
    cases h
    exact Jpeg.encode_pos p
  | webp =>
    cases h
    exact Webp.encode_pos p
  | png =>
    unfold Format.encode at h
    dsimp only at h
    split at h
    · rename_i hp
      cases h
      exact Png.encode?_pos hp
    · cases h

/-! ## 2. Thumbnails -/

namespace Thumbnail

/-- Are the bytes a thumbnail of the capture? They encode a picture of just the size that is wanted,
    and that is the capture, cropped and resized. -/
def Depicts (decode : Decoder) (capture : ByteArray) (window thumb : Size) (format : Format) (crop : Bool)
    (payload : ByteArray) : Prop :=
  ∃ captured kept shown : Picture, decode capture = .ok captured ∧
    (cropped captured window crop).2 = .ok kept ∧ shown = kept.resize thumb ∧ shown.size = thumb ∧
    format.encode shown = .ok payload

variable {decode : Decoder} {capture : ByteArray} {window thumb : Size} {format : Format} {crop : Bool}

/-- What becomes of a picture is encoded, or cropping failed. -/
theorem ofPicture_eq_ok {p : Picture} {ns : List Note} {payload : ByteArray}
    (h : ofPicture p window thumb format crop = (ns, .ok payload)) :
    ∃ q, (cropped p window crop).2 = .ok q ∧ format.encode (q.resize thumb) = .ok payload := by
  unfold ofPicture at h
  split at h
  · rename_i hc
    exact ⟨_, by rw [hc], congrArg Prod.snd h⟩
  · cases congrArg Prod.snd h

/-- **A thumbnail that is made is one of the capture.** -/
theorem depicts_of_make {ns : List Note} {payload : ByteArray}
    (h : make decode capture window thumb format crop = (ns, .ok payload)) :
    Depicts decode capture window thumb format crop payload := by
  unfold make at h
  split at h
  · cases congrArg Prod.snd h
  split at h
  · cases congrArg Prod.snd h
  split at h
  · cases congrArg Prod.snd h
  · rename_i p hp
    obtain ⟨q, hq, he⟩ := ofPicture_eq_ok h
    exact ⟨p, q, _, hp, hq, rfl, Picture.size_resize q thumb, he⟩

/-- A thumbnail of a capture is not empty. -/
theorem Depicts.not_isEmpty {payload : ByteArray}
    (h : Depicts decode capture window thumb format crop payload) : payload.isEmpty = false := by
  obtain ⟨_, _, _, _, _, _, _, he⟩ := h
  have hpos := Format.encode_pos he
  rw [ByteArray.isEmpty, beq_eq_false_iff_ne]
  omega

/-- Cropping leaves notes for those who look closely. -/
theorem level_of_mem_cropped {p : Picture} {n : Note} (h : n ∈ (cropped p window crop).1) :
    n.level = .debug := by
  unfold cropped at h
  split at h
  · split at h
    · rw [List.mem_singleton.mp h]
      rfl
    · cases h
  · cases h

theorem level_of_mem_ofPicture {p : Picture} {n : Note}
    (h : n ∈ (ofPicture p window thumb format crop).1) : n.level = .debug := by
  have hn : ∀ m ∈ (cropped p window crop).1, m.level = .debug := fun _ => level_of_mem_cropped
  unfold ofPicture at h
  split at h <;> rename_i hc <;> rw [hc] at hn
  · rcases List.mem_cons.mp h with rfl | h
    · rfl
    rcases List.mem_append.mp h with h | h
    · exact hn n h
    · rw [List.mem_singleton.mp h]
      rfl
  · rcases List.mem_cons.mp h with rfl | h
    · rfl
    · exact hn n h

/-- **Making a thumbnail leaves notes for those who look closely, and no others.** -/
theorem level_of_mem_make {n : Note} (h : n ∈ (make decode capture window thumb format crop).1) :
    n.level = .debug := by
  unfold make at h
  split at h
  · cases h
  split at h
  · cases h
  split at h
  · cases h
  · exact level_of_mem_ofPicture h

end Thumbnail

end Vignette

import Vignette.Picture.Codec
import Vignette.Proofs.Picture.Bytes

/-!
# What encoded pictures say of themselves

Whoever reads an encoded picture finds its format, its size and its color in the first bytes. For each
format it is shown first how a file begins (`exists_toList_of_encode?`, `exists_toList_encode`), and
then what is read from there.

Main statements: **what is encoded in a format has the signature of that format**
(`Format.ofBytes?_of_encode`); **its header says the size of the picture and the color that the format
gives it** (`Format.header?_of_encode`); **an encoder refuses floating-point samples, and nothing else**
(`Format.encode_eq_error`).
-/

namespace Vignette

/-- The bytes of a picture make that picture. -/
theorem Picture.ofData?_self (p : Picture) : ofData? p.size p.color p.data = some p := dif_pos p.data_size

/-! ## 1. PNG -/

namespace Png

open Binary (be be? bytes ascii Holds)

theorem ascii_IHDR : ascii "IHDR" = [0x49, 0x48, 0x44, 0x52] := by decide +kernel

theorem ascii_IDAT : ascii "IDAT" = [0x49, 0x44, 0x41, 0x54] := by decide +kernel

/-- The check sum of a chunk. -/
def Chunk.sum (type : String) (contents : ByteArray) : Nat :=
  let body := bytes (ascii type) ++ contents
  (Binary.crc32 body 0 body.size).toNat

theorem Chunk.toList_write (type : String) (contents : ByteArray) :
    (Chunk.write type contents).data.toList =
      be contents.size 4 ++ (ascii type ++ (contents.data.toList ++ be (Chunk.sum type contents) 4)) := by
  unfold Chunk.write Chunk.sum
  simp only [ByteArray.toList_data_append, Binary.toList_bytes, List.append_assoc]

@[simp] theorem Header.length_write (h : Header) : h.write.length = 13 := by
  simp [Header.write]

/-- **How a file begins**: the signature, the header in its chunk, and the chunk of the pixels. -/
theorem exists_toList_of_encode? {p : Picture} {data : ByteArray} (h : encode? p = some data) :
    ∃ model depth sum n rest, modelOf? p.color = some (model, depth) ∧
      data.data.toList = signature ++ (be 13 4 ++ (ascii "IHDR" ++
        (Header.write ⟨p.size, depth, model, false⟩ ++ (be sum 4 ++ (be n 4 ++ (ascii "IDAT" ++ rest)))))) := by
  unfold encode? at h
  split at h
  · cases h
  · rename_i model depth hmodel
    dsimp only at h
    generalize Deflate.deflate _ = pixels at h
    cases h
    have hsize : (bytes (Header.write ⟨p.size, depth, model, false⟩)).size = 13 := Header.length_write _
    refine ⟨model, depth, Chunk.sum "IHDR" (bytes (Header.write ⟨p.size, depth, model, false⟩)),
      pixels.size, pixels.data.toList ++ be (Chunk.sum "IDAT" pixels) 4 ++
        (Chunk.write "IEND" ByteArray.empty).data.toList, hmodel, ?_⟩
    simp only [ByteArray.toList_data_append, Chunk.toList_write "IHDR", Chunk.toList_write "IDAT", hsize,
      Binary.toList_bytes, List.append_assoc]

theorem Model.ofCode?_code (m : Model) : Model.ofCode? m.code = some m := by cases m <;> rfl

/-- Depths take few bits, and codes too. -/
theorem Model.toNat_code (m : Model) : (UInt8.ofNat m.code).toNat = m.code := by cases m <;> rfl

theorem Model.toNat_of_mem_depths {m : Model} {depth : Nat} (h : depth ∈ m.depths) :
    (UInt8.ofNat depth).toNat = depth := by
  have hall : ∀ d ∈ m.depths, d < 256 := by cases m <;> decide
  exact UInt8.toNat_ofNat_of_lt' (hall depth h)

/-- **A header is read as it was written**, if its dimensions are in order. -/
theorem Header.read?_of_holds {data : ByteArray} {i : Nat} {h : Header} (hold : Holds data i h.write)
    (hsize : h.size.InLimits) (hdepth : h.depth ∈ h.model.depths) : Header.read? data i = some h := by
  simp only [Header.write, Binary.holds_append, Binary.holds_cons, List.length_append, Binary.length_be,
    Nat.reduceAdd, Nat.add_assoc] at hold
  obtain ⟨⟨hwidth, hheight⟩, hd, hc, hz, hz', hi, -⟩ := hold
  have hwidth' : be? data i 4 = some h.size.width.toNat := Binary.be?_of_lt hwidth h.size.width.toNat_lt
  have hheight' : be? data (i + 4) 4 = some h.size.height.toNat :=
    Binary.be?_of_lt hheight h.size.height.toNat_lt
  have hmethod : be? data (i + 10) 2 = some 0 := Binary.be?_of_holds (v := 0) ⟨hz, hz', trivial⟩
  unfold Header.read?
  simp only [hwidth', hheight', Binary.be?_one hd, Binary.be?_one hc, hmethod,
    Binary.be?_one hi, Option.bind_eq_bind, Option.bind_some, Model.toNat_code, Model.ofCode?_code,
    Model.toNat_of_mem_depths hdepth, UInt32.ofNat_toNat]
  have hcontains : h.model.depths.contains h.depth = true := List.contains_iff_mem.mpr hdepth
  have hlimit : UInt32.size / 2 = 2147483648 := rfl
  obtain ⟨hw, hh, hw', hh'⟩ := hsize
  obtain ⟨size, depth, model, interlaced⟩ := h
  dsimp only at *
  rw [if_neg]
  · cases interlaced <;> rfl
  · rintro (h | h | h | h | h | h | h)
    · omega
    · omega
    · omega
    · omega
    · exact h hcontains
    · exact h rfl
    · cases interlaced <;> simp at h

/-- **Where the header stands in what is encoded, and the type of the chunk behind it.** -/
theorem holds_of_encode? {p : Picture} {data : ByteArray} (h : encode? p = some data) :
    ∃ model depth, modelOf? p.color = some (model, depth) ∧
      Holds data 16 (Header.write ⟨p.size, depth, model, false⟩) ∧ Holds data 37 (ascii "IDAT") := by
  obtain ⟨model, depth, sum, n, rest, hmodel, hdata⟩ := exists_toList_of_encode? h
  have hfirst : data.data.toList = (signature ++ (be 13 4 ++ ascii "IHDR")) ++
      (Header.write ⟨p.size, depth, model, false⟩ ++ (be sum 4 ++ (be n 4 ++ (ascii "IDAT" ++ rest)))) := by
    simpa only [List.append_assoc] using hdata
  have hsecond : data.data.toList = (signature ++ (be 13 4 ++ (ascii "IHDR" ++
      (Header.write ⟨p.size, depth, model, false⟩ ++ (be sum 4 ++ be n 4))))) ++ (ascii "IDAT" ++ rest) := by
    simpa only [List.append_assoc] using hdata
  have hlength : signature.length = 8 := rfl
  have hheader := Binary.holds_of_toList hfirst
  have htype := Binary.holds_of_toList hsecond
  simp only [List.length_append, Binary.length_be, Header.length_write, ascii_IHDR, hlength,
    List.length_cons, List.length_nil, Nat.reduceAdd] at hheader htype
  exact ⟨model, depth, hmodel, hheader, htype⟩

theorem mem_depths_of_modelOf? {c : Color} {model : Model} {depth : Nat}
    (h : modelOf? c = some (model, depth)) : depth ∈ model.depths := by
  cases c <;> cases h <;> decide

/-- **The header of what is encoded says its size and its color.** -/
theorem header?_of_encode? {p : Picture} {data : ByteArray} (hsize : p.size.InLimits)
    (h : encode? p = some data) : header? data = some (p.size, p.color) := by
  obtain ⟨model, depth, hmodel, hheader, -⟩ := holds_of_encode? h
  rw [header?, Header.read?_of_holds hheader hsize (mem_depths_of_modelOf? hmodel)]
  generalize p.color = c at hmodel ⊢
  cases c <;> cases hmodel <;> rfl

end Png

/-! ## 2. JPEG -/

namespace Jpeg

open Binary (be be? bytes ascii Holds)

theorem opening_eq : opening =
    [0xFF, 0xD8, 0xFF, 0xE0, 0, 16, 0x4A, 0x46, 0x49, 0x46, 0, 1, 2, 0, 0, 1, 0, 1, 0, 0] := by
  decide +kernel

/-- **How a file begins**: the segments before the frame, and the frame. -/
theorem exists_toList_encode (p : Picture) :
    ∃ rest, (encode p).data.toList = opening ++ (segment 0xC0 (frame p.size) ++ rest) := by
  refine ⟨tables ++ ((scan p.toRgb8).data.toList ++ [0xFF, 0xD9]), ?_⟩
  unfold encode
  simp only [ByteArray.toList_data_append, Binary.toList_bytes, List.append_assoc]

/-- A segment that is no frame is passed over. -/
theorem frame?_opening {data : ByteArray} (h : Holds data 2 [0xFF, 0xE0, 0, 16]) (fuel : Nat) :
    frame? data (fuel + 1) 2 = frame? data fuel 20 := by
  obtain ⟨h₂, h₃, h₄, h₅, -⟩ := h
  have hlength : be? data (2 + 2) 2 = some 16 := Binary.be?_of_holds (v := 16) ⟨h₄, h₅, trivial⟩
  rw [frame?, h₂, h₃, hlength]
  rfl

/-- **The frame is found where it stands.** -/
theorem frame?_of_holds {data : ByteArray} {i : Nat} {size : Size} (hsize : size.InLimits)
    (h : Holds data i (segment 0xC0 (frame size))) (fuel : Nat) :
    frame? data (fuel + 1) i = some (size, 3) := by
  simp only [segment, frame, Binary.holds_append, Binary.holds_cons, List.length_append, Binary.length_be,
    List.length_cons, List.length_nil, Nat.reduceAdd, Nat.add_assoc] at h
  obtain ⟨⟨⟨hmark, hmarker, -⟩, hlength⟩, ⟨⟨⟨-, hheight⟩, hwidth⟩, hcomponents, -⟩⟩ := h
  rw [frame?, hmark, hmarker, Binary.be?_of_holds hlength]
  have hframe : isFrame 0xC0 = true := by decide
  have hwidth' : be? data (i + 7) 2 = some size.width.toNat :=
    Binary.be?_of_lt hwidth (Nat.lt_of_le_of_lt hsize.width_le (by decide))
  have hheight' : be? data (i + 5) 2 = some size.height.toNat :=
    Binary.be?_of_lt hheight (Nat.lt_of_le_of_lt hsize.height_le (by decide))
  simp only [hframe, hwidth', hheight', Binary.be?_one hcomponents, UInt32.ofNat_toNat]
  rfl

/-- **The header of what is encoded says its size, and three samples of a byte.** -/
theorem header?_encode {p : Picture} (hsize : p.size.InLimits) :
    header? (encode p) = some (p.size, .rgb8) := by
  obtain ⟨rest, hdata⟩ := exists_toList_encode p
  have hopening : Holds (encode p) 0 opening := Binary.holds_zero hdata
  have hframe : Holds (encode p) 20 (segment 0xC0 (frame p.size)) := by
    have hlength : opening.length = 20 := by rw [opening_eq]; rfl
    rw [← hlength]
    exact Binary.holds_of_toList hdata
  rw [opening_eq] at hopening
  obtain ⟨-, h₁, h₂, h₃, h₄, h₅, -⟩ := hopening
  obtain ⟨fuel, hfuel⟩ := Nat.exists_eq_add_of_le' (Binary.lt_size_of_getElem? h₁)
  rw [header?, hfuel, frame?_opening ⟨h₂, h₃, h₄, h₅, trivial⟩, frame?_of_holds hsize hframe]
  rfl

/-- What is encoded starts as a JPEG file does. -/
theorem ofBytes?_encode (p : Picture) : Signature.ofBytes? (encode p) = some .jpeg := by
  obtain ⟨rest, hdata⟩ := exists_toList_encode p
  rw [opening_eq] at hdata
  exact Signature.ofBytes?_jpeg hdata

end Jpeg

/-! ## 3. WebP -/

namespace Webp

open Binary (le le? bytes ascii Holds)

theorem ascii_RIFF : ascii "RIFF" = [0x52, 0x49, 0x46, 0x46] := by decide +kernel

theorem ascii_WEBPVP8L : ascii "WEBPVP8L" = [0x57, 0x45, 0x42, 0x50, 0x56, 0x50, 0x38, 0x4C] := by
  decide +kernel

theorem ascii_VP8L : ascii "VP8L" = [0x56, 0x50, 0x38, 0x4C] := by decide +kernel

/-- **How a file begins**: the frame, and in it the chunk with the dimensions. -/
theorem exists_toList_encode (p : Picture) :
    ∃ n m rest, (encode p).data.toList = [0x52, 0x49, 0x46, 0x46] ++ (le n 4 ++
      ([0x57, 0x45, 0x42, 0x50, 0x56, 0x50, 0x38, 0x4C] ++
        (le m 4 ++ ([0x2F] ++ (le (packed p.size) 4 ++ rest))))) := by
  unfold encode
  generalize body p.toRgb8 = contents
  refine ⟨4 + 8 + 5 + contents.size + (5 + contents.size) % 2, 5 + contents.size, contents.data.toList ++
    List.replicate ((5 + contents.size) % 2) 0, ?_⟩
  simp only [opening, ascii_RIFF, ascii_WEBPVP8L, ByteArray.toList_data_append, Binary.toList_bytes,
    List.append_assoc]

/-- The dimensions are read from the number that they are packed in. -/
theorem of_packed {size : Size} (hsize : size.InLimits) :
    packed size < 256 ^ 4 ∧ packed size % 16384 + 1 = size.width.toNat ∧
      packed size / 16384 % 16384 + 1 = size.height.toNat ∧ packed size / 268435456 % 2 ≠ 1 := by
  obtain ⟨hw, hh, hw', hh'⟩ := hsize
  unfold packed
  generalize size.width.toNat = w at *
  generalize size.height.toNat = h at *
  refine ⟨?_, ?_, ?_, ?_⟩ <;> omega

/-- **The header of what is encoded says its size, and three samples of a byte.** -/
theorem header?_encode {p : Picture} (hsize : p.size.InLimits) :
    header? (encode p) = some (p.size, .rgb8) := by
  obtain ⟨n, m, rest, hdata⟩ := exists_toList_encode p
  obtain ⟨hlt, hwidth, hheight, halpha⟩ := of_packed hsize
  generalize encode p = data at hdata ⊢
  have htype : (data.extract 12 16).data.toList = ascii "VP8L" := by
    rw [ascii_VP8L, ByteArray.data_extract, Array.toList_extract, hdata]
    rfl
  have hnumber : data.data.toList = ([0x52, 0x49, 0x46, 0x46] ++ (le n 4 ++
      ([0x57, 0x45, 0x42, 0x50, 0x56, 0x50, 0x38, 0x4C] ++ le m 4))) ++
        (([0x2F] ++ le (packed p.size) 4) ++ rest) := by
    simpa only [List.append_assoc] using hdata
  have hold := Binary.holds_of_toList hnumber
  simp only [List.length_append, Binary.length_le, List.length_cons, List.length_nil, Nat.reduceAdd] at hold
  obtain ⟨hmark, hpacked⟩ := Binary.holds_cons.mp hold
  rw [header?, if_pos ⟨htype, hmark⟩, Binary.le?_of_holds hpacked, Nat.mod_eq_of_lt hlt, Option.map_some,
    hwidth, hheight, if_neg halpha, UInt32.ofNat_toNat, UInt32.ofNat_toNat]

/-- What is encoded starts as a WebP file does. -/
theorem ofBytes?_encode (p : Picture) : Signature.ofBytes? (encode p) = some .webp := by
  obtain ⟨n, m, rest, hdata⟩ := exists_toList_encode p
  exact Signature.ofBytes?_webp n (hdata.trans (by simp only [List.append_assoc]; rfl))

end Webp

/-! ## 4. All formats -/

namespace Format

variable {f : Format} {p : Picture} {data : ByteArray}

theorem encode_png_eq_ok : png.encode p = .ok data ↔ Png.encode? p = some data := by
  unfold encode
  dsimp only
  cases Png.encode? p <;> simp

/-- **What is encoded has the signature of its format.** -/
theorem ofBytes?_of_encode (h : f.encode p = .ok data) :
    Signature.ofBytes? data = some (.ofFormat f) := by
  cases f with
  | png =>
    obtain ⟨_, _, _, _, _, _, hdata⟩ := Png.exists_toList_of_encode? (encode_png_eq_ok.mp h)
    exact Signature.ofBytes?_png hdata
  | jpeg =>
    cases h
    exact Jpeg.ofBytes?_encode p
  | webp =>
    cases h
    exact Webp.ofBytes?_encode p

/-- **The header of what is encoded says the size of the picture, and the color that the format gives
    it.** -/
theorem header?_of_encode (hsize : p.size.InLimits) (h : f.encode p = .ok data) :
    (Signature.ofFormat f).header? data = some (p.size, f.colorOf p.color) := by
  cases f with
  | png => exact Png.header?_of_encode? hsize (encode_png_eq_ok.mp h)
  | jpeg =>
    cases h
    exact Jpeg.header?_encode hsize
  | webp =>
    cases h
    exact Webp.header?_encode hsize

/-- **Nothing is refused but floating-point samples in a format that has none.** -/
theorem encode_eq_error {e : PictureFailure} (h : f.encode p = .error e) :
    f = png ∧ p.color.sampleBytes = 4 ∧ ∃ detail, e = .encode detail := by
  cases f with
  | jpeg => cases h
  | webp => cases h
  | png =>
    unfold encode at h
    dsimp only at h
    split at h
    · cases h
    · rename_i hnone
      cases h
      refine ⟨rfl, ?_, _, rfl⟩
      unfold Png.encode? at hnone
      generalize p.color = c at hnone ⊢
      cases c <;> first | rfl | cases hnone

end Format

end Vignette

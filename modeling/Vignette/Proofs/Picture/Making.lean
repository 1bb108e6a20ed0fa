import Vignette.Proofs.Picture.Encoded
import Vignette.Proofs.Picture.Header
import Vignette.Proofs.Picture.ReadBack

/-!
# What becomes of a capture

A capture is made a thumbnail, or there is a reason why not. The reasons are looked for in a fixed
order, and the first that is found is the answer (`Thumbnail.Outcome`): the size that is wanted, the
capture that is no picture, the window that it cannot be cropped to, the encoder that refuses it.

Main statement: **making a thumbnail has just that outcome, and a thumbnail that is made has the
signature of its format, the size that is wanted, and the color that the format gives the capture**
(`Thumbnail.make_characterized`).
-/

namespace Vignette

/-! ## 1. Colors -/

namespace Picture

variable {p q : Picture} {window size : Size}

@[simp] theorem color_resize (p : Picture) (size : Size) : (p.resize size).color = p.color := by
  unfold resize
  split <;> rfl

@[simp] theorem color_keepRows (p : Picture) (rows : UInt32) : (p.keepRows rows).color = p.color := by
  unfold keepRows
  split <;> rfl

/-- Cropping fails on a window with a zero, and where no row is kept. -/
theorem cropTo_eq_error {e : PictureFailure} : p.cropTo window = .error e ↔
    window.isDegenerate = true ∧ e = .degenerate window ∨
      window.isDegenerate = false ∧ p.keptRows window = 0 ∧ e = .emptyCrop p.size := by
  unfold cropTo
  by_cases hzero : window.isDegenerate = true
  · rw [if_pos hzero]
    simp [hzero, eq_comm]
  · rw [if_neg hzero]
    by_cases hrows : p.keptRows window = 0
    · rw [if_pos hrows]
      simp [hzero, hrows, eq_comm]
    · rw [if_neg hrows]
      simp [hzero, hrows]

theorem color_of_cropTo (h : p.cropTo window = .ok q) : q.color = p.color := by
  unfold cropTo at h
  split at h
  · cases h
  · split at h
    · cases h
    · cases h
      exact color_keepRows p _

end Picture

/-! ## 2. Outcomes -/

namespace Thumbnail

/-- Is a picture to be cropped? Its width is not looked at. -/
def Crops (p : Picture) (window : Size) (crop : Bool) : Prop :=
  crop = true ∧ p.size.height ≠ window.height

/-- What is resized of a picture: what cropping leaves, or all of it. -/
inductive Keeps (p : Picture) (window : Size) (crop : Bool) : Picture → Prop where
  | cropped (hc : Crops p window crop) (kept : Picture) (hk : p.cropTo window = .ok kept) :
      Keeps p window crop kept
  | whole (hc : ¬ Crops p window crop) : Keeps p window crop p

/-- What becomes of a capture, and why. -/
inductive Outcome (decode : Decoder) (capture : ByteArray) (window thumb : Size) (format : Format) (crop : Bool) :
    Except PictureFailure ByteArray → Prop where
  /-- The size that is wanted has a zero. -/
  | degenerate (hz : thumb.isDegenerate = true) :
      Outcome decode capture window thumb format crop (.error (.degenerate thumb))
  /-- It is too large. -/
  | oversized (hz : thumb.isDegenerate = false) (hl : thumb.isOversized = true) :
      Outcome decode capture window thumb format crop (.error (.oversized thumb))
  /-- The capture is no picture. -/
  | undecoded (ht : thumb.InLimits) (detail : String)
      (hd : decode capture = .error detail) :
      Outcome decode capture window thumb format crop (.error (.decode detail))
  /-- It is to be cropped to a window with a zero. -/
  | windowless (ht : thumb.InLimits) (p : Picture) (hd : decode capture = .ok p)
      (hc : Crops p window crop) (hz : window.isDegenerate = true) :
      Outcome decode capture window thumb format crop (.error (.degenerate window))
  /-- It is to be cropped, and no row of it is kept. -/
  | emptied (ht : thumb.InLimits) (p : Picture) (hd : decode capture = .ok p)
      (hc : Crops p window crop) (hz : window.isDegenerate = false) (hr : p.keptRows window = 0) :
      Outcome decode capture window thumb format crop (.error (.emptyCrop p.size))
  /-- The encoder refuses what is resized. -/
  | refused (ht : thumb.InLimits) (p kept : Picture) (hd : decode capture = .ok p)
      (hk : Keeps p window crop kept) (detail : String)
      (he : format.encode (kept.resize thumb) = .error (.encode detail)) :
      Outcome decode capture window thumb format crop (.error (.encode detail))
  /-- What is resized is encoded. -/
  | made (ht : thumb.InLimits) (p kept : Picture) (hd : decode capture = .ok p)
      (hk : Keeps p window crop kept) (payload : ByteArray)
      (he : format.encode (kept.resize thumb) = .ok payload) :
      Outcome decode capture window thumb format crop (.ok payload)

section Keeps

variable {decode : Decoder} {p kept : Picture} {window thumb : Size} {format : Format} {crop : Bool}
  {capture : ByteArray}

theorem cropped_of_crops (h : Crops p window crop) : (cropped p window crop).2 = p.cropTo window := by
  obtain ⟨rfl, hheight⟩ := h
  have hif : (true && p.size.height != window.height) = true := by simpa using hheight
  rw [cropped, if_pos hif]
  cases p.cropTo window <;> rfl

theorem cropped_of_not_crops (h : ¬ Crops p window crop) : cropped p window crop = ([], .ok p) := by
  have hif : ¬ (crop && p.size.height != window.height) = true := by
    intro hif
    rw [Bool.and_eq_true, bne_iff_ne] at hif
    exact h hif
  rw [cropped, if_neg hif]

/-- **What is kept of a picture is what the program goes on with.** -/
theorem keeps_iff : Keeps p window crop kept ↔ (cropped p window crop).2 = .ok kept := by
  by_cases hc : Crops p window crop
  · rw [cropped_of_crops hc]
    constructor
    · rintro (⟨-, _, hk⟩ | hn)
      · exact hk
      · exact absurd hc hn
    · exact .cropped hc kept
  · rw [cropped_of_not_crops hc]
    constructor
    · rintro (⟨hy, _, -⟩ | -)
      · exact absurd hy hc
      · rfl
    · intro h
      cases h
      exact .whole hc

theorem Keeps.color_eq (h : Keeps p window crop kept) : kept.color = p.color := by
  cases h with
  | cropped _ _ hk => exact Picture.color_of_cropTo hk
  | whole => rfl

/-- What becomes of a picture goes by what is kept of it. -/
theorem ofPicture_of_keeps (h : Keeps p window crop kept) :
    (ofPicture p window thumb format crop).2 = format.encode (kept.resize thumb) := by
  have hc := keeps_iff.mp h
  unfold ofPicture
  split
  · rename_i hs
    rw [hs] at hc
    cases hc
    rfl
  · rename_i hs
    rw [hs] at hc
    cases hc

theorem ofPicture_of_error {e : PictureFailure} (hc : Crops p window crop)
    (h : p.cropTo window = .error e) : (ofPicture p window thumb format crop).2 = .error e := by
  have hs := (cropped_of_crops hc).trans h
  unfold ofPicture
  split
  · rename_i hs'
    rw [hs'] at hs
    cases hs
  · rename_i hs'
    rw [hs'] at hs
    cases hs
    rfl

/-- Something is kept of a picture, or it is to be cropped and that fails. -/
theorem exists_keeps_or (p : Picture) (window : Size) (crop : Bool) :
    (∃ kept, Keeps p window crop kept) ∨
      Crops p window crop ∧ ∃ e, p.cropTo window = .error e := by
  by_cases hc : Crops p window crop
  · cases hk : p.cropTo window with
    | ok kept => exact .inl ⟨kept, .cropped hc kept hk⟩
    | error e => exact .inr ⟨hc, e, rfl⟩
  · exact .inl ⟨p, .whole hc⟩

/-- A size within limits is not at fault. -/
theorem make_of_inLimits (ht : thumb.InLimits) : (make decode capture window thumb format crop).2 =
    match decode capture with
    | .error detail => .error (.decode detail)
    | .ok p => (ofPicture p window thumb format crop).2 := by
  obtain ⟨hzero, hsmall⟩ := Size.inLimits_iff.mp ht
  rw [make, hzero, hsmall]
  cases decode capture <;> rfl

end Keeps

/-! ## 3. Making -/

section Make

variable {decode : Decoder} {capture : ByteArray} {window thumb : Size} {format : Format} {crop : Bool}

/-- **Making a thumbnail has an outcome.** -/
theorem outcome_make (decode : Decoder) (capture : ByteArray) (window thumb : Size) (format : Format) (crop : Bool) :
    Outcome decode capture window thumb format crop (make decode capture window thumb format crop).2 := by
  by_cases hzero : thumb.isDegenerate = true
  · rw [make, if_pos hzero]
    exact .degenerate hzero
  by_cases hlarge : thumb.isOversized = true
  · rw [make, if_neg hzero, if_pos hlarge]
    exact .oversized (by simpa using hzero) hlarge
  have ht : thumb.InLimits := Size.inLimits_iff.mpr ⟨by simpa using hzero, by simpa using hlarge⟩
  rw [make_of_inLimits ht]
  cases hd : decode capture with
  | error detail => exact .undecoded ht detail hd
  | ok p =>
    dsimp only
    obtain ⟨kept, hk⟩ | ⟨hc, e, he⟩ := exists_keeps_or p window crop
    · rw [ofPicture_of_keeps hk]
      cases he : format.encode (kept.resize thumb) with
      | error e =>
        obtain ⟨-, -, detail, rfl⟩ := Format.encode_eq_error he
        exact .refused ht p kept hd hk detail he
      | ok payload => exact .made ht p kept hd hk payload he
    · rw [ofPicture_of_error hc he]
      obtain ⟨hz, rfl⟩ | ⟨hz, hr, rfl⟩ := Picture.cropTo_eq_error.mp he
      · exact .windowless ht p hd hc hz
      · exact .emptied ht p hd hc hz hr

/-- **An outcome is the result.** -/
theorem Outcome.make_eq {result : Except PictureFailure ByteArray}
    (h : Outcome decode capture window thumb format crop result) :
    (make decode capture window thumb format crop).2 = result := by
  cases h with
  | degenerate hz => rw [make, if_pos hz]
  | oversized hz hl => rw [make, hz, hl]; rfl
  | undecoded ht detail hd => rw [make_of_inLimits ht, hd]
  | windowless ht p hd hc hz =>
    rw [make_of_inLimits ht, hd]
    exact ofPicture_of_error hc (Picture.cropTo_eq_error.mpr (.inl ⟨hz, rfl⟩))
  | emptied ht p hd hc hz hr =>
    rw [make_of_inLimits ht, hd]
    exact ofPicture_of_error hc (Picture.cropTo_eq_error.mpr (.inr ⟨hz, hr, rfl⟩))
  | refused ht p kept hd hk detail he =>
    rw [make_of_inLimits ht, hd]
    exact (ofPicture_of_keeps hk).trans he
  | made ht p kept hd hk payload he =>
    rw [make_of_inLimits ht, hd]
    exact (ofPicture_of_keeps hk).trans he

/-- **What a thumbnail is**: in its format, of the size that was wanted, and in the color that the format
    gives the capture, as its header says, and as a decoder finds that reads back what is written. -/
theorem Outcome.of_ok {payload : ByteArray} (h : Outcome decode capture window thumb format crop (.ok payload)) :
    ∃ p, decode capture = .ok p ∧ Signature.ofBytes? payload = some (.ofFormat format) ∧
      (Signature.ofFormat format).header? payload = some (thumb, format.colorOf p.color) ∧
      (decode.ReadsBack format →
        ∃ shown, decode payload = .ok shown ∧ shown.size = thumb ∧ shown.color = format.colorOf p.color) := by
  cases h with
  | made ht p kept hd hk _ he =>
    have hsize : (kept.resize thumb).size = thumb := Picture.size_resize kept thumb
    have hcolor : (kept.resize thumb).color = p.color := (Picture.color_resize kept thumb).trans hk.color_eq
    have hlimits : (kept.resize thumb).size.InLimits := by
      rw [hsize]
      exact ht
    have hheader := Format.header?_of_encode hlimits he
    rw [hsize, hcolor] at hheader
    refine ⟨p, hd, Format.ofBytes?_of_encode he, hheader, fun hback => ?_⟩
    obtain ⟨shown, hshown, hsame⟩ := hback _ _ hlimits he
    rw [hsize, hcolor] at hsame
    exact ⟨shown, hshown, hsame⟩

/-- **Making a thumbnail has just the outcome that the order of the checks gives it, and a thumbnail that
    is made has the signature of its format, the size that is wanted, and the color of the capture, or
    three samples of a byte where the format knows no other**, for all bytes, all sizes and all
    formats, cropped or not, and whatever decodes. That the thumbnail is decoded to a picture of that size
    and that color takes a decoder that reads back what is written in the format; the built-in one reads back
    the two formats that lose nothing. -/
theorem make_characterized (decode : Decoder) (capture : ByteArray) (window thumb : Size) (format : Format)
    (crop : Bool) :
    (∀ result, (make decode capture window thumb format crop).2 = result ↔
      Outcome decode capture window thumb format crop result) ∧
    (∀ payload, (make decode capture window thumb format crop).2 = .ok payload →
      ∃ p, decode capture = .ok p ∧ Signature.ofBytes? payload = some (.ofFormat format) ∧
        (Signature.ofFormat format).header? payload = some (thumb, format.colorOf p.color) ∧
        (decode.ReadsBack format →
          ∃ shown, decode payload = .ok shown ∧ shown.size = thumb ∧ shown.color = format.colorOf p.color)) ∧
    Decoder.builtIn.ReadsBack .png ∧ Decoder.builtIn.ReadsBack .webp := by
  have houtcome := outcome_make decode capture window thumb format crop
  refine ⟨fun result => ⟨fun hresult => ?_, Outcome.make_eq⟩, fun payload hpayload => ?_,
    Decoder.builtIn_readsBack_png, Decoder.builtIn_readsBack_webp⟩
  · rw [← hresult]
    exact houtcome
  · rw [hpayload] at houtcome
    exact houtcome.of_ok

/-- Two gray pixels in a netpbm file, one above the other, are cropped to the first of them, made a thumbnail
    of two by two pixels, and read back. -/
theorem pixels_made :
    let capture : ByteArray :=
      ⟨#[0x50, 0x35, 0x20, 0x31, 0x20, 0x32, 0x20, 0x32, 0x35, 0x35, 0x0A, 0x07, 0x08]⟩
    Decoder.builtIn.ReadsBack .png ∧
      ∃ payload, (make Decoder.builtIn capture ⟨1, 1⟩ ⟨2, 2⟩ .png true).2 = .ok payload ∧
        ∃ shown, Decoder.builtIn payload = .ok shown ∧ shown.size = ⟨2, 2⟩ ∧ shown.color = .l8 := by
  intro capture
  have hmade : (make Decoder.builtIn capture ⟨1, 1⟩ ⟨2, 2⟩ .png true).2.isOk = true := by decide +kernel
  have hgray : (Decoder.builtIn capture).toOption.map Picture.color = some .l8 := by decide +kernel
  obtain ⟨-, hmakes, hpng, -⟩ := make_characterized Decoder.builtIn capture ⟨1, 1⟩ ⟨2, 2⟩ .png true
  refine ⟨hpng, ?_⟩
  cases h : (make Decoder.builtIn capture ⟨1, 1⟩ ⟨2, 2⟩ .png true).2 with
  | error e =>
    rw [h] at hmade
    cases hmade
  | ok payload =>
    obtain ⟨p, hp, -, -, hback⟩ := hmakes payload h
    obtain ⟨shown, hshown, hsize, hcolor⟩ := hback hpng
    rw [hp] at hgray
    exact ⟨payload, rfl, shown, hshown, hsize, hcolor.trans (Option.some.inj hgray)⟩

end Make

end Thumbnail

end Vignette

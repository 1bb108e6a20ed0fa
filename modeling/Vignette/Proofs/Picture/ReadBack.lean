import Vignette.Picture.Codec
import Vignette.Proofs.Picture.Png
import Vignette.Proofs.Picture.Webp

/-!
# Decoders that read back

What decodes captures is given, and it may know formats that nothing is known of here. Of a decoder it is
only ever relied upon that it reads back what is written: a picture within limits that is encoded in a
format is decoded from there, with its size and in the color of the format (`Decoder.ReadsBack`).

Main statement: **the built-in decoder reads back PNG and WebP** (`Decoder.builtIn_readsBack_png`,
`Decoder.builtIn_readsBack_webp`). JPEG it does not read, and the waves of which a JPEG file is made are
floating-point numbers; so of this format it can be relied upon, but is not shown here, that it is read back.
-/

namespace Vignette.Decoder

/-- A decoder reads back what is written in a format: whatever the encoder makes of a picture within limits
    is decoded, and to a picture of the same size, in the color that the format gives it. -/
def ReadsBack (decode : Decoder) (format : Format) : Prop :=
  ∀ (p : Picture) (data : ByteArray), p.size.InLimits → format.encode p = .ok data →
    ∃ q, decode data = .ok q ∧ q.size = p.size ∧ q.color = format.colorOf p.color

variable {format : Format} {p q : Picture} {data : ByteArray}

/-- What is encoded is read by the reader of its format. -/
theorem builtIn_of_encode (h : format.encode p = .ok data)
    (hq : (Signature.ofFormat format).decode? data = some q) : builtIn data = .ok q := by
  unfold builtIn
  rw [Format.ofBytes?_of_encode h]
  dsimp only
  rw [hq]

theorem builtIn_readsBack_png : builtIn.ReadsBack .png := fun p _ hsize h =>
  ⟨p, builtIn_of_encode h (Png.decode?_of_encode? hsize (Format.encode_png_eq_ok.mp h)), rfl, rfl⟩

theorem builtIn_readsBack_webp : builtIn.ReadsBack .webp := by
  intro p data hsize h
  have hq : builtIn data = .ok p.toRgb8 := by
    refine builtIn_of_encode h ?_
    cases h
    exact Webp.decode?_encode hsize
  exact ⟨p.toRgb8, hq, rfl, rfl⟩

end Vignette.Decoder

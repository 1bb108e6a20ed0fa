import Vignette.Failure
import Vignette.Format
import Vignette.Picture.Jpeg
import Vignette.Picture.Netpbm
import Vignette.Picture.Plain
import Vignette.Picture.Png.Decode
import Vignette.Picture.Radiance
import Vignette.Picture.Signature
import Vignette.Picture.Webp

/-!
# Encoded pictures

A picture is written in a format of thumbnails (`Format.encode`): PNG keeps its color, the others have
three samples of a byte. `header?` tells size and color of written pictures from their first bytes
alone.

What reads encoded pictures is a `Decoder`. Captures may come in more formats than are written here, so
whatever is made of a capture takes its decoder as an argument. `Decoder.builtIn` goes by the signature
of the bytes and reads the formats of `Signature.decode?`; to it the others are damaged.
-/

namespace Vignette

namespace Signature

/-- The format that thumbnails of a kind have. -/
def ofFormat : Format → Signature
  | .png => png
  | .jpeg => jpeg
  | .webp => webp

/-- The picture in a file of the format, if it is sound and its format is one that is read here. -/
def decode? (s : Signature) (data : ByteArray) : Option Picture :=
  match s with
  | png => Png.decode? data
  | webp => Webp.decode? data
  | bmp => Bitmap.decode? data
  | radiance => Radiance.decode? data
  | qoi => Qoi.decode? data
  | pnm => Netpbm.decode? data
  | farbfeld => Farbfeld.decode? data
  | jpeg | gif | tiff | dds | ico | avif | exr => none

/-- The size and the color that a file of the format says it has, for formats that are written. -/
def header? (s : Signature) (data : ByteArray) : Option (Size × Color) :=
  match s with
  | png => Png.header? data
  | jpeg => Jpeg.header? data
  | webp => Webp.header? data
  | _ => none

end Signature

/-- The detail of a failure when no signature fits. -/
def undeterminedDetail : String := "The image format could not be determined"

/-- What reads encoded pictures: the picture that the bytes are, or the detail why they are none. -/
abbrev Decoder : Type := ByteArray → Except String Picture

/-- The decoder that goes by the signature of the bytes. -/
def Decoder.builtIn : Decoder := fun data =>
  match Signature.ofBytes? data with
  | none => .error undeterminedDetail
  | some s =>
    match s.decode? data with
    | some p => .ok p
    | none => .error ("The " ++ s.extension ++ " data cannot be read")

/-- The color of pictures in a format, when this picture is written. -/
def Format.colorOf (f : Format) (c : Color) : Color :=
  match f with
  | .png => c
  | .jpeg | .webp => .rgb8

/-- The picture in a format. -/
def Format.encode (f : Format) (p : Picture) : Except PictureFailure ByteArray :=
  match f with
  | .jpeg => .ok (Jpeg.encode p)
  | .webp => .ok (Webp.encode p)
  | .png =>
    match Png.encode? p with
    | some data => .ok data
    | none => .error (.encode ("The format png has no samples of " ++ p.color.label))

end Vignette

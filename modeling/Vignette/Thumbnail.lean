import Vignette.Journal
import Vignette.Picture.Codec
import Vignette.Picture.Crop

/-!
# Thumbnails

A capture becomes a thumbnail in this order, and the first thing that fails decides: the size that
is wanted is looked at, the capture is decoded, it is cropped to the window if that is asked for and
its height is not the window's, it is brought to the size that is wanted, and it is encoded. What reads
the capture is given (`Decoder`).

`Thumbnail.make` gives the result together with the notes that were made on the way.
`Thumbnail.fileName` names the file that a thumbnail is saved in when no name is given: it has the
extension of the format that the bytes themselves show.
-/

namespace Vignette.Thumbnail

/-- The picture that is resized, and the notes on cropping. -/
def cropped (p : Picture) (window : Size) (crop : Bool) :
    List Note × Except PictureFailure Picture :=
  if crop && p.size.height != window.height then
    match p.cropTo window with
    | .ok q => ([.cropping q.size], .ok q)
    | .error e => ([], .error e)
  else ([], .ok p)

/-- The thumbnail of a picture. -/
def ofPicture (p : Picture) (window thumb : Size) (format : Format) (crop : Bool) :
    List Note × Except PictureFailure ByteArray :=
  match cropped p window crop with
  | (notes, .ok q) => (.captured p.size :: notes ++ [.resizing thumb], format.encode (q.resize thumb))
  | (notes, .error e) => (.captured p.size :: notes, .error e)

/-- The thumbnail of a capture. -/
def make (decode : Decoder) (capture : ByteArray) (window thumb : Size) (format : Format) (crop : Bool) :
    List Note × Except PictureFailure ByteArray :=
  if thumb.isDegenerate then ([], .error (.degenerate thumb))
  else if thumb.isOversized then ([], .error (.oversized thumb))
  else
    match decode capture with
    | .error detail => ([], .error (.decode detail))
    | .ok p => ofPicture p window thumb format crop

/-- The extension that the bytes of a thumbnail show. -/
def extension (thumbnail : ByteArray) : String :=
  match Signature.ofBytes? thumbnail with
  | some s => s.extension
  | none => Signature.png.extension

/-- The name of the file for a thumbnail. -/
def fileName (key : Key) (thumbnail : ByteArray) : String := key.text ++ "." ++ extension thumbnail

end Vignette.Thumbnail

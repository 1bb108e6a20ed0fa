/-!
# Formats by their first bytes

The format of an encoded picture is told by what its bytes start with. The signatures are tried in a
fixed order and the first that fits decides; a question mark in a signature fits every byte.
-/

namespace Vignette

/-- A format of encoded pictures. -/
inductive Signature
  | png
  | jpeg
  | gif
  | webp
  | tiff
  | dds
  | bmp
  | ico
  | radiance
  | avif
  | exr
  | qoi
  | pnm
  | farbfeld
  deriving DecidableEq, Repr

namespace Signature

/-- The file extension. -/
def extension : Signature → String
  | png => "png"
  | jpeg => "jpg"
  | gif => "gif"
  | webp => "webp"
  | tiff => "tiff"
  | dds => "dds"
  | bmp => "bmp"
  | ico => "ico"
  | radiance => "hdr"
  | avif => "avif"
  | exr => "exr"
  | qoi => "qoi"
  | pnm => "pbm"
  | farbfeld => "ff"

/-- The bytes of a text, every byte wanted as it is. -/
def exactly (s : String) : List (Option UInt8) := s.toUTF8.toList.map some

/-- Bytes that stand for themselves. -/
def bytes (bs : List UInt8) : List (Option UInt8) := bs.map some

/-- Any `n` bytes. -/
def any (n : Nat) : List (Option UInt8) := List.replicate n none

/-- The signatures in the order in which they are tried; `none` fits every byte. -/
def table : List (Signature × List (Option UInt8)) := [
  (png, bytes [0x89, 0x50, 0x4E, 0x47, 0x0D, 0x0A, 0x1A, 0x0A]),
  (jpeg, bytes [0xFF, 0xD8, 0xFF]),
  (gif, exactly "GIF89a"),
  (gif, exactly "GIF87a"),
  (webp, exactly "RIFF" ++ any 4 ++ exactly "WEBP"),
  (tiff, exactly "MM" ++ bytes [0x00, 0x2A]),
  (tiff, exactly "II" ++ bytes [0x2A, 0x00]),
  (dds, exactly "DDS "),
  (bmp, exactly "BM"),
  (ico, bytes [0x00, 0x00, 0x01, 0x00]),
  (radiance, exactly "#?RADIANCE"),
  (avif, bytes [0x00, 0x00] ++ any 2 ++ exactly "ftypavif"),
  (exr, bytes [0x76, 0x2F, 0x31, 0x01]),
  (qoi, exactly "qoif"),
  (pnm, exactly "P1"),
  (pnm, exactly "P2"),
  (pnm, exactly "P3"),
  (pnm, exactly "P4"),
  (pnm, exactly "P5"),
  (pnm, exactly "P6"),
  (pnm, exactly "P7"),
  (farbfeld, exactly "farbfeld")]

/-- Do the bytes from place `i` on start as the signature says? -/
def fits (data : ByteArray) : (i : Nat) → List (Option UInt8) → Bool
  | _, [] => true
  | i, want :: rest =>
    match data[i]? with
    | none => false
    | some b => (want.isNone || want == some b) && fits data (i + 1) rest

/-- The format of encoded bytes. -/
def ofBytes? (data : ByteArray) : Option Signature :=
  (table.find? fun (_, s) => fits data 0 s).map Prod.fst

end Signature

end Vignette

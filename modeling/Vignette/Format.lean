/-!
# Image formats of thumbnails

A thumbnail is encoded as PNG (lossless, with the alpha channel), JPEG (lossy, without it) or WebP
(without it). A format is named in any mixture of cases; `jpg` is another name of `jpeg`, but only
on the command line: a settings file knows the lower-case names alone (`Format.name`).
-/

namespace Vignette

/-- How a thumbnail is encoded. -/
inductive Format
  | png
  | jpeg
  | webp
  deriving DecidableEq, Repr

namespace Format

/-- The formats, in the order in which messages list them. -/
def all : List Format := [png, jpeg, webp]

/-- The name in settings. -/
def name : Format → String
  | png => "png"
  | jpeg => "jpeg"
  | webp => "webp"

/-- The name with a capital, as reports show it. -/
def label : Format → String
  | png => "Png"
  | jpeg => "Jpeg"
  | webp => "Webp"

/-- The file extension. -/
def extension : Format → String
  | png => "png"
  | jpeg => "jpg"
  | webp => "webp"

/-- Why a text names no format: the text, in lower case. -/
structure Unsupported where
  name : String
  deriving DecidableEq, Repr

/-- The sentence that a message shows. -/
def Unsupported.message (e : Unsupported) : String := s!"Unsupported output format: {e.name}"

/-- The format that a text names, in any mixture of cases. -/
def parse (input : String) : Except Unsupported Format :=
  match input.toLower with
  | "png" => .ok png
  | "jpg" => .ok jpeg
  | "jpeg" => .ok jpeg
  | "webp" => .ok webp
  | other => .error ⟨other⟩

end Format

end Vignette

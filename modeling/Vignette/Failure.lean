import Vignette.Size
import Vignette.Span

/-!
# What can go wrong

Three parts of the work fail in ways of their own: taking the picture (`CaptureFailure`), turning it
into a thumbnail (`PictureFailure`), and storing it (`StoreFailure`). The first two together are why
a rendering yields nothing (`RenderFailure`); `Failure` is what a command ends with.

Each has two texts. `message` is the sentence for a person. `report` names the cause by its `label`
and shows what it carries, on one line and with texts quoted, as a program that dies leaves it.
-/

namespace Vignette

/-- A label and one quoted text in brackets. -/
def reportText (label detail : String) : String := label ++ "(" ++ Text.quoted detail ++ ")"

/-! ## 1. Taking the picture -/

/-- Why the browser delivered no picture of a page. -/
inductive CaptureFailure
  /-- No browser could be started. -/
  | launch (detail : String)
  /-- The page was not loaded. -/
  | navigation (detail : String)
  /-- The page has no such element. -/
  | element (detail : String)
  /-- The element could not be photographed. -/
  | picture (detail : String)
  /-- A picture without a byte. -/
  | empty
  /-- The browser would not take the identity. -/
  | identity (detail : String)
  /-- The time for the whole capture was over. -/
  | timeout (limit : Span)
  deriving DecidableEq, Repr

namespace CaptureFailure

/-- The sentence for a person. -/
def message : CaptureFailure → String
  | launch d => "Browser launch failed: " ++ d
  | navigation d => "Navigation failed: " ++ d
  | element d => "Element not found: " ++ d
  | picture d => "Screenshot capture failed: " ++ d
  | empty => "Capture returned no image data"
  | identity d => "Invalid identity: " ++ d
  | timeout t => "Timeout after " ++ t.exactText

/-- The name of the cause. -/
def label : CaptureFailure → String
  | launch _ => "BrowserLaunchFailed"
  | navigation _ => "NavigationFailed"
  | element _ => "ElementNotFound"
  | picture _ => "CaptureFailed"
  | empty => "EmptyCapture"
  | identity _ => "InvalidIdentity"
  | timeout _ => "Timeout"

/-- The cause with what it carries. -/
def report (e : CaptureFailure) : String :=
  match e with
  | launch d | navigation d | element d | picture d | identity d => reportText e.label d
  | empty => e.label
  | timeout t => e.label ++ "(" ++ t.exactText ++ ")"

/-- Has a later attempt a reasonable chance? A missing element and a refused identity stay so. -/
def isRetryable : CaptureFailure → Bool
  | element _ => false
  | identity _ => false
  | _ => true

end CaptureFailure

/-! ## 2. Making the thumbnail -/

/-- Why a picture did not become a thumbnail. -/
inductive PictureFailure
  /-- The bytes are no picture that can be read. -/
  | decode (detail : String)
  /-- A size with a zero dimension. -/
  | degenerate (size : Size)
  /-- A size that is too large. -/
  | oversized (size : Size)
  /-- Cropping a picture of this size would leave no row. -/
  | emptyCrop (captured : Size)
  /-- The picture cannot be written in the format. -/
  | encode (detail : String)
  deriving DecidableEq, Repr

namespace PictureFailure

/-- The sentence for a person. -/
def message : PictureFailure → String
  | decode d => "Image decode failed: " ++ d
  | degenerate s => s!"Degenerate size: {s}"
  | oversized s => s!"Size {s} exceeds the maximum dimension"
  | emptyCrop s => s!"Crop of {s} image collapses to zero height"
  | encode d => "Image encode failed: " ++ d

/-- The name of the cause. -/
def label : PictureFailure → String
  | decode _ => "Decode"
  | degenerate _ => "DegenerateSize"
  | oversized _ => "OversizedSize"
  | emptyCrop _ => "EmptyCrop"
  | encode _ => "Encode"

/-- A size as a report shows it, in braces. -/
def reportSize (s : Size) : String :=
  "\x7b width: " ++ Text.decimalText s.width.toNat ++ ", height: " ++
    Text.decimalText s.height.toNat ++ " \x7d"

/-- The cause with what it carries. -/
def report (e : PictureFailure) : String :=
  match e with
  | decode d | encode d => reportText e.label d
  | degenerate s | oversized s => e.label ++ "(WindowSize " ++ reportSize s ++ ")"
  | emptyCrop s => e.label ++ " " ++ reportSize s

end PictureFailure

/-- Why a page did not become a thumbnail. -/
inductive RenderFailure
  | capture (cause : CaptureFailure)
  | transform (cause : PictureFailure)
  deriving DecidableEq, Repr

namespace RenderFailure

/-- The sentence for a person. -/
def message : RenderFailure → String
  | capture e => "capture failed: " ++ e.message
  | transform e => "transform failed: " ++ e.message

/-- The cause with what it carries. -/
def report : RenderFailure → String
  | capture e => "Capture(" ++ e.report ++ ")"
  | transform e => "Transform(" ++ e.report ++ ")"

end RenderFailure

/-! ## 3. Storing it -/

/-- Why a store did not answer. -/
inductive StoreFailure
  /-- The store is not there. -/
  | unavailable (detail : String)
  /-- Reading or writing failed. -/
  | io (detail : String)
  /-- The text is no key. -/
  | invalidKey (input : String)
  deriving DecidableEq, Repr

namespace StoreFailure

/-- The sentence for a person. -/
def message : StoreFailure → String
  | unavailable d => "Cache unavailable: " ++ d
  | io d => "Cache IO error: " ++ d
  | invalidKey d => "Invalid cache key: " ++ d

/-- The name of the cause. -/
def label : StoreFailure → String
  | unavailable _ => "Unavailable"
  | io _ => "Io"
  | invalidKey _ => "InvalidKey"

/-- The cause with what it carries. -/
def report (e : StoreFailure) : String :=
  match e with
  | unavailable d | io d | invalidKey d => reportText e.label d

end StoreFailure

/-! ## 4. Whole commands -/

/-- How grave a failure is. -/
inductive Severity
  | low
  | medium
  | high
  deriving DecidableEq, Repr

/-- The name of a degree. -/
def Severity.label : Severity → String
  | low => "Low"
  | medium => "Medium"
  | high => "High"

/-- Why a command did not do what it was asked for. -/
inductive Failure
  /-- The address of the page cannot be read. -/
  | address (detail : String)
  /-- Settings or arguments that make no sense. -/
  | configuration (detail : String)
  /-- The store failed. -/
  | store (cause : StoreFailure)
  /-- There is no thumbnail now. -/
  | unavailable (key : String)
  /-- The counters cannot be set up. -/
  | metrics (detail : String)
  /-- A file could not be read or written. -/
  | io (detail : String)
  /-- A text is not the JSON that was expected. -/
  | serialization (detail : String)
  deriving DecidableEq, Repr

namespace Failure

/-- The sentence for a person. -/
def message : Failure → String
  | address d => "Invalid URL: " ++ d
  | configuration d => "Configuration error: " ++ d
  | store e => e.message
  | unavailable k => "Thumbnail unavailable: " ++ k
  | metrics d => "Metrics error: " ++ d
  | io d => "IO error: " ++ d
  | serialization d => "Serialization error: " ++ d

/-- The name of the cause. -/
def label : Failure → String
  | address _ => "InvalidUrl"
  | configuration _ => "ConfigurationError"
  | store _ => "Cache"
  | unavailable _ => "Unavailable"
  | metrics _ => "MetricsError"
  | io _ => "IoError"
  | serialization _ => "SerializationError"

/-- The cause with what it carries. -/
def report (e : Failure) : String :=
  match e with
  | store c => e.label ++ "(" ++ c.report ++ ")"
  | address d | configuration d | unavailable d | metrics d | io d | serialization d =>
    reportText e.label d

/-- Settings that make no sense and a store that is not there are grave; a page that cannot be
    shown now is not. -/
def severity : Failure → Severity
  | unavailable _ => .low
  | address _ => .low
  | configuration _ => .high
  | store (.unavailable _) => .high
  | _ => .medium

end Failure

end Vignette

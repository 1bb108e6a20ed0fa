import Vignette.Identity
import Vignette.Json.Reader
import Vignette.Json.Tree
import Vignette.Settings

/-!
# The JSON forms of settings, sizes and identities

Each type has a form (`toJson`) and a reader for it (`reader`). The members of an object are written
in a fixed order. Settings and the settings of the browser may be read from any part of their
members: what is missing keeps its default, so `null` is not the same as a missing member.
-/

namespace Vignette

open Json (Reader Slot Layout)

namespace Json

/-- A number of 32 bits. -/
def word32 : Reader UInt32 := fun s =>
  match natural UInt32.size "u32" s with
  | .error e => .error e
  | .ok (n, r) => .ok (UInt32.ofNat n, r)

/-- A field whose value is put in its place by `put`. -/
def field {σ α : Type} (name : String) (read : Reader α) (put : α → σ → σ) : Slot σ :=
  ⟨name, true, fun s =>
    match read s with
    | .error e => .error e
    | .ok (a, r) => .ok (put a, r)⟩

/-- A field that may be missing. -/
def field? {σ α : Type} (name : String) (read : Reader α) (put : α → σ → σ) : Slot σ :=
  { field name read put with required := false }

end Json

open Json (word32 field field?)

/-! ## 1. Sizes -/

namespace Size

/-- The form of a size. -/
def toJson (s : Size) : Json :=
  .object [("width", .number s.width.toNat), ("height", .number s.height.toNat)]

/-- The reader's layout. -/
def layout : Layout Size where
  title := "struct WindowSize"
  slots := [field "width" word32 fun w s => { s with width := w },
    field "height" word32 fun h s => { s with height := h }]
  start := ⟨0, 0⟩
  full := some "struct WindowSize with 2 elements"
  closed := false

/-- Reads a size. -/
def reader : Reader Size := Json.record layout .ok

end Size

namespace Preset

/-- The form of a preset. -/
def toJson (p : Preset) : Json :=
  .object [("window_size", p.window.toJson), ("thumb_size", p.thumb.toJson)]

/-- The reader's layout. -/
def layout : Layout Preset where
  title := "struct SizePreset"
  slots := [field "window_size" Size.reader fun w p => { p with window := w },
    field "thumb_size" Size.reader fun t p => { p with thumb := t }]
  start := ⟨⟨0, 0⟩, ⟨0, 0⟩⟩
  full := some "struct SizePreset with 2 elements"
  closed := false

/-- Reads a preset. -/
def reader : Reader Preset := Json.record layout .ok

end Preset

/-! ## 2. Names -/

namespace Format

/-- The form of a format: its name. -/
def toJson (f : Format) : Json := .string f.name

/-- Reads a format. -/
def reader : Reader Format := Json.choice (all.map fun f => (f.name, f))

end Format

namespace Kind

/-- The form of a kind: its name. -/
def toJson (k : Kind) : Json := .string k.name

/-- Reads a kind. -/
def reader : Reader Kind := Json.choice (all.map fun k => (k.name, k))

end Kind

/-! ## 3. Identities -/

namespace Cookie

/-- The form of a cookie. -/
def toJson (c : Cookie) : Json := .object [("name", .string c.name), ("value", .string c.value)]

/-- The reader's layout. -/
def layout : Layout Cookie where
  title := "struct SessionCookie"
  slots := [field "name" (Json.quoted "a string") fun n c => { c with name := n },
    field "value" (Json.quoted "a string") fun v c => { c with value := v }]
  start := ⟨"", ""⟩
  full := some "struct SessionCookie with 2 elements"
  closed := false

/-- Reads a cookie. -/
def reader : Reader Cookie := Json.record layout .ok

end Cookie

namespace Identity

/-- The form of an identity. -/
def toJson (i : Identity) : Json :=
  .object [("username", Json.ofOption i.username), ("cookies", .array (i.cookies.map Cookie.toJson))]

/-- The reader's layout. -/
def layout : Layout Identity where
  title := "struct Identity"
  slots := [
    field? "username" (Json.optional (Json.quoted "a string")) fun n i => { i with username := n },
    field "cookies" (Json.list Cookie.reader) fun cs i => { i with cookies := cs }]
  start := anonymous
  full := some "struct Identity with 2 elements"
  closed := false

/-- Reads an identity. -/
def reader : Reader Identity := Json.record layout .ok

end Identity

/-! ## 4. Spans -/

namespace Span

/-- The form of a span. -/
def toJson (s : Span) : Json :=
  .object [("secs", .number s.seconds.toNat), ("nanos", .number s.nanos.val)]

/-- The span of a number of seconds and any number of nanoseconds, if its seconds have 64 bits. -/
def ofParts (seconds nanos : Nat) : Except Json.Cause Span :=
  if seconds + nanos / 1000000000 < UInt64.size then
    .ok (ofNanoseconds (seconds * 1000000000 + nanos))
  else .error (.other "overflow deserializing Duration")

/-- The reader's layout: seconds and nanoseconds, and nothing else. -/
def layout : Layout (Nat × Nat) where
  title := "struct Duration"
  slots := [field "secs" (Json.natural UInt64.size "u64") fun n p => (n, p.2),
    field "nanos" (Json.natural UInt32.size "u32") fun n p => (p.1, n)]
  start := (0, 0)
  full := some "struct Duration"
  closed := true

/-- Reads a span. -/
def reader : Reader Span := Json.record layout fun p => ofParts p.1 p.2

end Span

/-! ## 5. Settings -/

namespace BrowserSettings

/-- The form of the settings of the browser. -/
def toJson (b : BrowserSettings) : Json :=
  .object [
    ("chrome_path", Json.ofOption b.program),
    ("screenshot_timeout", b.timeout.toJson),
    ("settle_delay", match b.settle with | none => .null | some s => s.toJson),
    ("user_agent", Json.ofOption b.userAgent)]

/-- The reader's layout. -/
def layout : Layout BrowserSettings where
  title := "struct DriverConfig"
  slots := [
    field? "chrome_path" (Json.optional (Json.quoted "a string")) fun p b => { b with program := p },
    field? "screenshot_timeout" Span.reader fun t b => { b with timeout := t },
    field? "settle_delay" (Json.optional Span.reader) fun s b => { b with settle := s },
    field? "user_agent" (Json.optional (Json.quoted "a string")) fun a b =>
      { b with userAgent := a }]
  start := default
  full := none
  closed := false

/-- Reads the settings of the browser. -/
def reader : Reader BrowserSettings := Json.record layout .ok

end BrowserSettings

namespace Settings

/-- The form of settings. -/
def toJson (c : Settings) : Json :=
  .object [
    ("driver", c.browser.toJson),
    ("chart", c.chart.toJson),
    ("dashboard", c.dashboard.toJson),
    ("output_format", c.format.toJson),
    ("crop", .bool c.crop),
    ("cache_dir", .string c.directory)]

/-- The reader's layout. -/
def layout : Layout Settings where
  title := "struct Config"
  slots := [
    field? "driver" BrowserSettings.reader fun b c => { c with browser := b },
    field? "chart" Preset.reader fun p c => { c with chart := p },
    field? "dashboard" Preset.reader fun p c => { c with dashboard := p },
    field? "output_format" Format.reader fun f c => { c with format := f },
    field? "crop" Json.truth fun b c => { c with crop := b },
    field? "cache_dir" (Json.quoted "path string") fun d c => { c with directory := d }]
  start := default
  full := none
  closed := false

/-- Reads settings. -/
def reader : Reader Settings := Json.record layout .ok

/-- The settings that a text holds. -/
def ofText (text : String) : Except Failure Settings :=
  (Json.whole reader text).mapError .serialization

/-- The settings that the bytes of a file hold. -/
def ofBytes (bytes : ByteArray) : Except Failure Settings :=
  match String.fromUTF8? bytes with
  | none => .error (.io "stream did not contain valid UTF-8")
  | some text => ofText text

end Settings

end Vignette

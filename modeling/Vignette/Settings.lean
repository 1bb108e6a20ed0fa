import Vignette.Failure
import Vignette.Format
import Vignette.Kind
import Vignette.Span

/-!
# Settings

What can be set once for many thumbnails: how the browser is run, the sizes for charts and for
dashboards, how thumbnails are encoded and cropped, and the directory of the store. Everything has a
default.

`Settings.flaw?` is the check before anything is done with them: it names the first thing that could
not work, in a fixed order, and `none` means that all of it can.
-/

namespace Vignette

/-- How the browser is run. -/
structure BrowserSettings where
  /-- The program; without it one has to be found. -/
  program : Option String
  /-- The time for a whole capture, from the start of the browser on. -/
  timeout : Span
  /-- The time that a page is left alone after it has loaded. -/
  settle : Option Span
  /-- The name under which the browser asks for pages. -/
  userAgent : Option String
  deriving DecidableEq, Repr

/-- A minute for a capture, and two seconds for a page to come to rest. -/
def BrowserSettings.default : BrowserSettings :=
  ⟨none, Span.ofSeconds 60, some (Span.ofSeconds 2), none⟩

/-- The arguments that the browser is started with, for a window and a fresh profile directory. -/
def BrowserSettings.arguments (b : BrowserSettings) (window : Size) (profile : String) :
    List String :=
  ["--headless", "--no-sandbox", "--disable-dev-shm-usage", "--disable-gpu", "--hide-scrollbars",
    "--disable-extensions", "--disable-default-apps", "--disable-sync", "--no-first-run",
    "--window-size=" ++ Text.decimalText window.width.toNat ++ "," ++
      Text.decimalText window.height.toNat,
    "--user-data-dir=" ++ profile] ++
    (b.userAgent.map fun agent => "--user-agent=" ++ agent).toList

/-- What can be set once for many thumbnails. -/
structure Settings where
  browser : BrowserSettings
  chart : Preset
  dashboard : Preset
  format : Format
  /-- Is a picture cropped whose height is not the window's? -/
  crop : Bool
  /-- The directory of the store. -/
  directory : String
  deriving DecidableEq, Repr

namespace Settings

/-- The settings when nothing is set. -/
def default : Settings where
  browser := BrowserSettings.default
  chart := Kind.chart.defaultSizes
  dashboard := Kind.dashboard.defaultSizes
  format := .png
  crop := true
  directory := ".thumbnail-cache"

/-- The sizes for a kind of page. -/
def sizes (c : Settings) : Kind → Preset
  | .chart => c.chart
  | .dashboard => c.dashboard

/-! ## What cannot work -/

/-- What cannot work. -/
inductive Flaw
  /-- No time for a capture. -/
  | noTime
  /-- A dimension of a preset is zero. -/
  | degenerate (kind : Kind)
  /-- A dimension of a preset is too large. -/
  | oversized (kind : Kind)
  /-- The store has no directory. -/
  | noDirectory
  deriving DecidableEq, Repr

/-- The sentence that a message shows. -/
def Flaw.message : Flaw → String
  | noTime => "Screenshot timeout must be greater than 0"
  | degenerate kind => s!"{kind} window and thumbnail dimensions must be greater than 0"
  | oversized kind =>
    s!"{kind} window and thumbnail dimensions must not exceed {Size.maxDimension}"
  | noDirectory => "Cache directory must not be empty"

/-- What cannot work about the sizes of a kind. -/
def presetFlaw? (c : Settings) (kind : Kind) : Option Flaw :=
  let p := c.sizes kind
  if p.window.isDegenerate || p.thumb.isDegenerate then some (.degenerate kind)
  else if p.window.isOversized || p.thumb.isOversized then some (.oversized kind)
  else none

/-- The first thing that cannot work. -/
def flaw? (c : Settings) : Option Flaw :=
  if c.browser.timeout.isZero then some .noTime
  else
    match Kind.all.findSome? c.presetFlaw? with
    | some flaw => some flaw
    | none => if c.directory.isEmpty then some .noDirectory else none

/-- Settings that can work pass; the others fail with what cannot. -/
def check (c : Settings) : Except Failure Unit :=
  match c.flaw? with
  | some flaw => .error (.configuration flaw.message)
  | none => .ok ()

end Settings

end Vignette

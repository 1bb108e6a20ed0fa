import Vignette.Snapshot

/-!
# Browser sessions

Every capture has a browser of its own, with a fresh profile directory, and nothing is left of either
afterwards. A session takes its steps in a fixed order: profile, configuration, start, page, window,
cookies, loading, waiting, settling, finding the element, and its picture. The first step that fails
decides (`Session.capture`), and whatever was opened is closed again on every way out: the page, then
the browser, then the connection to it, then the profile. Failures of closing do not count.

The whole session has a time limit. When a step does not answer within it, the browser is let go of
and the profile is removed (`Session.run`).
-/

namespace Vignette

/-! ## 1. Steps -/

/-- One step of a session. -/
inductive BrowserStep
  /-- Makes a profile directory, and says where. -/
  | makeProfile
  /-- Finds the program, the one that is named or any other. -/
  | configure (program : Option String)
  /-- Starts the browser with arguments, connects to it, and listens to it from then on. -/
  | launch (arguments : List String)
  /-- Opens an empty page. -/
  | openPage
  /-- Gives the page a window. -/
  | emulate (window : Size)
  /-- Gives the page cookies for an address. -/
  | setCookies (cookies : List Cookie) (address : String)
  /-- Leaves a note. -/
  | note (note : Note)
  /-- Goes to an address. -/
  | goTo (address : String)
  /-- Waits for the page to be loaded. -/
  | awaitLoaded
  /-- Waits. -/
  | settle (time : Span)
  /-- Finds an element. -/
  | find (selector : String)
  /-- Takes the picture of the element that was found. -/
  | picture
  /-- Closes the page. -/
  | closePage
  /-- Asks the browser to quit. -/
  | closeBrowser
  /-- Waits for the browser to end. -/
  | awaitExit
  /-- Stops listening to the browser. -/
  | disconnect
  /-- Lets go of whatever is open: the page, the connection, the browser. -/
  | abandon
  /-- Removes the profile directory with everything in it. -/
  | removeProfile

/-- What the answer to a step is; a failure comes with the browser's words. -/
abbrev BrowserStep.Answer : BrowserStep → Type
  | makeProfile => Except String String
  | picture => Except String ByteArray
  | note _ | settle _ | awaitExit | disconnect | abandon | removeProfile => Unit
  | _ => Except String Unit

/-- A program of such steps. -/
abbrev BrowserProgram (α : Type) : Type := Program BrowserStep.Answer α

/-- The name of a new profile directory begins with this. -/
def profileName : String := "thumbnail-cache-profile-"

namespace Session

/-- A step that may fail, and what its failure means. -/
def attempt {α ε : Type} (x : BrowserStep) (h : x.Answer = Except String α) (cause : String → ε) :
    BrowserProgram (Except ε α) :=
  .act x fun answer => .done ((cast h answer).mapError cause)

/-- A step whose answer does not matter. -/
def doStep (x : BrowserStep) : BrowserProgram Unit := .act x fun _ => .done ()

/-! ## 2. The page -/

/-- Who the page is loaded for, as a note says it; nobody, without a name or a cookie. -/
def visitor (i : Identity) : Option String :=
  if i.isAnonymous then none else some (i.username.getD "cookie session")

/-- The element of a loaded page, and its picture. -/
def photograph (selector : String) : BrowserProgram (Except CaptureFailure ByteArray) := do
  match ← attempt (.find selector) rfl fun e => CaptureFailure.element (selector ++ ": " ++ e) with
  | .error e => return .error e
  | .ok () => attempt .picture rfl CaptureFailure.picture

/-- The page loaded and come to rest, and the picture of its element. -/
def load (b : BrowserSettings) (shot : Shot) : BrowserProgram (Except CaptureFailure ByteArray) := do
  doStep (.note (.loading shot.address (visitor shot.identity)))
  match ← attempt (.goTo shot.address) rfl CaptureFailure.navigation with
  | .error e => return .error e
  | .ok () =>
    match ← attempt .awaitLoaded rfl CaptureFailure.navigation with
    | .error e => return .error e
    | .ok () =>
      match b.settle with
      | some time =>
        doStep (.settle time)
        photograph shot.selector
      | none => photograph shot.selector

/-- The page given its window and cookies, and then loaded. -/
def usePage (b : BrowserSettings) (shot : Shot) : BrowserProgram (Except CaptureFailure ByteArray) := do
  match ← attempt (.emulate shot.window) rfl CaptureFailure.picture with
  | .error e => return .error e
  | .ok () =>
    if shot.identity.cookies.isEmpty then load b shot
    else
      match ← attempt (.setCookies shot.identity.cookies shot.address) rfl CaptureFailure.identity with
      | .error e => return .error e
      | .ok () => load b shot

/-! ## 3. The browser -/

/-- A page opened, used, and closed again. -/
def useBrowser (b : BrowserSettings) (shot : Shot) :
    BrowserProgram (Except CaptureFailure ByteArray) := do
  match ← attempt .openPage rfl CaptureFailure.navigation with
  | .error e => return .error e
  | .ok () =>
    let result ← usePage b shot
    doStep .closePage
    return result

/-- The browser asked to quit, and gone. -/
def quit : BrowserProgram Unit := do
  match ← attempt .closeBrowser rfl Note.notClosed with
  | .ok () => doStep .awaitExit
  | .error n =>
    doStep (.note n)
    doStep .awaitExit

/-- A browser started, used, and ended again. -/
def useProfile (b : BrowserSettings) (profile : String) (shot : Shot) :
    BrowserProgram (Except CaptureFailure ByteArray) := do
  match ← attempt (.configure b.program) rfl CaptureFailure.launch with
  | .error e => return .error e
  | .ok () =>
    match ← attempt (.launch (b.arguments shot.window profile)) rfl CaptureFailure.launch with
    | .error e => return .error e
    | .ok () =>
      let result ← useBrowser b shot
      quit
      doStep .disconnect
      return result

/-- What is said when there is no profile directory. -/
def noProfile : String := "Failed to create profile dir: "

/-- A whole capture: a profile made, used, and removed again. -/
def capture (b : BrowserSettings) (shot : Shot) :
    BrowserProgram (Except CaptureFailure ByteArray) := do
  match ← attempt .makeProfile rfl fun e => CaptureFailure.launch (noProfile ++ e) with
  | .error e => return .error e
  | .ok profile =>
    let result ← useProfile b profile shot
    doStep .removeProfile
    return result

/-! ## 4. The time limit -/

/-- A capture that is over when a step has no answer in time. -/
def run {σ : Type} (answer : (x : BrowserStep) → σ → Option x.Answer × σ) (b : BrowserSettings)
    (shot : Shot) (s : σ) : Except CaptureFailure ByteArray × σ :=
  match (capture b shot).runUntil answer s with
  | (some result, s) => (result, s)
  | (none, s) =>
    let (_, s) := (do doStep .abandon; doStep .removeProfile).runUntil answer s
    (.error (.timeout b.timeout), s)

end Session

end Vignette

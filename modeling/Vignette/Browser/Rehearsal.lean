import Vignette.Browser.Session

/-!
# Rehearsals

A rehearsed browser follows a script instead of loading pages: it knows what comes of starting it,
which pictures which selectors have, and at most one stage at which it reports an error, dies, or
never answers. It keeps a record of what it was asked (`Record`). So a session can be run without a
browser, and without waiting: time passes only where the script or the session says so.

Every page loads at once. Cookies are refused before the browser is asked, since they belong to the
address of a page and the page is still empty.
-/

namespace Vignette

/-! ## 1. Scripts -/

/-- Where something can go wrong. -/
inductive Stage
  | launch
  | handshake
  | target
  | emulate
  | navigate
  | find
  | scroll
  | screenshot
  | close
  | quit
  deriving DecidableEq, Repr

/-- What can go wrong. -/
inductive Trouble
  /-- The browser reports an error. -/
  | fail
  /-- The browser dies. -/
  | crash
  /-- The browser never answers. -/
  | hang
  deriving DecidableEq, Repr

/-- What comes of starting a browser; times are in nanoseconds. -/
inductive Startup
  /-- It is ready after a time. -/
  | ready (time : Nat)
  /-- The system does not start it, and says why. -/
  | refused (words : String)
  /-- It ends by itself after a time, without a word. -/
  | ends (time : Nat)
  /-- It has the whole program interrupted after a time. -/
  | interrupts (time : Nat)
  deriving DecidableEq, Repr

/-- What a rehearsed browser does. -/
structure Script where
  /-- Why there is no profile directory, if there is none. -/
  noProfile : Option String
  startup : Startup
  /-- The pictures that selectors have. -/
  elements : List (String × ByteArray)
  trouble : Option (Trouble × Stage)

/-! ## 2. Records -/

/-- What a rehearsed browser was asked. -/
structure Record where
  /-- The arguments that it was started with. -/
  arguments : List String
  /-- The window of its page. -/
  metrics : Option Size
  /-- The addresses that it went to. -/
  addresses : List String
  /-- The selectors that it looked for. -/
  selectors : List String
  /-- The number of pictures that it took. -/
  pictures : Nat
  /-- Was it asked to quit? -/
  closed : Bool

/-- Nothing was asked. -/
def Record.empty : Record := ⟨[], none, [], [], 0, false⟩

/-- A rehearsed browser in the middle of a session. -/
structure Rehearsal where
  script : Script
  /-- When the time of the session is over, in nanoseconds from its beginning. -/
  limit : Nat
  /-- The time that has passed. -/
  now : Nat
  record : Record
  /-- The notes that the session left. -/
  notes : List Note
  /-- Does the browser live? -/
  alive : Bool
  /-- Was the whole program interrupted? -/
  interrupted : Bool
  /-- The element that was found last. -/
  found : ByteArray

namespace Rehearsal

/-- A session that begins. -/
def start (script : Script) (limit : Nat) : Rehearsal :=
  ⟨script, limit, 0, Record.empty, [], true, false, ByteArray.empty⟩

/-- The words of a browser that reports an error. -/
def refusal : String := "the browser refused"

/-- The words of a browser that has died. -/
def silence : String := "the browser is gone"

/-- The words on a browser that ended before it was ready. -/
def early : String := "Browser process exited before it was ready"

/-! ## 3. Stages -/

/-- The same rehearsal, some time later. -/
def wait (r : Rehearsal) (time : Nat) : Rehearsal := { r with now := r.now + time }

/-- A stage that succeeds with a value, if nothing goes wrong at it. -/
def reach {α : Type} (r : Rehearsal) (stage : Stage) (value : α) :
    Option (Except String α) × Rehearsal :=
  if r.limit ≤ r.now then (none, r)
  else if !r.alive then (some (.error silence), r)
  else
    match r.script.trouble with
    | some (trouble, place) =>
      if place ≠ stage then (some (.ok value), r)
      else
        match trouble with
        | .fail => (some (.error refusal), r)
        | .crash => (some (.error silence), { r with alive := false })
        | .hang => (none, r)
    | none => (some (.ok value), r)

/-- The same rehearsal with another record, if the browser lives to write it. -/
def write (r : Rehearsal) (f : Record → Record) : Rehearsal :=
  if r.alive then { r with record := f r.record } else r

/-- One stage after another; the first that does not succeed decides. -/
def both (first : Option (Except String Unit) × Rehearsal)
    (second : Rehearsal → Option (Except String Unit) × Rehearsal) :
    Option (Except String Unit) × Rehearsal :=
  match first with
  | (some (.ok ()), r) => second r
  | other => other

/-- What comes of starting the browser. -/
def launch (r : Rehearsal) : Option (Except String Unit) × Rehearsal :=
  match r.script.startup with
  | .refused words => (some (.error words), r)
  | .ready time =>
    match (r.wait time).reach .launch () with
    | (some (.error _), r) => (some (.error early), r)
    | other => both other fun r => r.reach .handshake ()
  | .ends time =>
    let r := r.wait time
    if r.limit ≤ r.now then (none, r) else (some (.error early), r)
  | .interrupts time =>
    let r := r.wait time
    (none, { r with interrupted := decide (r.now < r.limit) })

/-! ## 4. Answering steps -/

/-- The answer to a step that does not matter. -/
def always {α : Type} (value : α) (r : Rehearsal) : Option α × Rehearsal := (some value, r)

/-- The answer to a step, and what it leaves. -/
def perform (x : BrowserStep) (r : Rehearsal) : Option x.Answer × Rehearsal :=
  match x with
  | .makeProfile =>
    match r.script.noProfile with
    | some words => always (.error words) r
    | none => always (.ok profileName) r
  | .configure _ => always (.ok ()) r
  | .launch arguments => (r.write fun rec => { rec with arguments := arguments }).launch
  | .openPage => r.reach .target ()
  | .emulate window => (r.write fun rec => { rec with metrics := some window }).reach .emulate ()
  | .setCookies _ _ => always (.error "the page has no address yet") r
  | .note n => always () { r with notes := r.notes ++ [n] }
  | .goTo address =>
    (r.write fun rec => { rec with addresses := rec.addresses ++ [address] }).reach .navigate ()
  | .awaitLoaded => always (.ok ()) r
  | .settle time =>
    let r := r.wait time.nanoseconds
    (if r.limit ≤ r.now then none else some (), r)
  | .find selector =>
    let r := r.write fun rec => { rec with selectors := rec.selectors ++ [selector] }
    both (r.reach .find ()) fun r =>
      match r.script.elements.lookup selector with
      | some found => (some (.ok ()), { r with found := found })
      | none => (some (.error "there is no such element"), r)
  | .picture =>
    match r.reach .scroll () with
    | (some (.ok ()), r) =>
      (r.write fun rec => { rec with pictures := rec.pictures + 1 }).reach .screenshot r.found
    | (some (.error e), r) => (some (.error e), r)
    | (none, r) => (none, r)
  | .closePage => r.reach .close ()
  | .closeBrowser => (r.write fun rec => { rec with closed := true }).reach .quit ()
  | .awaitExit => always () r
  | .disconnect => always () r
  | .abandon => always () r
  | .removeProfile => always () r

end Rehearsal

/-- A capture by a rehearsed browser, unless it was interrupted, and what is left of the rehearsal. -/
def Script.capture (script : Script) (b : BrowserSettings) (shot : Shot) :
    Option (Except CaptureFailure ByteArray) × Rehearsal :=
  let (result, r) := Session.run Rehearsal.perform b shot
    (Rehearsal.start script b.timeout.nanoseconds)
  (if r.interrupted then none else some result, r)

end Vignette

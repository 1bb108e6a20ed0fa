import Vignette.Command.Run

/-!
# Surroundings of commands

What answers a command's actions: files, a browser, and a clock. A capture may never be answered,
since the program can be interrupted while the browser works; then the command is over
(`Program.runUntil`). What a command shows is written down as a list of events, the first one first,
from which the printed lines and the counters are read off.

`Invocation.run` is a whole run, with its exit code.
-/

namespace Vignette

/-- What comes of a capture: the notes that were left, and the answer unless it was interrupted. -/
structure Sitting where
  notes : List Note
  answer : Option (Except CaptureFailure ByteArray)

/-- Files, a browser and a clock that live in a state. -/
structure Equipment (σ : Type) where
  file : (step : FileStep) → σ → step.Answer × σ
  capture : BrowserSettings → Shot → σ → Sitting × σ
  clock : σ → Nat × σ

/-- Something that can be seen of a run. -/
inductive CommandEvent
  | note (note : Note)
  | count (kind : Kind) (counter : Counter)
  | capture (shot : Shot) (answer : Option (Except CaptureFailure ByteArray))
  | say (line : String)
  | complain (line : String)
  /-- The counters are printed, as they are now. -/
  | report (tally : Tally)

namespace CommandEvent

/-- The counter that was bumped. -/
def count? : CommandEvent → Option (Kind × Counter)
  | count kind c => some (kind, c)
  | _ => none

/-- The capture that was asked for, and its answer. -/
def capture? : CommandEvent → Option (Shot × Option (Except CaptureFailure ByteArray))
  | capture shot answer => some (shot, answer)
  | _ => none

/-- The line that is printed; notes for those who look closely only if that is wanted. -/
def line? (verbose : Bool) : CommandEvent → Option String
  | note n => if n.level = .debug && !verbose then none else some n.line
  | say line => some line
  | _ => none

/-- The line for those who look for failures. -/
def complaint? : CommandEvent → Option String
  | complain line => some line
  | _ => none

/-- The counters that are printed. -/
def report? : CommandEvent → Option Tally
  | report t => some t
  | _ => none

end CommandEvent

/-- A state, and what could be seen so far. -/
structure CommandWorld (σ : Type) where
  state : σ
  events : List CommandEvent

namespace CommandWorld

variable {σ : Type}

/-- A world in which nothing happened yet. -/
def start (s : σ) : CommandWorld σ := ⟨s, []⟩

/-- The world after more events. -/
def after (w : CommandWorld σ) (s : σ) (es : List CommandEvent) : CommandWorld σ := ⟨s, w.events ++ es⟩

/-- The counters. -/
def tally (w : CommandWorld σ) : Tally := w.events.filterMap CommandEvent.count?

/-- The printed lines. -/
def lines (w : CommandWorld σ) (verbose : Bool) : List String :=
  w.events.filterMap (CommandEvent.line? verbose)

/-- The lines for those who look for failures. -/
def complaints (w : CommandWorld σ) : List String := w.events.filterMap CommandEvent.complaint?

/-- What was asked of the browser. -/
def captures (w : CommandWorld σ) : List (Shot × Option (Except CaptureFailure ByteArray)) :=
  w.events.filterMap CommandEvent.capture?

/-- The answer to an action, unless it is never answered, and what it leaves. -/
def perform (eq : Equipment σ) (x : CommandAction) (w : CommandWorld σ) :
    Option x.Answer × CommandWorld σ :=
  match x with
  | .file step =>
    let (r, s) := eq.file step w.state
    (some r, w.after s [])
  | .capture b shot =>
    let (r, s) := eq.capture b shot w.state
    (r.answer, w.after s (r.notes.map .note ++ [.capture shot r.answer]))
  | .note n => (some (), w.after w.state [.note n])
  | .count kind c => (some (), w.after w.state [.count kind c])
  | .say line => (some (), w.after w.state [.say line])
  | .complain line => (some (), w.after w.state [.complain line])
  | .report => (some (), w.after w.state [.report w.tally])
  | .clock =>
    let (r, s) := eq.clock w.state
    (some r, w.after s [])

end CommandWorld

/-- A program run in a world, until it is over or interrupted. -/
def CommandProgram.runIn {σ α : Type} (p : CommandProgram α) (eq : Equipment σ) (w : CommandWorld σ) :
    Option α × CommandWorld σ := p.runUntil (CommandWorld.perform eq) w

/-- A whole run: the exit code, and what is left. -/
def Invocation.run {σ : Type} (i : Invocation) (decode : Decoder) (eq : Equipment σ) (s : σ) :
    Nat × CommandWorld σ :=
  let (conclusion, w) := (i.carryOut decode).runIn eq (CommandWorld.start s)
  let (code, w) := (i.close conclusion).runIn eq w
  (code.getD 0, w)

end Vignette

import Vignette.Snapshot
import Vignette.Store

/-!
# Surroundings of snapshots

What answers a snapshot's actions: a store that is read and written, and a browser that captures.
Both may fail at any time. `World.perform` answers the actions from a state and writes down every
one of them as an `Event`, together with its answer; captures, writes, notes and counters are all
read off these events.
-/

namespace Vignette

/-- A store and a browser that live in a state. -/
structure Surroundings (σ : Type) where
  read : Key → σ → Except StoreFailure (Option ByteArray) × σ
  write : Key → ByteArray → σ → Except StoreFailure Unit × σ
  capture : Shot → σ → Except CaptureFailure ByteArray × σ

/-- An action that was answered. -/
inductive Event
  | read (key : Key) (answer : Except StoreFailure (Option ByteArray))
  | write (key : Key) (payload : ByteArray) (answer : Except StoreFailure Unit)
  | capture (shot : Shot) (answer : Except CaptureFailure ByteArray)
  | note (note : Note)
  | count (kind : Kind) (counter : Counter)

namespace Event

/-- The note of an event. -/
def note? : Event → Option Note
  | note n => some n
  | _ => none

/-- The counter that was bumped. -/
def count? : Event → Option (Kind × Counter)
  | count kind c => some (kind, c)
  | _ => none

/-- The capture that was asked for, and its answer. -/
def capture? : Event → Option (Shot × Except CaptureFailure ByteArray)
  | capture shot answer => some (shot, answer)
  | _ => none

/-- The write that was made, and its answer. -/
def write? : Event → Option (Key × ByteArray × Except StoreFailure Unit)
  | write key payload answer => some (key, payload, answer)
  | _ => none

end Event

/-- A state, and what happened so far, the first event first. -/
structure World (σ : Type) where
  state : σ
  events : List Event

namespace World

variable {σ : Type}

/-- A world in which nothing happened yet. -/
def start (s : σ) : World σ := ⟨s, []⟩

/-- The world after one more event. -/
def after (w : World σ) (s : σ) (e : Event) : World σ := ⟨s, w.events ++ [e]⟩

/-- The answer to an action, and what it leaves. -/
def perform (env : Surroundings σ) (x : SnapshotAction) (w : World σ) : x.Answer × World σ :=
  match x with
  | .read key =>
    let (r, s) := env.read key w.state
    (r, w.after s (.read key r))
  | .write key payload =>
    let (r, s) := env.write key payload w.state
    (r, w.after s (.write key payload r))
  | .capture shot =>
    let (r, s) := env.capture shot w.state
    (r, w.after s (.capture shot r))
  | .note n => ((), w.after w.state (.note n))
  | .count kind c => ((), w.after w.state (.count kind c))

/-- The notes, in order. -/
def notes (w : World σ) : List Note := w.events.filterMap Event.note?

/-- The counters. -/
def tally (w : World σ) : Tally := w.events.filterMap Event.count?

/-- What was asked of the browser, in order. -/
def captures (w : World σ) : List (Shot × Except CaptureFailure ByteArray) :=
  w.events.filterMap Event.capture?

/-- What was written, in order. -/
def writes (w : World σ) : List (Key × ByteArray × Except StoreFailure Unit) :=
  w.events.filterMap Event.write?

end World

/-- A program run in a world. -/
def SnapshotProgram.runIn {σ α : Type} (p : SnapshotProgram α) (env : Surroundings σ)
    (w : World σ) : α × World σ := p.run (World.perform env) w

end Vignette

import Vignette.Identity
import Vignette.Program
import Vignette.Request
import Vignette.Thumbnail

/-!
# Snapshots

A snapshot brings one request together with the way its thumbnails are made. Its programs answer in
four ways for thumbnails, and differ in when they look into the store and when they capture the
page:

* `lookup`, `cached` -- what is in the store, and nothing else;
* `compute` -- captures the page and stores the thumbnail; unless it is forced to, only if there is
  nothing in the store, and then it answers nothing;
* `get` -- what is in the store, or else what is computed;
* `render` -- captures the page and makes the thumbnail, without the store.

Empty bytes in the store count as nothing. A page that cannot be captured and a capture that cannot
be made a thumbnail are noted and counted, and the answer is that there is no thumbnail now; only
the failures of the store itself are answered as failures.
-/

namespace Vignette

/-! ## 1. Actions -/

/-- What is asked of the browser. -/
structure Shot where
  address : String
  selector : String
  identity : Identity
  window : Size
  deriving DecidableEq, Repr

/-- One thing that a snapshot has done by its surroundings. -/
inductive SnapshotAction
  /-- Asks the store for a key. -/
  | read (key : Key)
  /-- Stores bytes under a key. -/
  | write (key : Key) (payload : ByteArray)
  /-- Has a page captured. -/
  | capture (shot : Shot)
  /-- Leaves a note. -/
  | note (note : Note)
  /-- Bumps a counter of a kind. -/
  | count (kind : Kind) (counter : Counter)

/-- What the answer to an action is. -/
abbrev SnapshotAction.Answer : SnapshotAction → Type
  | read _ => Except StoreFailure (Option ByteArray)
  | write _ _ => Except StoreFailure Unit
  | capture _ => Except CaptureFailure ByteArray
  | _ => Unit

/-- A program of such actions. -/
abbrev SnapshotProgram (α : Type) : Type := Program SnapshotAction.Answer α

namespace SnapshotProgram

/-- The action that asks the store. -/
def read (key : Key) : SnapshotProgram (Except StoreFailure (Option ByteArray)) :=
  Program.perform (SnapshotAction.read key)

/-- The action that stores bytes. -/
def write (key : Key) (payload : ByteArray) : SnapshotProgram (Except StoreFailure Unit) :=
  Program.perform (SnapshotAction.write key payload)

/-- The action that has a page captured. -/
def capture (shot : Shot) : SnapshotProgram (Except CaptureFailure ByteArray) :=
  Program.perform (SnapshotAction.capture shot)

/-- The action that leaves a note. -/
def note (n : Note) : SnapshotProgram Unit := Program.perform (SnapshotAction.note n)

/-- Notes, one after the other. -/
def notes : List Note → SnapshotProgram Unit
  | [] => .done ()
  | n :: rest => do
    note n
    notes rest

/-- The action that bumps a counter. -/
def count (kind : Kind) (c : Counter) : SnapshotProgram Unit :=
  Program.perform (SnapshotAction.count kind c)

end SnapshotProgram

/-! ## 2. Snapshots -/

/-- A request, and the way its thumbnails are made: what reads captures, the format that is written, and
    whether captures are cropped. -/
structure Snapshot where
  request : Request
  decode : Decoder
  format : Format
  crop : Bool

namespace Snapshot

open SnapshotProgram

/-- A snapshot whose thumbnails are made as the settings say. -/
def ofSettings (decode : Decoder) (c : Settings) (r : Request) : Snapshot := ⟨r, decode, c.format, c.crop⟩

/-- The window of a call: the one that is given, or the request's. -/
def windowOf (s : Snapshot) (window : Option Size) : Size := window.getD s.request.window

/-- The thumbnail size of a call: the one that is given, or the request's. -/
def thumbOf (s : Snapshot) (thumb : Option Size) : Size := thumb.getD s.request.thumb

/-- The key of a call with these sizes. -/
def key (s : Snapshot) (window thumb : Option Size) : Key :=
  Key.derive s.request.kind s.request.digest (s.windowOf window) (s.thumbOf thumb)

/-- What is asked of the browser for a window. -/
def shot (s : Snapshot) (identity : Identity) (window : Size) : Shot :=
  ⟨s.request.address, s.request.selector, identity, window⟩

/-- The thumbnail under a key. -/
def lookup (key : Key) : SnapshotProgram (Except StoreFailure (Option ByteArray)) := do
  note (.lookup key)
  match ← read key with
  | .error e => return .error e
  | .ok none =>
    note (.missing key)
    return .ok none
  | .ok (some payload) =>
    if payload.isEmpty then
      note (.missing key)
      return .ok none
    else return .ok (some payload)

/-- The thumbnail that is in the store for these sizes. -/
def cached (s : Snapshot) (window thumb : Option Size) :
    SnapshotProgram (Except StoreFailure (Option ByteArray)) := lookup (s.key window thumb)

/-- The thumbnail of a capture. A capture of the right size is left as it is. -/
def finish (s : Snapshot) (window thumb : Size) (capture : ByteArray) :
    SnapshotProgram (Except RenderFailure ByteArray) := do
  if capture.isEmpty then return .error (.capture .empty)
  else if window = thumb then
    count s.request.kind .render
    return .ok capture
  else
    let made := Thumbnail.make s.decode capture window thumb s.format s.crop
    notes made.1
    match made.2 with
    | .error e => return .error (.transform e)
    | .ok payload =>
      count s.request.kind .render
      return .ok payload

/-- The page captured in a window, at the size of a thumbnail. -/
def render (s : Snapshot) (identity : Identity) (window thumb : Size) :
    SnapshotProgram (Except RenderFailure ByteArray) := do
  match ← capture (s.shot identity window) with
  | .error e => return .error (.capture e)
  | .ok data => s.finish window thumb data

/-- The page captured, and its thumbnail stored under a key. -/
def produce (s : Snapshot) (identity : Identity) (key : Key) (window thumb : Size) :
    SnapshotProgram (Except StoreFailure (Option ByteArray)) := do
  note (.processing key)
  match ← s.render identity window thumb with
  | .error (.capture e) =>
    note (.captureFailed key e)
    count s.request.kind .captureFailure
    return .ok none
  | .error (.transform e) =>
    note (.pictureFailed key e)
    count s.request.kind .pictureFailure
    return .ok none
  | .ok payload =>
    note (.storing key)
    match ← write key payload with
    | .error e => return .error e
    | .ok () =>
      count s.request.kind .stored
      note (.stored key)
      return .ok (some payload)

/-- The thumbnail computed and stored; unless `force` is set, only if there is none. -/
def compute (s : Snapshot) (identity : Identity) (window thumb : Option Size) (force : Bool) :
    SnapshotProgram (Except StoreFailure (Option ByteArray)) := do
  let key := s.key window thumb
  if force then s.produce identity key (s.windowOf window) (s.thumbOf thumb)
  else
    match ← lookup key with
    | .error e => return .error e
    | .ok (some _) =>
      note (.skipped key)
      count s.request.kind .skip
      return .ok none
    | .ok none => s.produce identity key (s.windowOf window) (s.thumbOf thumb)

/-- The thumbnail that is in the store, or else the one that is computed. -/
def get (s : Snapshot) (identity : Identity) (thumb : Option Size) :
    SnapshotProgram (Except StoreFailure (Option ByteArray)) := do
  let key := s.key none thumb
  match ← lookup key with
  | .error e => return .error e
  | .ok (some payload) =>
    note (.loaded key)
    count s.request.kind .hit
    return .ok (some payload)
  | .ok none =>
    count s.request.kind .miss
    s.compute identity none thumb true

end Snapshot

end Vignette

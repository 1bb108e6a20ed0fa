import Vignette.Failure
import Vignette.Key
import Vignette.Kind

/-!
# The journal

Everything that is done leaves notes for whoever runs the program, and is counted. A `Note` is one
line of the log, given by what happened; its `message` is the text. A `Counter` is kept for each
kind of page on its own; a `Tally` holds how often each was bumped, in the order in which that
happened.
-/

namespace Vignette

/-! ## 1. Notes -/

/-- How urgent a note is. -/
inductive Level
  | debug
  | info
  | warn
  | error
  deriving DecidableEq, Repr

/-- The word that begins a line of the log. -/
def Level.label : Level → String
  | debug => "DEBUG"
  | info => "INFO"
  | warn => "WARN"
  | error => "ERROR"

/-- What happened. -/
inductive Note
  /-- The store is asked for a key. -/
  | lookup (key : Key)
  /-- The store has nothing under a key. -/
  | missing (key : Key)
  /-- The store had what was asked for. -/
  | loaded (key : Key)
  /-- Nothing is computed, since there is something in the store. -/
  | skipped (key : Key)
  /-- A page is about to be captured. -/
  | processing (key : Key)
  /-- A page was not captured. -/
  | captureFailed (key : Key) (cause : CaptureFailure)
  /-- A capture did not become a thumbnail. -/
  | pictureFailed (key : Key) (cause : PictureFailure)
  /-- A thumbnail is about to be stored. -/
  | storing (key : Key)
  /-- A thumbnail is stored. -/
  | stored (key : Key)
  /-- The size of a capture. -/
  | captured (size : Size)
  /-- A capture is cropped to a size. -/
  | cropping (size : Size)
  /-- A capture is brought to the size of the thumbnail. -/
  | resizing (size : Size)
  /-- A file of the store is written. -/
  | wrote (bytes : Nat) (path : String)
  /-- A page is about to be loaded, for somebody or for nobody. -/
  | loading (address : String) (visitor : Option String)
  /-- The browser did not quit when it was asked to. -/
  | notClosed (detail : String)
  /-- The directory of the store. -/
  | storeDirectory (path : String)
  /-- A thumbnail is wanted. -/
  | getting (kind : Kind) (key : Key)
  /-- A thumbnail is in a file. -/
  | saved (path : String)
  /-- A thumbnail could not be had. -/
  | notComputed (key : Key)
  /-- The program starts. -/
  | starting (version : String)
  /-- The settings are read and checked. -/
  | settingsLoaded
  /-- The directory of the store, as it is set. -/
  | directorySetting (path : String)
  /-- The time for a capture, as it is set. -/
  | timeoutSetting (time : Span)
  /-- Somebody wants the program to stop. -/
  | interrupted
  /-- What the program was asked for did not succeed. -/
  | failed (cause : Failure)
  deriving DecidableEq

namespace Note

/-- How urgent a note is. -/
def level : Note → Level
  | lookup _ | missing _ | stored _ | captured _ | cropping _ | resizing _ | wrote .. | loading .. |
    storeDirectory _ => .debug
  | captureFailed .. | pictureFailed .. | notClosed _ | notComputed _ => .warn
  | failed _ => .error
  | _ => .info

/-- The text of a note. -/
def message : Note → String
  | lookup k => s!"Attempting to get from cache: {k.text}"
  | missing k => s!"Failed at getting from cache: {k.text}"
  | loaded k => s!"Loaded thumbnail from cache: {k.text}"
  | skipped k => s!"Thumb already cached, skipping: {k.text}"
  | processing k => s!"Processing url for thumbnail: {k.text}"
  | captureFailed k e =>
    "Failed at generating thumbnail " ++ k.text ++ " (retryable: " ++
      (if e.isRetryable then "true" else "false") ++ "): " ++ e.message
  | pictureFailed k e => "Failed at resizing thumbnail " ++ k.text ++ ": " ++ e.message
  | storing k => s!"Caching thumbnail: {k.text}"
  | stored k => s!"Done caching thumbnail: {k.text}"
  | captured s => s!"Captured image size: {s}"
  | cropping s => s!"Cropping to: {s}"
  | resizing s => s!"Resizing to {s}"
  | wrote n path => s!"Wrote {Text.decimalText n} bytes to {path}"
  | loading address none => s!"Loading {address} anonymously"
  | loading address (some visitor) => s!"Loading {address} as {visitor}"
  | notClosed d => s!"Failed to close browser: {d}"
  | storeDirectory path => s!"Thumbnail cache directory: {path}"
  | getting kind k => s!"Getting {kind} thumbnail: {k.text}"
  | saved path => s!"Thumbnail saved to: {path}"
  | notComputed k => s!"Thumbnail could not be computed: {k.text}"
  | starting version => s!"Starting thumbnail-cache v{version}"
  | settingsLoaded => "Configuration loaded successfully"
  | directorySetting path => s!"Cache directory: {path}"
  | timeoutSetting time => s!"Screenshot timeout: {time.exactText}"
  | interrupted => "Received shutdown signal"
  | failed e => s!"Application error ({e.severity.label}): {e.message}"

/-- The line of the log. -/
def line (n : Note) : String := n.level.label ++ " " ++ n.message

end Note

/-! ## 2. Counters -/

/-- What is counted. -/
inductive Counter
  /-- Thumbnails that were there. -/
  | hit
  /-- Thumbnails that were not there. -/
  | miss
  /-- Computations that were not needed. -/
  | skip
  /-- Pages that were not captured. -/
  | captureFailure
  /-- Captures that did not become thumbnails. -/
  | pictureFailure
  /-- Thumbnails that were stored. -/
  | stored
  /-- Renderings; of these the time is taken too. -/
  | render
  deriving DecidableEq, Repr

namespace Counter

/-- The counters, in the order in which they are shown. -/
def all : List Counter := [hit, miss, skip, captureFailure, pictureFailure, stored, render]

/-- The name under which a counter is shown. -/
def name : Counter → String
  | hit => "thumbnail_cache_hits_total"
  | miss => "thumbnail_cache_misses_total"
  | skip => "thumbnail_compute_skipped_total"
  | captureFailure => "thumbnail_capture_failures_total"
  | pictureFailure => "thumbnail_transform_failures_total"
  | stored => "thumbnails_cached_total"
  | render => "thumbnail_render_duration_seconds_count"

end Counter

/-- How often each counter was bumped: every time, the first one first. -/
abbrev Tally := List (Kind × Counter)

namespace Tally

/-- How often a counter was bumped for a kind. -/
def get (t : Tally) (kind : Kind) (c : Counter) : Nat := t.count (kind, c)

@[simp] theorem get_nil (kind : Kind) (c : Counter) : get [] kind c = 0 := rfl

@[simp] theorem get_append (t u : Tally) (kind : Kind) (c : Counter) :
    get (t ++ u) kind c = get t kind c + get u kind c := List.count_append

/-- The counters that were bumped, each with its name and kind, and its number. -/
def report (t : Tally) : List (String × Nat) :=
  Kind.all.flatMap fun kind => Counter.all.filterMap fun c =>
    let n := t.get kind c
    if n = 0 then none else some (c.name ++ "\x7bkind=\"" ++ kind.name ++ "\"\x7d", n)

end Tally

end Vignette

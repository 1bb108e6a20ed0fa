import Vignette.Amount
import Vignette.Browser.Session
import Vignette.Command.Line
import Vignette.Settings.Codec
import Vignette.Store.Files

/-!
# Carrying out commands

A command is a program of six kinds of things that are done outside: steps on files, captures, notes,
counters, printed lines, and looks at the clock. Snapshots are a part of it: their store is the folder
that the settings name, so what they ask of the store becomes steps on files (`Context.snapshot`).

* `get` -- what is in the store or can be computed, put into a file;
* `warm` -- what was computed and stored; it also succeeds if there was something already, unless it
  is forced;
* `cached` -- what is in the store, put into a file;
* `key` and `validate` -- print what they find, and touch no thumbnail.

A thumbnail that cannot be had is the failure `unavailable`, with its key.
-/

namespace Vignette

/-! ## 1. Actions -/

/-- One thing that a command has done outside. -/
inductive CommandAction
  /-- A step on files. -/
  | file (step : FileStep)
  /-- Has a page captured by a browser that is run like this. -/
  | capture (browser : BrowserSettings) (shot : Shot)
  /-- Leaves a note. -/
  | note (note : Note)
  /-- Bumps a counter of a kind. -/
  | count (kind : Kind) (counter : Counter)
  /-- Prints a line. -/
  | say (line : String)
  /-- Prints a line for those who look for failures. -/
  | complain (line : String)
  /-- Prints the counters. -/
  | report
  /-- Looks at the clock, which counts nanoseconds. -/
  | clock

/-- What the answer to an action is. -/
abbrev CommandAction.Answer : CommandAction → Type
  | file step => step.Answer
  | capture _ _ => Except CaptureFailure ByteArray
  | clock => Nat
  | _ => Unit

/-- A program of such actions. -/
abbrev CommandProgram (α : Type) : Type := Program CommandAction.Answer α

namespace CommandProgram

/-- A program that works on files. -/
def files {α : Type} (p : FileProgram α) : CommandProgram α :=
  p.expand fun step => Program.perform (CommandAction.file step)

/-- The action that has a page captured. -/
def capture (browser : BrowserSettings) (shot : Shot) :
    CommandProgram (Except CaptureFailure ByteArray) :=
  Program.perform (CommandAction.capture browser shot)

/-- The action that leaves a note. -/
def note (n : Note) : CommandProgram Unit := Program.perform (CommandAction.note n)

/-- The action that bumps a counter. -/
def count (kind : Kind) (c : Counter) : CommandProgram Unit :=
  Program.perform (CommandAction.count kind c)

/-- The action that prints a line. -/
def say (line : String) : CommandProgram Unit := Program.perform (CommandAction.say line)

/-- The action that prints a line for those who look for failures. -/
def complain (line : String) : CommandProgram Unit := Program.perform (CommandAction.complain line)

/-- The action that prints the counters. -/
def report : CommandProgram Unit := Program.perform CommandAction.report

/-- The action that looks at the clock. -/
def clock : CommandProgram Nat := Program.perform CommandAction.clock

/-- Lines that are printed one after the other. -/
def sayAll (lines : List String) : CommandProgram Unit := Program.performAll (lines.map .say)

end CommandProgram

open CommandProgram

/-- The key of a page with these sizes; those that are not given are set for its kind. -/
def Settings.key (c : Settings) (kind : Kind) (digest : String) (window thumb : Option Size) : Key :=
  Key.derive kind digest (window.getD (c.sizes kind).window) (thumb.getD (c.sizes kind).thumb)

/-! ## 2. What commands share -/

/-- The settings, for whom pages are rendered, and what reads captures. -/
structure Context where
  settings : Settings
  identity : Identity
  decode : Decoder

namespace Context

/-- The store. -/
def store (c : Context) : FolderStore := ⟨⟨c.settings.directory⟩⟩

/-- What a snapshot has done, as a program of a command. -/
def snapshotAction (c : Context) : (x : SnapshotAction) → CommandProgram x.Answer
  | .read key => files (c.store.get key)
  | .write key payload => do
    match ← files (c.store.set key payload) with
    | .error e => return .error e
    | .ok () =>
      note (.wrote payload.size (c.store.pathFor key).text)
      return .ok ()
  | .capture shot => capture c.settings.browser shot
  | .note n => note n
  | .count kind counter => count kind counter

/-- A program of a snapshot, as a program of a command. -/
def snapshot {α : Type} (c : Context) (p : SnapshotProgram α) : CommandProgram α :=
  p.expand c.snapshotAction

/-- The snapshot of a target, if its address can be read. -/
def snapshotOf (c : Context) (t : Target) : Except Failure Snapshot :=
  match c.settings.request t.kind t.address t.digest with
  | .error e => .error e
  | .ok r => .ok (Snapshot.ofSettings c.decode c.settings r)

end Context

/-- A thumbnail put into a file, and the file's path; a file that is not named is named for the key. -/
def save (key : Key) (thumbnail : ByteArray) (output : Option Path) :
    CommandProgram (Except Failure Path) := do
  let path := output.getD ⟨Thumbnail.fileName key thumbnail⟩
  match ← files (FileProgram.makeFolders path.parent) with
  | .error e => return .error (.io e.message)
  | .ok () =>
    match ← files (FileProgram.write path [thumbnail]) with
    | .error e => return .error (.io e.message)
    | .ok () =>
      note (.saved path.text)
      return .ok path

/-- The settings in a file. -/
def readSettings (path : Path) : CommandProgram (Except Failure Settings) := do
  match ← files (FileProgram.read path) with
  | .error e => return .error (.io e.message)
  | .ok data => return Settings.ofBytes data

/-- The text of the time between two looks at the clock. -/
def elapsedText (start stop : Nat) : String := (Span.ofNanoseconds (stop - start)).roughText

/-! ## 3. Commands -/

namespace Context

/-- The thumbnail from the store, or else computed, in a file. -/
def get (c : Context) (t : Target) (thumb : Option Size) (output : Option Path) :
    CommandProgram (Except Failure Unit) := do
  match c.snapshotOf t with
  | .error e => return .error e
  | .ok s =>
    let key := s.key none thumb
    note (.getting t.kind key)
    let start ← clock
    match ← c.snapshot (s.get c.identity thumb) with
    | .error e => return .error (.store e)
    | .ok none => return .error (.unavailable key.text)
    | .ok (some thumbnail) =>
      match ← save key thumbnail output with
      | .error e => return .error e
      | .ok path =>
        sayAll ["Thumbnail ready:", "  Key: " ++ key.text, "  Output: " ++ path.text,
          "  Size: " ++ Amount.text thumbnail.size]
        let stop ← clock
        say ("  Duration: " ++ elapsedText start stop)
        return .ok ()

/-- What follows when nothing was computed: that is right if it did not have to be. -/
def afterNone (c : Context) (s : Snapshot) (window thumb : Option Size) (force : Bool) :
    CommandProgram (Except Failure Unit) := do
  let key := s.key window thumb
  let unavailable : CommandProgram (Except Failure Unit) := do
    note (.notComputed key)
    return .error (.unavailable key.text)
  if force then unavailable
  else
    match ← c.snapshot (s.cached window thumb) with
    | .error e => return .error (.store e)
    | .ok none => unavailable
    | .ok (some _) =>
      say ("Already cached: " ++ key.text)
      return .ok ()

/-- The thumbnail computed and stored. -/
def warm (c : Context) (t : Target) (window thumb : Option Size) (force : Bool) :
    CommandProgram (Except Failure Unit) := do
  match c.snapshotOf t with
  | .error e => return .error e
  | .ok s =>
    let start ← clock
    match ← c.snapshot (s.compute c.identity window thumb force) with
    | .error e => return .error (.store e)
    | .ok none => c.afterNone s window thumb force
    | .ok (some thumbnail) =>
      let stop ← clock
      say ("Cached " ++ (s.key window thumb).text ++ " (" ++ Amount.text thumbnail.size ++ ") in " ++
        elapsedText start stop)
      return .ok ()

/-- The thumbnail from the store, in a file. -/
def cached (c : Context) (t : Target) (window thumb : Option Size) (output : Option Path) :
    CommandProgram (Except Failure Unit) := do
  match c.snapshotOf t with
  | .error e => return .error e
  | .ok s =>
    let key := s.key window thumb
    match ← c.snapshot (s.cached window thumb) with
    | .error e => return .error (.store e)
    | .ok none => return .error (.unavailable key.text)
    | .ok (some thumbnail) =>
      match ← save key thumbnail output with
      | .error e => return .error e
      | .ok path =>
        say ("Thumbnail saved to: " ++ path.text)
        return .ok ()

/-- The lines on settings that are valid. -/
def validLines (c : Settings) : List String :=
  let sizes (p : Preset) : String := "window " ++ p.window.text ++ ", thumbnail " ++ p.thumb.text
  ["Configuration is valid:", "  Chart: " ++ sizes c.chart, "  Dashboard: " ++ sizes c.dashboard,
    "  Output format: " ++ c.format.label, "  Timeout: " ++ c.browser.timeout.exactText,
    "  Cache directory: " ++ c.directory]

/-- A settings file read and checked. -/
def validate (path : Path) : CommandProgram (Except Failure Unit) := do
  say ("Validating configuration: " ++ path.text)
  match ← readSettings path with
  | .error e => return .error e
  | .ok settings =>
    match settings.check with
    | .error e => return .error e
    | .ok () =>
      sayAll (validLines settings)
      return .ok ()

/-- A command. -/
def carryOut (c : Context) : Command → CommandProgram (Except Failure Unit)
  | .get target thumb output => c.get target thumb output
  | .warm target window thumb force => c.warm target window thumb force
  | .cached target window thumb output => c.cached target window thumb output
  | .key kind digest window thumb => do
    say (c.settings.key kind digest window thumb).text
    return .ok ()
  | .validate config => validate config

end Context

/-! ## 4. Whole runs -/

/-- The version that is noted. -/
def version : String := "0.1.0"

/-- The settings that a path leads to; without a path, those when nothing is set. -/
def settingsAt : Option Path → CommandProgram (Except Failure Settings)
  | some path => readSettings path
  | none => .done (.ok Settings.default)

/-- The settings read, put right for this run, and checked. -/
def Options.prepare (o : Options) (decode : Decoder) : CommandProgram (Except Failure Context) := do
  note (.starting version)
  match ← settingsAt o.config with
  | .error e => return .error e
  | .ok loaded =>
    let settings := o.override loaded
    match settings.check with
    | .error e => return .error e
    | .ok () =>
      note .settingsLoaded
      note (.directorySetting settings.directory)
      note (.timeoutSetting settings.browser.timeout)
      note (.storeDirectory settings.directory)
      return .ok ⟨settings, o.identity, decode⟩

/-- What a run comes to. -/
inductive Conclusion
  /-- There were no settings to begin with. -/
  | refused (cause : Failure)
  /-- The command was carried out, or failed. -/
  | finished (result : Except Failure Unit)

namespace Invocation

/-- The settings prepared, and the command carried out. -/
def carryOut (i : Invocation) (decode : Decoder) : CommandProgram Conclusion := do
  match ← i.options.prepare decode with
  | .error e => return .refused e
  | .ok c => return .finished (← c.carryOut i.command)

/-- The counters, if they are wanted. -/
def counters (i : Invocation) : CommandProgram Unit :=
  if i.options.printCounters then report else .done ()

/-- What is said in the end, and the exit code. A run without a conclusion was interrupted; that is no
    failure. -/
def close (i : Invocation) : Option Conclusion → CommandProgram Nat
  | none => do
    note .interrupted
    i.counters
    return 0
  | some (.refused e) => do
    complain ("Error: " ++ e.report)
    return 1
  | some (.finished (.ok ())) => do
    i.counters
    return 0
  | some (.finished (.error e)) => do
    i.counters
    note (.failed e)
    return 1

end Invocation

end Vignette

import Vignette.Command.Switch
import Vignette.Failure
import Vignette.Identity
import Vignette.Path
import Vignette.Settings

/-!
# The command line

There are five commands: `get`, `warm` and `cached` work on the thumbnail of a target, `key` prints a
key, and `validate` looks at a settings file. What stands in front of the command holds for every
command (`Options`): where the settings are, which of them are different this time, for whom pages
are rendered, and what is printed.

`Invocation.parse` reads a whole line. The words of the command are read first, and only then the
last value in front of it is looked at.
-/

namespace Vignette

/-! ## 1. What a line says -/

/-- A page and the short text that says what it shows. -/
structure Target where
  kind : Kind
  address : String
  digest : String
  deriving DecidableEq, Repr

/-- What is to be done. -/
inductive Command
  /-- Puts a thumbnail into a file; it is computed if it is not there. -/
  | get (target : Target) (thumb : Option Size) (output : Option Path)
  /-- Has a thumbnail computed and stored; unless it is forced to, only if it is not there. -/
  | warm (target : Target) (window thumb : Option Size) (force : Bool)
  /-- Puts a thumbnail that is there into a file. -/
  | cached (target : Target) (window thumb : Option Size) (output : Option Path)
  /-- Prints a key. -/
  | key (kind : Kind) (digest : String) (window thumb : Option Size)
  /-- Looks at a settings file. -/
  | validate (config : Path)
  deriving DecidableEq, Repr

/-- What holds for every command. -/
structure Options where
  config : Option Path
  directory : Option String
  program : Option String
  timeout : Option UInt64
  format : Option Format
  username : Option String
  cookies : List Cookie
  verbose : Bool
  printCounters : Bool
  deriving DecidableEq, Repr

namespace Options

/-- Nothing is said. -/
def none : Options := ⟨.none, .none, .none, .none, .none, .none, [], false, false⟩

/-- The settings with those in place that are different this time. -/
def override (o : Options) (c : Settings) : Settings :=
  { c with
    directory := o.directory.getD c.directory
    format := o.format.getD c.format
    browser := { c.browser with
      program := o.program.or c.browser.program
      timeout := (o.timeout.map Span.ofSeconds).getD c.browser.timeout } }

/-- For whom pages are rendered. -/
def identity (o : Options) : Identity := ⟨o.username, o.cookies⟩

end Options

/-- A whole line. -/
structure Invocation where
  options : Options
  command : Command
  deriving DecidableEq, Repr

namespace Command

/-! ## 2. Switches -/

/-- A switch that takes any text. -/
def textSwitch {σ : Type} (long placeholder : String) (put : String → σ → σ) : Switch σ :=
  ⟨long, none, .value placeholder false fun s x => .ok (put s x)⟩

/-- A switch that takes a path, which is never empty. -/
def pathSwitch {σ : Type} (long : String) (letter : Option Char) (placeholder : String)
    (put : Path → σ → σ) : Switch σ :=
  ⟨long, letter, .value placeholder false fun s x =>
    if s.isEmpty then .error .empty else .ok (put ⟨s⟩ x)⟩

/-- A switch that takes a value of some form. -/
def formSwitch {σ α ε : Type} (long placeholder : String) (repeatable : Bool)
    (read : String → Except ε α) (message : ε → String) (put : α → σ → σ) : Switch σ :=
  ⟨long, none, .value placeholder repeatable fun s x =>
    match read s with
    | .ok a => .ok (put a x)
    | .error e => .error (.unreadable (message e))⟩

/-- A switch that is there or not. -/
def markSwitch {σ : Type} (long : String) (set : σ → σ) : Switch σ := ⟨long, none, .mark set⟩

/-- The switch that asks for help. -/
def helpSwitch {σ : Type} : Switch σ := ⟨"help", some 'h', .help⟩

/-- The switch that asks for the version. -/
def versionSwitch {σ : Type} : Switch σ := ⟨"version", some 'V', .version⟩

/-- The text of an argument that makes no sense. -/
def senseless (detail : String) : String := (Failure.configuration detail).message

/-- A number of 64 bits. -/
def readSeconds (s : String) : Except Text.NumberFault UInt64 :=
  (Text.readField UInt64.size s.toList).map UInt64.ofNat

/-! ## 3. In front of the command -/

/-- The switches in front of the command. -/
def optionSwitches : List (Switch Options) := [
  pathSwitch "config" none "CONFIG" fun p o => { o with config := some p },
  pathSwitch "cache-dir" none "CACHE_DIR" fun p o => { o with directory := some p.text },
  textSwitch "chrome-path" "CHROME_PATH" fun s o => { o with program := some s },
  formSwitch "timeout" "TIMEOUT" false readSeconds Text.NumberFault.message fun n o =>
    { o with timeout := some n },
  formSwitch "format" "FORMAT" false Format.parse (fun e => senseless e.message) fun f o =>
    { o with format := some f },
  textSwitch "username" "USERNAME" fun s o => { o with username := some s },
  formSwitch "cookie" "NAME=VALUE" true Cookie.parse (fun e => senseless e.message) fun c o =>
    { o with cookies := o.cookies ++ [c] },
  markSwitch "verbose" fun o => { o with verbose := true },
  markSwitch "print-metrics" fun o => { o with printCounters := true },
  helpSwitch,
  versionSwitch]

/-! ## 4. Behind the name of the command -/

/-- What is said behind the name of a command, as far as it is said. -/
structure Parts where
  kind : Option Kind
  address : Option String
  digest : Option String
  window : Option Size
  thumb : Option Size
  force : Bool
  output : Option Path
  config : Option Path

/-- Nothing is said. -/
def Parts.none : Parts := ⟨.none, .none, .none, .none, .none, false, .none, .none⟩

def kindSwitch : Switch Parts :=
  formSwitch "kind" "KIND" false Kind.parse (fun e => senseless e.message) fun k p =>
    { p with kind := some k }

def addressSwitch : Switch Parts := textSwitch "url" "URL" fun s p => { p with address := some s }

def digestSwitch : Switch Parts := textSwitch "digest" "DIGEST" fun s p => { p with digest := some s }

/-- A switch that takes a size. -/
def sizeSwitch (long placeholder : String) (put : Size → Parts → Parts) : Switch Parts :=
  formSwitch long placeholder false Size.parse (fun e => senseless e.message) put

def windowSwitch : Switch Parts := sizeSwitch "window" "WINDOW" fun s p => { p with window := some s }

def thumbSwitch : Switch Parts := sizeSwitch "thumb" "THUMB" fun s p => { p with thumb := some s }

def forceSwitch : Switch Parts := markSwitch "force" fun p => { p with force := true }

def outputSwitch : Switch Parts :=
  pathSwitch "output" (some 'o') "OUTPUT" fun f p => { p with output := some f }

def configSwitch : Switch Parts :=
  pathSwitch "config" (some 'c') "CONFIG" fun f p => { p with config := some f }

/-- The names of the commands. -/
inductive Verb
  | get
  | warm
  | cached
  | key
  | validate
  deriving DecidableEq, Repr

namespace Verb

/-- All commands. -/
def all : List Verb := [get, warm, cached, key, validate]

/-- The word for a command. -/
def name : Verb → String
  | get => "get"
  | warm => "warm"
  | cached => "cached"
  | key => "key"
  | validate => "validate"

/-- The command that a word names. -/
def ofName? (word : String) : Option Verb := all.find? fun v => v.name == word

/-- The switches that have to stand behind a command. -/
def required : Verb → List (Switch Parts)
  | get | warm | cached => [kindSwitch, addressSwitch, digestSwitch]
  | key => [kindSwitch, digestSwitch]
  | validate => [configSwitch]

/-- The switches that may stand behind a command. -/
def optional : Verb → List (Switch Parts)
  | get => [thumbSwitch, outputSwitch]
  | warm => [windowSwitch, thumbSwitch, forceSwitch]
  | cached => [windowSwitch, thumbSwitch, outputSwitch]
  | key => [windowSwitch, thumbSwitch]
  | validate => []

/-- The level behind a command. -/
def level (v : Verb) : Level Parts := ⟨v.required ++ v.optional ++ [helpSwitch], []⟩

/-- The command of what was said, if all of it was said that has to be. -/
def build? (v : Verb) (p : Parts) : Option Command :=
  match v with
  | get => do
    let target : Target := ⟨← p.kind, ← p.address, ← p.digest⟩
    return .get target p.thumb p.output
  | warm => do
    let target : Target := ⟨← p.kind, ← p.address, ← p.digest⟩
    return .warm target p.window p.thumb p.force
  | cached => do
    let target : Target := ⟨← p.kind, ← p.address, ← p.digest⟩
    return .cached target p.window p.thumb p.output
  | key => do return .key (← p.kind) (← p.digest) p.window p.thumb
  | validate => do return .validate (← p.config)

/-- The required switches that were not taken. -/
def missing (v : Verb) (d : Draft Parts) : List String :=
  (v.required.filter fun s => !d.used.contains s.long).map Switch.text

/-- The command of the words behind its name. -/
def parse (v : Verb) (words : List String) : Except Refusal Command := do
  let (d, _) ← v.level.scan Parts.none words
  let d ← d.settle
  match v.build? d.value with
  | some c => return c
  | none => .error (.missing (v.missing d))

end Verb

/-! ## 5. Whole lines -/

/-- The word that asks for help where a command can stand. -/
def helpName : String := "help"

/-- The first level of a line. -/
def topLevel : Level Options := ⟨optionSwitches, Verb.all.map Verb.name ++ [helpName]⟩

/-- What is answered to the words behind the word for help: help, if they lead to a command. -/
def helpOn (g : Level Options) : List String → Refusal
  | [] => .help
  | word :: rest =>
    if !g.commands.contains word then .unknownCommand word
    else
      match rest with
      | [] => .help
      | next :: _ => .unknownCommand next

end Command

open Command in
/-- The line that words make. -/
def Invocation.parse (words : List String) : Except Refusal Invocation := do
  match ← topLevel.scan Options.none words with
  | (d, none) =>
    let d ← d.settle
    .error (if d.used.isEmpty then .nothing else .noCommand)
  | (d, some (name, rest)) =>
    match Verb.ofName? name with
    | none => .error (helpOn topLevel rest)
    | some v =>
      let command ← v.parse rest
      let d ← d.settle
      return ⟨d.value, command⟩

/-! ## 6. Refusals -/

namespace Command.Refusal

/-- The name and the version of the program. -/
def versionText : String := "thumbnail-cache 0.1.0"

/-- The lines of help. -/
def helpText : List String := [
  "Compute and cache chart and dashboard thumbnails",
  "",
  "Usage: thumbnail-cache [OPTIONS] <COMMAND>",
  "",
  "Commands:",
  "  get       Return a thumbnail, computing it on a cache miss",
  "  warm      Compute and cache a thumbnail, skipping cached ones unless forced",
  "  cached    Read a thumbnail from the cache without computing it",
  "  key       Print the cache key of a thumbnail",
  "  validate  Validate configuration",
  "  help      Print this message",
  "",
  "Options: " ++ ", ".intercalate (optionSwitches.map Switch.text)] ++
  Verb.all.map fun v =>
    "Options of " ++ v.name ++ ": " ++ ", ".intercalate (v.level.switches.map Switch.text)

/-- The lines that are printed instead of carrying out a command. -/
def lines : Refusal → List String
  | help => helpText
  | version => [versionText]
  | nothing => helpText
  | noCommand => ["error: 'thumbnail-cache' requires a subcommand but one was not provided"]
  | unknownCommand word => ["error: unrecognized subcommand '" ++ word ++ "'"]
  | unknownWord word => ["error: unexpected argument '" ++ word ++ "' found"]
  | repeated switch => ["error: the argument '" ++ switch ++ "' cannot be used multiple times"]
  | missing switches =>
    "error: the following required arguments were not provided:" :: switches.map fun s => "  " ++ s
  | noValue switch => ["error: a value is required for '" ++ switch ++ "' but none was supplied"]
  | excess value switch =>
    ["error: unexpected value '" ++ value ++ "' for '" ++ switch ++ "' found; no more were expected"]
  | badValue value switch detail =>
    ["error: invalid value '" ++ value ++ "' for '" ++ switch ++ "': " ++ detail]

/-- Is a refusal what was asked for? Then it is no failure. -/
def isAnswer : Refusal → Bool
  | help | version => true
  | _ => false

end Command.Refusal

end Vignette

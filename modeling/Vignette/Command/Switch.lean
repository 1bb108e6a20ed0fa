/-!
# Switches on a command line

A command line is a list of words. A level of it has switches and, perhaps, commands: the first word
that is the name of a command ends the level, and the words behind it belong to the command's own
level.

A word is a long switch (`--name`, or `--name=value`), one or more short ones (`-n`, or `-nvalue`), two
hyphens alone, or plain. A switch that takes a value and has none with it waits for the next word,
which has to be plain; **a word that looks like a switch is never a value**. Behind two hyphens alone
nothing is a switch or a command any more.

A value is not looked at when it is met, but only before the next switch is taken, or at the end of
the words. So of two faults the later one can win: an unknown word is met before the value in front
of it is looked at.
-/

namespace Vignette.Command

/-! ## 1. Switches -/

/-- What is wrong with a value. -/
inductive ValueFault
  /-- There is nothing in it. -/
  | empty
  /-- It cannot be read. -/
  | unreadable (detail : String)
  deriving DecidableEq, Repr

/-- What a switch does to the draft of a level. -/
inductive Effect (σ : Type)
  /-- Asks for help. -/
  | help
  /-- Asks for the version. -/
  | version
  /-- Is there or not; it may stand once. -/
  | mark (set : σ → σ)
  /-- Takes a value, which is shown by a placeholder; it may stand once, unless it is repeatable. -/
  | value (placeholder : String) (repeatable : Bool) (put : String → σ → Except ValueFault σ)

/-- A switch, with its long name and perhaps a letter. -/
structure Switch (σ : Type) where
  long : String
  letter : Option Char
  effect : Effect σ

/-- The switch as messages show it. -/
def Switch.text {σ : Type} (s : Switch σ) : String :=
  match s.effect with
  | .value placeholder _ _ => "--" ++ s.long ++ " <" ++ placeholder ++ ">"
  | _ => "--" ++ s.long

/-- Why no command is carried out. -/
inductive Refusal
  /-- Only help is asked for. -/
  | help
  /-- Only the version is asked for. -/
  | version
  /-- Nothing is asked for at all. -/
  | nothing
  /-- There are switches and no command. -/
  | noCommand
  /-- A word stands where only a command can stand. -/
  | unknownCommand (word : String)
  /-- A word is no switch, and no value can stand there. -/
  | unknownWord (word : String)
  /-- A switch stands twice that may stand once. -/
  | repeated (switch : String)
  /-- Switches are not there that have to be. -/
  | missing (switches : List String)
  /-- A switch has no value. -/
  | noValue (switch : String)
  /-- A switch has a value and takes none. -/
  | excess (value switch : String)
  /-- The value of a switch cannot be read. -/
  | badValue (value switch detail : String)
  deriving DecidableEq, Repr

/-! ## 2. Drafts -/

/-- What the words so far have made of a level. -/
structure Draft (σ : Type) where
  value : σ
  /-- The long names of the switches that were taken. -/
  used : List String
  /-- The last switch, as long as its value is not looked at, and the value as far as it is there. -/
  pending : Option (Switch σ × Option String)

namespace Draft

variable {σ : Type}

/-- The draft before the first word. -/
def start (value : σ) : Draft σ := ⟨value, [], none⟩

/-- The draft with another value, and one more switch taken. -/
def set (d : Draft σ) (s : Switch σ) (value : σ) : Draft σ :=
  { d with value := value, used := s.long :: d.used }

/-- The draft after a switch is taken, with a value or without. -/
def take (d : Draft σ) (s : Switch σ) (word : Option String) : Except Refusal (Draft σ) :=
  match s.effect, word with
  | .help, _ => .error .help
  | .version, _ => .error .version
  | .mark f, _ => if d.used.contains s.long then .error (.repeated s.text) else .ok (d.set s (f d.value))
  | .value .., none => .error (.noValue s.text)
  | .value _ repeatable put, some v =>
    if !repeatable && d.used.contains s.long then .error (.repeated s.text)
    else
      match put v d.value with
      | .ok value => .ok (d.set s value)
      | .error .empty => .error (.noValue s.text)
      | .error (.unreadable detail) => .error (.badValue v s.text detail)

/-- The draft after the switch that is pending is taken. -/
def settle (d : Draft σ) : Except Refusal (Draft σ) :=
  match d.pending with
  | none => .ok d
  | some (s, word) => { d with pending := none }.take s word

/-- The draft after one more switch: one that takes a value is put off. -/
def meet (d : Draft σ) (s : Switch σ) (word : Option String) : Except Refusal (Draft σ) := do
  let d ← d.settle
  match s.effect, word with
  | .value .., none => return { d with pending := some (s, none) }
  | _, _ => d.take s word

/-- The switch that waits for a value. -/
def waiting? (d : Draft σ) : Option (Switch σ) :=
  match d.pending with
  | some (s, none) => some s
  | _ => none

end Draft

/-! ## 3. Words -/

/-- What a word looks like. -/
inductive Word
  /-- Two hyphens alone. -/
  | separator
  /-- A long switch, perhaps with a value. -/
  | long (name : String) (value : Option String)
  /-- Letters behind a hyphen; there is at least one. -/
  | letters (cs : List Char)
  | plain
  deriving DecidableEq, Repr

/-- What a word looks like. A hyphen alone is plain. -/
def Word.ofString (word : String) : Word :=
  match word.toList with
  | ['-', '-'] => .separator
  | '-' :: '-' :: rest =>
    match rest.span (· != '=') with
    | (name, []) => .long (String.ofList name) none
    | (name, _ :: value) => .long (String.ofList name) (some (String.ofList value))
  | '-' :: c :: rest => .letters (c :: rest)
  | _ => .plain

/-! ## 4. Levels -/

/-- One level of a command line. -/
structure Level (σ : Type) where
  switches : List (Switch σ)
  /-- The names of the commands that may follow. -/
  commands : List String

namespace Level

variable {σ : Type}

/-- The draft after a long switch. -/
def takeLong (g : Level σ) (d : Draft σ) (word name : String) (value : Option String) :
    Except Refusal (Draft σ) :=
  match g.switches.find? fun s => s.long == name with
  | none => .error (.unknownWord word)
  | some s =>
    match s.effect, value with
    | .value .., _ => d.meet s value
    | _, some v => .error (.excess v s.text)
    | _, none => d.meet s none

/-- The value in what stands behind a letter; an equals sign in front does not belong to it. -/
def valueBehind : List Char → Option String
  | [] => none
  | '=' :: rest => some (String.ofList rest)
  | rest => some (String.ofList rest)

/-- The draft after letters; the first one that takes a value takes all that stands behind it. -/
def takeLetters (g : Level σ) (d : Draft σ) : List Char → Except Refusal (Draft σ)
  | [] => .ok d
  | c :: rest =>
    match g.switches.find? fun s => s.letter == some c with
    | none => .error (.unknownWord (String.ofList ['-', c]))
    | some s =>
      match s.effect with
      | .value .. => d.meet s (valueBehind rest)
      | _ => do g.takeLetters (← d.meet s none) rest

/-- What is wrong with a word that stands where no word can stand. -/
def stray (g : Level σ) (ended : Bool) (word : String) : Refusal :=
  if g.commands.isEmpty || (ended && g.commands.contains word) then .unknownWord word
  else .unknownCommand word

/-- What the words of a level come to: the draft of all of them, or the draft in front of a command,
    the command's name, and the words behind it. -/
def scanFrom (g : Level σ) (ended : Bool) (d : Draft σ) :
    List String → Except Refusal (Draft σ × Option (String × List String))
  | [] => .ok (d, none)
  | word :: rest =>
    if ended then .error (g.stray true word)
    else if d.waiting?.isNone && g.commands.contains word then .ok (d, some (word, rest))
    else
      match Word.ofString word with
      | .separator => g.scanFrom true d rest
      | .long name value =>
        match g.takeLong d word name value with
        | .error e => .error e
        | .ok d => g.scanFrom false d rest
      | .letters cs =>
        match g.takeLetters d cs with
        | .error e => .error e
        | .ok d => g.scanFrom false d rest
      | .plain =>
        match d.waiting? with
        | some s => g.scanFrom false { d with pending := some (s, some word) } rest
        | none => .error (g.stray false word)

/-- What the words of a level come to, from its beginning. -/
def scan (g : Level σ) (value : σ) (words : List String) :
    Except Refusal (Draft σ × Option (String × List String)) :=
  g.scanFrom false (Draft.start value) words

end Level

end Vignette.Command

import Vignette.Number.Shortest
import Vignette.Text.Decimal
import Vignette.Text.Quoted

/-!
# What can be wrong with a JSON text, and where

A reader of JSON stops at the first thing that is wrong. `Cause` says what it is, `Fault` adds the
place, and `Fault.message` is the sentence with line and column.

Columns count bytes from the line's start. A place is given by what is left of the text: a fault
stands behind the last byte that was taken, or one byte further if the next byte was only looked at
(`ahead`).
-/

namespace Vignette.Json

/-! ## 1. Causes -/

/-- A value that is not the one expected. -/
inductive Found
  | null
  | bool (b : Bool)
  | natural (n : Nat)
  /-- The number `-n`. -/
  | negative (n : Nat)
  | float (x : Float)
  | string (s : String)
  | list
  | object

/-- The value as messages name it. -/
def Found.text : Found → String
  | null => "null"
  | bool true => "boolean `true`"
  | bool false => "boolean `false`"
  | natural n => "integer `" ++ Text.decimalText n ++ "`"
  | negative n => "integer `-" ++ Text.decimalText n ++ "`"
  | float x => "floating point `" ++ Number.floatText x ++ "`"
  | string s => "string " ++ Text.quoted s
  | list => "sequence"
  | object => "map"

/-- Names that would have been accepted, as messages list them. -/
def oneOf : List String → String
  | [a, b] => "`" ++ a ++ "` or `" ++ b ++ "`"
  | [a] => "`" ++ a ++ "`"
  | names => "one of " ++ ", ".intercalate (names.map fun n => "`" ++ n ++ "`")

/-- What is wrong. -/
inductive Cause
  | endInList
  | endInObject
  | endInString
  | endInValue
  | noColon
  | noListEnd
  | noObjectEnd
  | noWord
  | noValue
  | badEscape
  | badNumber
  | numberTooLarge
  | controlCharacter
  | keyNotString
  | loneSurrogate
  | halfSurrogate
  | commaAtEnd
  | textAtEnd
  | wrongType (found : Found) (expected : String)
  | wrongValue (found : Found) (expected : String)
  | wrongLength (length : Nat) (expected : String)
  | unknownVariant (name : String) (known : List String)
  | unknownField (name : String) (known : List String)
  | missingField (name : String)
  | duplicateField (name : String)
  | other (sentence : String)

/-- The sentence without the place. -/
def Cause.message : Cause → String
  | endInList => "EOF while parsing a list"
  | endInObject => "EOF while parsing an object"
  | endInString => "EOF while parsing a string"
  | endInValue => "EOF while parsing a value"
  | noColon => "expected `:`"
  | noListEnd => "expected `,` or `]`"
  | noObjectEnd => "expected `,` or `\x7d`"
  | noWord => "expected ident"
  | noValue => "expected value"
  | badEscape => "invalid escape"
  | badNumber => "invalid number"
  | numberTooLarge => "number out of range"
  | controlCharacter => "control character (\\u0000-\\u001F) found while parsing a string"
  | keyNotString => "key must be a string"
  | loneSurrogate => "lone leading surrogate in hex escape"
  | halfSurrogate => "unexpected end of hex escape"
  | commaAtEnd => "trailing comma"
  | textAtEnd => "trailing characters"
  | wrongType found expected => "invalid type: " ++ found.text ++ ", expected " ++ expected
  | wrongValue found expected => "invalid value: " ++ found.text ++ ", expected " ++ expected
  | wrongLength n expected =>
    "invalid length " ++ Text.decimalText n ++ ", expected " ++ expected
  | unknownVariant name known => "unknown variant `" ++ name ++ "`, expected " ++ oneOf known
  | unknownField name known => "unknown field `" ++ name ++ "`, expected " ++ oneOf known
  | missingField name => "missing field `" ++ name ++ "`"
  | duplicateField name => "duplicate field `" ++ name ++ "`"
  | other sentence => sentence

/-! ## 2. Places -/

/-- The number of bytes of a text. -/
def byteLength (s : List Char) : Nat := s.foldl (fun n c => n + c.utf8Size) 0

/-- A line, counted from one, and the number of bytes before a place on it. -/
structure Place where
  line : Nat
  column : Nat
  deriving DecidableEq, Repr

/-- The place behind the first `bytes` bytes of a text, counted on from `p`. -/
def Place.after (p : Place) : (bytes : Nat) → List Char → Place
  | _, [] => p
  | bytes, c :: s =>
    if bytes = 0 then p
    else if c = '\n' then Place.after ⟨p.line + 1, 0⟩ (bytes - 1) s
    else Place.after ⟨p.line, p.column + min bytes c.utf8Size⟩ (bytes - c.utf8Size) s

/-- Something wrong at a place: what is left of the text there, and how many bytes further on. -/
structure Fault where
  cause : Cause
  rest : List Char
  ahead : Nat

/-- The place of a fault in the text that was read. -/
def Fault.place (text : List Char) (f : Fault) : Place :=
  let left := byteLength f.rest
  Place.after ⟨1, 0⟩ (byteLength text - left + min f.ahead left) text

/-- The sentence for a fault in a text. -/
def Fault.message (text : List Char) (f : Fault) : String :=
  let p := f.place text
  f.cause.message ++ " at line " ++ Text.decimalText p.line ++ " column " ++
    Text.decimalText p.column

end Vignette.Json

import Vignette.Text.Decimal
import Vignette.Text.Hex

/-!
# JSON values and their compact text

The values that this library writes: null, truth values, natural numbers, strings, arrays, and
objects whose members stand in a chosen order. The text has no blanks. In a string, the quote, the
backslash and the control characters are escaped, five of them by a letter; everything else stands
as it is.

`render` is over lists of characters, so that a reader can be run on it step by step.
-/

namespace Vignette

/-- A JSON value. -/
inductive Json
  | null
  | bool (b : Bool)
  | number (n : Nat)
  | string (s : String)
  | array (items : List Json)
  | object (members : List (String × Json))

namespace Json

/-! ## 1. Strings -/

/-- The letter that escapes a character, if one does. -/
def escapeLetter? (c : Char) : Option Char :=
  if c = '"' then some '"'
  else if c = '\\' then some '\\'
  else if c = '\n' then some 'n'
  else if c = '\r' then some 'r'
  else if c = '\t' then some 't'
  else if c.toNat = 8 then some 'b'
  else if c.toNat = 12 then some 'f'
  else none

/-- One character as it stands in a string. -/
def escapeChar (c : Char) : List Char :=
  match escapeLetter? c with
  | some e => ['\\', e]
  | none =>
    if c.toNat < 32 then
      ['\\', 'u', '0', '0', Text.hexDigit (c.toNat / 16), Text.hexDigit (c.toNat % 16)]
    else [c]

/-- A string between quotes. -/
def renderString (s : List Char) : List Char := '"' :: (s.flatMap escapeChar ++ ['"'])

/-! ## 2. Values -/

mutual

/-- The compact text of a value. -/
def render : Json → List Char
  | .null => ['n', 'u', 'l', 'l']
  | .bool true => ['t', 'r', 'u', 'e']
  | .bool false => ['f', 'a', 'l', 's', 'e']
  | .number n => Text.decimal n
  | .string s => renderString s.toList
  | .array items => '[' :: (renderItems items ++ [']'])
  | .object members => '\x7b' :: (renderMembers members ++ ['\x7d'])

/-- The texts of values, with commas between. -/
def renderItems : List Json → List Char
  | [] => []
  | [v] => render v
  | v :: w :: rest => render v ++ ',' :: renderItems (w :: rest)

/-- The texts of members, with commas between. -/
def renderMembers : List (String × Json) → List Char
  | [] => []
  | [(name, v)] => renderString name.toList ++ ':' :: render v
  | (name, v) :: m :: rest =>
    renderString name.toList ++ ':' :: render v ++ ',' :: renderMembers (m :: rest)

end

/-- The compact text of a value as a string. -/
def text (v : Json) : String := String.ofList v.render

/-- A string, or null for none. -/
def ofOption (s : Option String) : Json :=
  match s with
  | none => .null
  | some s => .string s

/-! ## 3. Members by name -/

/-- Does a name come before another? The first character that differs decides. -/
def precedes : List Char → List Char → Bool
  | _, [] => false
  | [], _ :: _ => true
  | a :: s, b :: t => if a = b then precedes s t else a.toNat < b.toNat

/-- Members in the order of their names, with one more; a member of the same name gives way to it. -/
def insertMember (name : String) (value : Json) : List (String × Json) → List (String × Json)
  | [] => [(name, value)]
  | (other, v) :: rest =>
    if precedes name.toList other.toList then (name, value) :: (other, v) :: rest
    else if name = other then (name, value) :: rest
    else (other, v) :: insertMember name value rest

/-- Members in the order of their names; of those with one name the last counts. -/
def sortMembers (members : List (String × Json)) : List (String × Json) :=
  members.foldl (fun sorted m => insertMember m.1 m.2 sorted) []

end Json

end Vignette

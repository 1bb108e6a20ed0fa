import Vignette.Text.Composition
import Vignette.Url.Domain.Mapping
import Vignette.Url.Domain.Script
import Vignette.Url.Punycode

/-!
# Domain names

A domain name is brought into the form that is looked up: its characters are mapped
(`Url.Domain.Mapping`) and composed, it is cut into labels at its points, each label is checked, and
a label with characters beyond ASCII is written in Punycode behind `xn--`. This is ToASCII of
Unicode Technical Standard 46, with any hyphens and any lengths, but without the characters that a
URL forbids in a domain.

`toAscii?` is `none` for a name that fails any check.
-/

namespace Vignette.Url.Domain

open Text (Composition.compose Composition.combiningClass)

/-! ## 1. Checks on a label -/

/-- The ASCII characters that may not stand in a domain. -/
def isForbidden (c : Char) : Bool :=
  c.toNat ≤ 0x20 || c.toNat == 0x7F ||
    ['#', '/', ':', '<', '>', '?', '@', '[', '\\', ']', '^', '|', '%'].contains c

/-- The two joiners, which are nothing but a wish about their neighbours. -/
def nonJoiner : Char := '\u200c'
def joiner : Char := '\u200d'

/-- Is the last character before a place one that suppresses a vowel? -/
def endsInVirama (before : List Char) : Bool :=
  match before with
  | [] => false
  | c :: _ => Composition.combiningClass c.toNat == 9

/-- Does a letter that joins on `side` come next, marks passed over? -/
def joinsNext (side : Joining) (s : List Char) : Bool :=
  match s.dropWhile (fun c => joining c == .transparent) with
  | [] => false
  | c :: _ => joining c == side || joining c == .dual

/-- Has every joiner of a label a place where it may stand? `before` is read backwards. -/
def joinersFit : (before : List Char) → List Char → Bool
  | _, [] => true
  | before, c :: rest =>
    (if c = joiner then endsInVirama before
     else if c = nonJoiner then
       endsInVirama before || (joinsNext .left before && joinsNext .right rest)
     else true) && joinersFit (c :: before) rest

/-- May the characters beyond ASCII, and all others, stand in a label as they do? -/
def isLabel (s : List Char) : Bool :=
  (match s with
   | [] => true
   | c :: _ => !isMark c) &&
  s.all (fun c => isValid c && !isForbidden c) && joinersFit [] s

/-! ## 2. Labels that run from right to left -/

/-- Does the label hold a character that runs from right to left? -/
def isRightToLeft (s : List Char) : Bool :=
  s.any fun c => [Direction.r, .al, .an].contains (direction c)

/-- The class that a label ends in, marks left out. -/
def lastDirection? (s : List Char) : Option Direction :=
  (s.reverse.map direction).find? (· != .nsm)

/-- The six conditions of RFC 5893 on a label of a name of which some label runs from right to
    left. -/
def isBidiLabel (s : List Char) : Bool :=
  match s.map direction with
  | [] => true
  | first :: rest =>
    let all := first :: rest
    if first = .l then
      all.all ([Direction.l, .en, .es, .cs, .et, .on, .bn, .nsm].contains ·) &&
        [some Direction.l, some .en].contains (lastDirection? s)
    else if first = .r ∨ first = .al then
      all.all ([Direction.r, .al, .an, .en, .es, .cs, .et, .on, .bn, .nsm].contains ·) &&
        [some Direction.r, some .al, some .en, some .an].contains (lastDirection? s) &&
        !(all.contains .en && all.contains .an)
    else false

/-! ## 3. Whole names -/

/-- The parts of a text between points. -/
def splitPoints : List Char → List (List Char)
  | [] => [[]]
  | c :: s =>
    if c = '.' then [] :: splitPoints s
    else
      match splitPoints s with
      | [] => [[c]]
      | part :: parts => (c :: part) :: parts

/-- Is a text within ASCII? -/
def isAscii (s : List Char) : Bool := s.all (·.toNat < 128)

/-- The label that a mapped label stands for: what is written in Punycode is read, and must have
    needed it. -/
def label? (s : List Char) : Option (List Char) :=
  match s with
  | 'x' :: 'n' :: '-' :: '-' :: code =>
    match Punycode.decode? code with
    | none => none
    | some l =>
      if !isAscii l && Composition.compose l == l && isLabel l then some l else none
  | s => if isLabel s then some s else none

/-- A label as it is looked up. -/
def asciiLabel (s : List Char) : List Char :=
  if isAscii s then s else ['x', 'n', '-', '-'] ++ Punycode.encode s

/-- The name as it is looked up. -/
def toAscii? (name : List Char) : Option (List Char) := do
  let mapped ← name.mapM mapChar?
  let labels ← (splitPoints (Composition.compose mapped.flatten)).mapM label?
  if labels.any isRightToLeft && !labels.all isBidiLabel then none
  else some (List.intercalate ['.'] (labels.map asciiLabel))

end Vignette.Url.Domain

import Vignette.Json.Fault
import Vignette.Text.Hex

/-!
# The tokens of JSON

Readers take a token from the front of a text and answer what is left of it. Here are the readers
of blanks, words, strings and numbers, and one that skips a whole value whose contents do not
matter (`skipValue`). A skipped string is checked for its escapes but not for what they denote, and
a skipped number for its form alone.
-/

namespace Vignette.Json

/-- A reader takes a value from the front of a text. -/
abbrev Reader (α : Type) := List Char → Except Fault (α × List Char)

/-- A fault behind everything taken so far. -/
def faultAt {α : Type} (cause : Cause) (rest : List Char) : Except Fault α := .error ⟨cause, rest, 0⟩

/-- A fault at the next byte. -/
def faultNext {α : Type} (cause : Cause) (rest : List Char) : Except Fault α :=
  .error ⟨cause, rest, 1⟩

/-! ## 1. Blanks and words -/

/-- The four blanks of JSON. -/
def isBlank (c : Char) : Bool := c == ' ' || c == '\n' || c == '\t' || c == '\r'

/-- The text without the blanks at its front. -/
def skipBlanks (s : List Char) : List Char := s.dropWhile isBlank

/-- Takes the letters of a word. -/
def readWord : (word : List Char) → Reader Unit
  | [], s => .ok ((), s)
  | _ :: _, [] => faultAt .endInValue []
  | e :: word, c :: s => if c = e then readWord word s else faultNext .noWord (c :: s)

/-! ## 2. Strings -/

/-- The number that four hexadecimal digits denote. -/
def readHex4 : Reader Nat
  | a :: b :: c :: d :: r =>
    match Text.hexDigitValue? a, Text.hexDigitValue? b, Text.hexDigitValue? c,
      Text.hexDigitValue? d with
    | some w, some x, some y, some z => .ok (((w * 16 + x) * 16 + y) * 16 + z, r)
    | _, _, _, _ => .error ⟨.badEscape, a :: b :: c :: d :: r, 4⟩
  | s => if 4 ≤ byteLength s then .error ⟨.badEscape, s, 4⟩ else faultAt .endInString []

/-- Is the number the first half of a pair of surrogates? -/
def isLeading (n : Nat) : Bool := 0xD800 ≤ n && n ≤ 0xDBFF

/-- Is the number the second half of a pair of surrogates? -/
def isTrailing (n : Nat) : Bool := 0xDC00 ≤ n && n ≤ 0xDFFF

/-- The second half of a pair of surrogates, with its escape. -/
def readTrailing (lead : Nat) : Reader Char
  | '\\' :: 'u' :: r =>
    match readHex4 r with
    | .error e => .error e
    | .ok (n, r) =>
      if isTrailing n then
        .ok (Char.ofNat ((lead - 0xD800) * 0x400 + (n - 0xDC00) + 0x10000), r)
      else faultAt .loneSurrogate r
  | ['\\'] => faultAt .endInString []
  | '\\' :: s => faultNext .halfSurrogate s
  | [] => faultAt .endInString []
  | s => faultNext .halfSurrogate s

/-- The character of a numeric escape, behind the letter `u`. -/
def readNumericEscape (s : List Char) : Except Fault (Char × List Char) :=
  match readHex4 s with
  | .error e => .error e
  | .ok (n, r) =>
    if isTrailing n then faultAt .loneSurrogate r
    else if isLeading n then readTrailing n r
    else .ok (Char.ofNat n, r)

/-- The character that a letter behind a backslash denotes. -/
def unescape? (c : Char) : Option Char :=
  if c = '"' ∨ c = '\\' ∨ c = '/' then some c
  else if c = 'b' then some '\x08'
  else if c = 'f' then some '\x0c'
  else if c = 'n' then some '\n'
  else if c = 'r' then some '\r'
  else if c = 't' then some '\t'
  else none

/-- The character of an escape, behind the backslash. -/
def readEscape : Reader Char
  | [] => faultAt .endInString []
  | c :: r =>
    if c = 'u' then readNumericEscape r
    else
      match unescape? c with
      | some d => .ok (d, r)
      | none => faultNext .badEscape (c :: r)

/-- The characters of a string, behind its opening quote, and the text behind its closing one.
    Each step takes at least one character, so `fuel` is the length of the text. -/
def readChars : (fuel : Nat) → Reader (List Char)
  | 0, s => faultAt .endInString s
  | fuel + 1, s =>
    match s with
    | [] => faultAt .endInString []
    | '"' :: r => .ok ([], r)
    | '\\' :: r =>
      match readEscape r with
      | .error e => .error e
      | .ok (c, r) =>
        match readChars fuel r with
        | .error e => .error e
        | .ok (cs, r) => .ok (c :: cs, r)
    | c :: r =>
      if c.toNat < 32 then faultNext .controlCharacter (c :: r)
      else
        match readChars fuel r with
        | .error e => .error e
        | .ok (cs, r) => .ok (c :: cs, r)

/-- A string behind its opening quote. -/
def readString (s : List Char) : Except Fault (String × List Char) :=
  match readChars (s.length + 1) s with
  | .error e => .error e
  | .ok (cs, r) => .ok (String.ofList cs, r)

/-! ## 3. Numbers -/

/-- A number as far as its form tells: a natural number below `2 ^ 64`, the negative of one up to
    `2 ^ 63`, or anything else as a double. -/
inductive Numeral
  | natural (n : Nat)
  /-- The number `-n`. -/
  | negative (n : Nat)
  | float (x : Float)

/-- The number as messages name it. -/
def Numeral.found : Numeral → Found
  | natural n => .natural n
  | negative n => .negative n
  | float x => .float x

/-- The digits at the front, and the rest. -/
def spanDigits (s : List Char) : List Char × List Char := s.span Text.isDigit

/-- Is the first character a digit? -/
def startsWithDigit : List Char → Bool
  | [] => false
  | c :: _ => Text.isDigit c

/-- The value of a digit. -/
def digitValue (c : Char) : Nat := c.toNat - 48

/-- Digits added to a number as long as it stays below `2 ^ 64`; with the number of digits taken. -/
def takeDigits : (value count : Nat) → List Char → Nat × Nat × List Char
  | value, count, [] => (value, count, [])
  | value, count, c :: r =>
    if Text.isDigit c ∧ value * 10 + digitValue c < UInt64.size then
      takeDigits (value * 10 + digitValue c) (count + 1) r
    else (value, count, c :: r)

/-- The double `x * 10 ^ e`, by one multiplication or division with a power of ten, or by several
    where `e` is beyond the powers that there are; `none` where it is too large. -/
def scaleFloat : (fuel : Nat) → Float → (e : Int) → Option Float
  | 0, x, _ => some x
  | fuel + 1, x, e =>
    if e.natAbs ≤ 308 then
      let power := Float.ofScientific 1 false e.natAbs
      if 0 ≤ e then
        let y := x * power
        if y.isInf then none else some y
      else some (x / power)
    else if x == 0 then some x
    else if 0 ≤ e then none
    else scaleFloat fuel (x / Float.ofScientific 1 false 308) (e + 308)

/-- The double of digits, an exponent and a sign. -/
def finishFloat (positive : Bool) (digits : Nat) (e : Int) (rest : List Char) :
    Except Fault (Numeral × List Char) :=
  match scaleFloat 8 (UInt64.ofNat digits).toFloat e with
  | none => faultAt .numberTooLarge rest
  | some x => .ok (.float (if positive then x else -x), rest)

/-- The value of a run of digits, and the text behind it; or, where the value passes `2 ^ 31 - 1`,
    no value and the text behind the digit that did it. -/
def readExponentDigits : (value : Nat) → List Char → Option Nat × List Char
  | value, [] => (some value, [])
  | value, c :: r =>
    if Text.isDigit c then
      if UInt32.size / 2 ≤ value * 10 + digitValue c then (none, r)
      else readExponentDigits (value * 10 + digitValue c) r
    else (some value, c :: r)

/-- The exponent of a number, behind the letter `e`. -/
def readExponent (positive : Bool) (digits : Nat) (e : Int) (s : List Char) :
    Except Fault (Numeral × List Char) :=
  let (up, s) :=
    match s with
    | '+' :: r => (true, r)
    | '-' :: r => (false, r)
    | r => (true, r)
  match s with
  | [] => faultAt .endInValue []
  | c :: r =>
    if Text.isDigit c then
      match readExponentDigits (digitValue c) r with
      | (some value, r) => finishFloat positive digits (if up then e + value else e - value) r
      | (none, r) =>
        if digits ≠ 0 ∧ up then faultAt .numberTooLarge r
        else .ok (.float (if positive then 0 else -0.0), (spanDigits r).2)
    else faultNext .badNumber (c :: r)

/-- What may follow the digits of a double. -/
def readExponent? (positive : Bool) (digits : Nat) (e : Int) (s : List Char) :
    Except Fault (Numeral × List Char) :=
  match s with
  | 'e' :: r | 'E' :: r => readExponent positive digits e r
  | r => finishFloat positive digits e r

/-- The fraction of a number, behind the point. Digits beyond the precision are dropped. -/
def readFraction (positive : Bool) (digits : Nat) (e : Int) (s : List Char) :
    Except Fault (Numeral × List Char) :=
  let (digits, count, r) := takeDigits digits 0 s
  if count = 0 ∧ ¬ startsWithDigit r then
    match r with
    | [] => faultNext .endInValue []
    | r => faultNext .badNumber r
  else readExponent? positive digits (e - count) (spanDigits r).2

/-- What may follow the digits of a whole number: more of them than fit, a fraction, an exponent. -/
def readTail (positive : Bool) (digits : Nat) (s : List Char) :
    Except Fault (Numeral × List Char) :=
  if startsWithDigit s then
    let (extra, r) := spanDigits s
    match r with
    | '.' :: r => readFraction positive digits extra.length r
    | r => readExponent? positive digits extra.length r
  else
    match s with
    | '.' :: r => readFraction positive digits 0 r
    | 'e' :: r | 'E' :: r => readExponent positive digits 0 r
    | r =>
      if positive then .ok (.natural digits, r)
      else if digits = 0 ∨ UInt64.size / 2 < digits then
        .ok (.float (-(UInt64.ofNat digits).toFloat), r)
      else .ok (.negative digits, r)

/-- A number behind its sign. -/
def readNumeral (positive : Bool) : Reader Numeral
  | [] => faultAt .endInValue []
  | c :: r =>
    if c = '0' then
      if startsWithDigit r then faultNext .badNumber r else readTail positive 0 r
    else if Text.isDigit c then
      let (digits, _, r) := takeDigits (digitValue c) 1 r
      readTail positive digits r
    else faultNext .badNumber (c :: r)

/-! ## 4. Skipping -/

/-- A string behind its opening quote, skipped. -/
def skipString : (fuel : Nat) → List Char → Except Fault (List Char)
  | 0, s => faultAt .endInString s
  | fuel + 1, s =>
    match s with
    | [] => faultAt .endInString []
    | '"' :: r => .ok r
    | '\\' :: r =>
      match r with
      | [] => faultAt .endInString []
      | c :: r =>
        if c = 'u' then
          match readHex4 r with
          | .error e => .error e
          | .ok (_, r) => skipString fuel r
        else if (unescape? c).isSome then skipString fuel r
        else faultNext .badEscape (c :: r)
    | c :: r => if c.toNat < 32 then faultAt .controlCharacter (c :: r) else skipString fuel r

/-- An exponent behind its letter, skipped. -/
def skipExponent (s : List Char) : Except Fault (List Char) :=
  let s :=
    match s with
    | '+' :: r | '-' :: r => r
    | r => r
  if startsWithDigit s then .ok (spanDigits s).2 else faultNext .badNumber s

/-- What may follow the digits of a number, skipped. -/
def skipTail (s : List Char) : Except Fault (List Char) :=
  match s with
  | '.' :: r =>
    if startsWithDigit r then
      match (spanDigits r).2 with
      | 'e' :: r | 'E' :: r => skipExponent r
      | r => .ok r
    else faultNext .badNumber r
  | 'e' :: r | 'E' :: r => skipExponent r
  | r => .ok r

/-- A number behind its sign, skipped. -/
def skipNumber (s : List Char) : Except Fault (List Char) :=
  match s with
  | '0' :: r => if startsWithDigit r then faultNext .badNumber r else skipTail r
  | r => if startsWithDigit r then skipTail (spanDigits r).2 else faultNext .badNumber r

/-- The brackets that are open around a skipped value. -/
inductive Bracket
  | list
  | object

/-- What is skipped next: a value, a member's name, or what follows a value. -/
inductive Skipping
  | value
  | name
  | next

/-- A value without brackets, skipped. -/
def skipScalar (s : List Char) : Except Fault (List Char) :=
  match s with
  | 'n' :: r => (readWord ['u', 'l', 'l'] r).map Prod.snd
  | 't' :: r => (readWord ['r', 'u', 'e'] r).map Prod.snd
  | 'f' :: r => (readWord ['a', 'l', 's', 'e'] r).map Prod.snd
  | '-' :: r => skipNumber r
  | '"' :: r => skipString (r.length + 1) r
  | s => if startsWithDigit s then skipNumber s else faultNext .noValue s

/-- A member's name and the colon behind it, skipped. -/
def skipName (s : List Char) : Except Fault (List Char) :=
  match skipBlanks s with
  | '"' :: r =>
    match skipString (r.length + 1) r with
    | .error e => .error e
    | .ok r =>
      match skipBlanks r with
      | ':' :: r => .ok r
      | [] => faultNext .endInObject []
      | r => faultNext .noColon r
  | [] => faultNext .endInObject []
  | s => faultNext .keyNotString s

/-- Skips what stands within the open brackets, up to the last one's end. Each step takes at least
    one character or leaves off, so `fuel` is bounded by the length of the text. -/
def skip : (fuel : Nat) → Skipping → (around : List Bracket) → List Char →
    Except Fault (List Char)
  | 0, _, _, s => faultAt .endInValue s
  | fuel + 1, .value, around, s =>
    match skipBlanks s with
    | [] => faultNext .endInValue []
    | '[' :: r =>
      match skipBlanks r with
      | [] => faultNext .endInList []
      | ']' :: r => skip fuel .next around r
      | r => skip fuel .value (.list :: around) r
    | '\x7b' :: r =>
      match skipBlanks r with
      | [] => faultNext .endInObject []
      | '\x7d' :: r => skip fuel .next around r
      | r => skip fuel .name (.object :: around) r
    | s =>
      match skipScalar s with
      | .error e => .error e
      | .ok r => skip fuel .next around r
  | fuel + 1, .name, around, s =>
    match skipName s with
    | .error e => .error e
    | .ok r => skip fuel .value around r
  | _ + 1, .next, [], s => .ok s
  | fuel + 1, .next, .list :: around, s =>
    match skipBlanks s with
    | ',' :: r => skip fuel .value (.list :: around) r
    | ']' :: r => skip fuel .next around r
    | [] => faultNext .endInList []
    | s => faultNext .noListEnd s
  | fuel + 1, .next, .object :: around, s =>
    match skipBlanks s with
    | ',' :: r => skip fuel .name (.object :: around) r
    | '\x7d' :: r => skip fuel .next around r
    | [] => faultNext .endInObject []
    | s => faultNext .noObjectEnd s

/-- A whole value, skipped. -/
def skipValue (s : List Char) : Except Fault (List Char) := skip (2 * s.length + 2) .value [] s

end Vignette.Json

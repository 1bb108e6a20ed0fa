import Vignette.Url.Percent

/-!
# Form data in a query

A query is read as a list of names with values: the parts between `&`, empty ones left out, each cut
at its FIRST `=`; a plus sign is a blank, and what is percent-encoded is decoded and read as UTF-8.
It is written with the letters and digits of ASCII and four other characters as they are, blanks as
plus signs, and everything else percent-encoded.

Writing and reading again gives back every list (`Url.Form.parse` after `Url.Form.text`); reading
and writing again does not give back every query.
-/

namespace Vignette.Url.Form

/-! ## 1. Writing -/

/-- Does the byte stand for itself? -/
def isPlain (b : UInt8) : Bool :=
  (0x30 ≤ b && b ≤ 0x39) || (0x41 ≤ b && b ≤ 0x5A) || (0x61 ≤ b && b ≤ 0x7A) ||
    b == 0x2A || b == 0x2D || b == 0x2E || b == 0x5F

/-- One byte. -/
def writeByte (b : UInt8) : List Char :=
  if isPlain b then [Char.ofNat b.toNat] else if b = 0x20 then ['+'] else percentByte b

/-- A name or a value. -/
def write (s : String) : List Char := s.toUTF8.toList.flatMap writeByte

/-- The query of a list of names with values. -/
def text (pairs : List (String × String)) : List Char :=
  List.intercalate ['&'] (pairs.map fun (name, value) => write name ++ '=' :: write value)

/-! ## 2. Reading -/

/-- The parts of a list between the items equal to `sep`. -/
def splitAll {α : Type} [DecidableEq α] (sep : α) : List α → List (List α)
  | [] => [[]]
  | a :: s =>
    if a = sep then [] :: splitAll sep s
    else
      match splitAll sep s with
      | [] => [[a]]
      | part :: parts => (a :: part) :: parts

/-- A name or a value of a query. -/
def read (bytes : List UInt8) : String :=
  String.ofList (Text.decodeUtf8
    (percentDecode (bytes.map fun b => if b = 0x2B then 0x20 else b)))

/-- The name and the value of a part. -/
def readPair (part : List UInt8) : String × String :=
  match part.span (· != 0x3D) with
  | (name, []) => (read name, "")
  | (name, _ :: value) => (read name, read value)

/-- The names with values of a query. -/
def parse (query : List Char) : List (String × String) :=
  (splitAll 0x26 (Text.encodeUtf8 query)).filterMap fun part =>
    if part.isEmpty then none else some (readPair part)

/-! ## 3. One name, one value -/

/-- Gives a name a value: the first pair of that name takes it, later ones of that name go, and
    where there was none the pair is added at the end. -/
def put (name value : String) : List (String × String) → List (String × String)
  | [] => [(name, value)]
  | (n, v) :: rest =>
    if n = name then (name, value) :: rest.filter (·.1 ≠ name) else (n, v) :: put name value rest

end Vignette.Url.Form

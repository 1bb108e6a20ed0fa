import Vignette.Url.Basic

/-!
# Reading URLs

`Url.parse` reads an absolute URL as the URL standard does: blanks around the text and line breaks
in it are dropped, the special schemes take a backslash for a slash and any number of them in front
of the host, a path is rid of `.` and `..`, and a port that the scheme stands for is left out. There
is no base, so a text without a scheme is no URL.

A drive letter at the start of a file's path is never taken off by `..`, and takes the host away.
-/

namespace Vignette.Url

/-! ## 1. Schemes -/

/-- How the rest of a URL is read. -/
inductive SchemeType
  | file
  | special
  | other
  deriving DecidableEq

/-- How the rest of a URL of this scheme is read. -/
def schemeType (scheme : List Char) : SchemeType :=
  match String.ofList scheme with
  | "file" => .file
  | "http" | "https" | "ws" | "wss" | "ftp" => .special
  | _ => .other

/-- The port that the scheme stands for. -/
def defaultPort? (scheme : List Char) : Option Nat :=
  match String.ofList scheme with
  | "http" | "ws" => some 80
  | "https" | "wss" => some 443
  | "ftp" => some 21
  | _ => none

/-- Is the character a letter of ASCII? -/
def isLetter (c : Char) : Bool := ('a' ≤ c && c ≤ 'z') || ('A' ≤ c && c ≤ 'Z')

/-- May the character stand in a scheme? -/
def isSchemeChar (c : Char) : Bool :=
  isLetter c || Text.isDigit c || c == '+' || c == '-' || c == '.'

/-- The scheme in small letters, and the text behind its colon. -/
def takeScheme? (s : List Char) : Option (List Char × List Char) :=
  match s.span isSchemeChar with
  | (c :: cs, ':' :: rest) =>
    if isLetter c then some ((c :: cs).map Domain.smallLetter, rest) else none
  | _ => none

/-! ## 2. Paths -/

/-- Does the character end a segment? -/
def isSlash (special : Bool) (c : Char) : Bool := c == '/' || (special && c == '\\')

/-- Does the character end the path? -/
def endsPath (c : Char) : Bool := c == '?' || c == '#'

/-- The parts of a text between slashes. -/
def splitSlashes (special : Bool) : List Char → List (List Char)
  | [] => [[]]
  | c :: s =>
    if isSlash special c then [] :: splitSlashes special s
    else
      match splitSlashes special s with
      | [] => [[c]]
      | part :: parts => (c :: part) :: parts

/-- The spellings of a point in a segment, taken off. -/
def dropPoint? : List Char → Option (List Char)
  | '.' :: s => some s
  | '%' :: '2' :: 'e' :: s => some s
  | '%' :: '2' :: 'E' :: s => some s
  | _ => none

/-- Does the segment stay where it is? -/
def isHere (s : List Char) : Bool := dropPoint? s == some []

/-- Does the segment go up? -/
def isUp (s : List Char) : Bool := (dropPoint? s).bind dropPoint? == some []

/-- Is the segment a drive letter? -/
def isDrive (s : List Char) : Bool :=
  match s with
  | [c, d] => isLetter c && (d == ':' || d == '|')
  | _ => false

/-- A path without its last segment; a drive letter stays. -/
def goUp (path : List (List Char)) : List (List Char) :=
  match path.getLast? with
  | some last => if isDrive last then path else path.dropLast
  | none => []

/-- A segment as it is kept. -/
def keepSegment (type : SchemeType) (path : List (List Char)) (s : List Char) : List Char :=
  if type = .file ∧ path = [] ∧ isDrive s then s.take 1 ++ [':'] else percentEncode inPathSet s

/-- Segments added to a path, points resolved. -/
def addSegments (type : SchemeType) : (path : List (List Char)) → List (List Char) →
    List (List Char)
  | path, [] => path
  | path, [s] =>
    if isUp s then goUp path ++ [[]]
    else if isHere s then path ++ [[]]
    else path ++ [keepSegment type path s]
  | path, s :: t :: rest =>
    if isUp s then addSegments type (goUp path) (t :: rest)
    else if isHere s then addSegments type path (t :: rest)
    else addSegments type (path ++ [keepSegment type path s]) (t :: rest)

/-- The segments of a file's path, without the empty ones in front. -/
def trimSegments (parts : List (List Char)) : List (List Char) :=
  match parts.dropWhile List.isEmpty with
  | [] => [[]]
  | parts => parts

/-- The segments that the text up to a query or fragment holds, and the rest. -/
def takeSegments (type : SchemeType) (s : List Char) : List (List Char) × List Char :=
  let (text, rest) := s.span fun c => !endsPath c
  (addSegments type [] (splitSlashes (type != .other) text), rest)

/-- The text behind one slash, if there is one. -/
def dropSlash (special : Bool) (s : List Char) : List Char :=
  match s with
  | c :: rest => if isSlash special c then rest else s
  | [] => []

/-! ## 3. Authorities -/

/-- Does the character end the authority? -/
def endsAuthority (special : Bool) (c : Char) : Bool := isSlash special c || endsPath c

/-- A text cut at its last `@`. -/
def splitAt? (s : List Char) : Option (List Char × List Char) :=
  match s.reverse.span (· != '@') with
  | (_, []) => none
  | (after, _ :: before) => some (before.reverse, after.reverse)

/-- A name and a password, percent-encoded. -/
def readUserinfo (s : List Char) : List Char × List Char :=
  let (name, rest) := s.span (· != ':')
  (percentEncode inUserinfoSet name, percentEncode inUserinfoSet (rest.drop 1))

/-- The text of a host and the rest: a colon ends it, but not within brackets. -/
def takeHost (special : Bool) : (bracketed : Bool) → List Char → List Char × List Char
  | _, [] => ([], [])
  | bracketed, c :: s =>
    if (c = ':' ∧ !bracketed) ∨ endsAuthority special c then ([], c :: s)
    else
      let inside := if c = '[' then true else if c = ']' then false else bracketed
      let (host, rest) := takeHost special inside s
      (c :: host, rest)

/-- The port behind a colon, if it is not the one that the scheme stands for, and the rest. -/
def readPort (default : Option Nat) (s : List Char) : Except ParseError (Option Nat × List Char) :=
  let (digits, rest) := s.span Text.isDigit
  let ends := match rest with
    | [] => true
    | c :: _ => c == '/' || c == '\\' || endsPath c
  let port := Text.digitsValue digits
  if !ends || 65535 < port then .error .port
  else .ok (if digits.isEmpty ∨ default = some port then none else some port, rest)

/-- What stands in front of a path. -/
structure Authority where
  username : List Char
  password : List Char
  host : Host
  port : Option Nat

/-- The authority, and the text from the path on. -/
def readAuthority (special : Bool) (default : Option Nat) (s : List Char) :
    Except ParseError (Authority × List Char) := do
  let (front, back) := s.span fun c => !endsAuthority special c
  let (username, password, s) ←
    match splitAt? front with
    | none => .ok ([], [], s)
    | some ([], []) => if back.isEmpty then .ok ([], [], back) else .error .emptyHost
    | some (userinfo, after) =>
      let (name, password) := readUserinfo userinfo
      .ok (name, password, after ++ back)
  let (hostText, s) := takeHost special false s
  if special && hostText.isEmpty then .error .emptyHost
  let host ← if special then Host.readDomain hostText else Host.readPlain hostText
  let named := !(username.isEmpty && password.isEmpty)
  match s with
  | ':' :: s =>
    if host = .named [] then .error .emptyHost
    let (port, s) ← readPort default s
    .ok (⟨username, password, host, port⟩, s)
  | s =>
    if host = .named [] && named then .error .emptyHost
    .ok (⟨username, password, host, none⟩, s)

/-! ## 4. Whole URLs -/

/-- The query and the fragment at the end of a URL. -/
def readEnd (type : SchemeType) (s : List Char) : Option (List Char) × Option (List Char) :=
  let query (q : List Char) :=
    percentEncode (if type = .other then inQuerySet else inSpecialQuerySet) q
  let fragment (s : List Char) : Option (List Char) :=
    match s with
    | _ :: f => some (percentEncode inFragmentSet f)
    | [] => none
  match s with
  | '?' :: s =>
    let (q, rest) := s.span (· != '#')
    (some (query q), fragment rest)
  | s => (none, fragment s)

/-- A URL with an authority, from behind the slashes on. -/
def readWithAuthority (type : SchemeType) (scheme s : List Char) : Except ParseError Url := do
  let special := type != .other
  let (a, s) ← readAuthority special (defaultPort? scheme) s
  let (parts, s) :=
    if special then takeSegments type (dropSlash special s)
    else
      match s with
      | [] => ([], [])
      | c :: _ => if endsPath c then ([], s) else takeSegments type (dropSlash special s)
  let (query, fragment) := readEnd type s
  .ok ⟨scheme, a.username, a.password, some a.host, a.port, .segments parts, query, fragment⟩

/-- The host of a file's URL, and the text from the path on. -/
def readFileHost (s : List Char) : Except ParseError (Host × List Char) := do
  let (text, rest) := s.span fun c => !endsAuthority true c
  if isDrive text then .ok (.named [], s)
  else if text.isEmpty then .ok (.named [], dropSlash true rest)
  else
    let host ← Host.readDomain text
    .ok (if host = .named "localhost".toList then .named [] else host, dropSlash true rest)

/-- A file's URL, from behind the colon on. -/
def readFile (scheme s : List Char) : Except ParseError Url := do
  let (host, s) ←
    match s with
    | c :: d :: rest =>
      if isSlash true c && isSlash true d then readFileHost rest
      else .ok (.named [], dropSlash true s)
    | s => .ok (.named [], dropSlash true s)
  let (parts, s) := takeSegments .file s
  let host := if parts.head?.any isDrive then .named [] else host
  let (query, fragment) := readEnd .file s
  .ok ⟨scheme, [], [], some host, none, .segments (trimSegments parts), query, fragment⟩

/-- A URL of a scheme that is not special, from behind the colon on. -/
def readOther (scheme s : List Char) : Except ParseError Url :=
  match s with
  | '/' :: '/' :: s => readWithAuthority .other scheme s
  | '/' :: s =>
    let (parts, s) := takeSegments .other s
    let (query, fragment) := readEnd .other s
    .ok ⟨scheme, [], [], none, none, .segments parts, query, fragment⟩
  | s =>
    let (path, s) := s.span fun c => !endsPath c
    let (query, fragment) := readEnd .other s
    .ok ⟨scheme, [], [], none, none, .plain (percentEncode isControl path), query, fragment⟩

/-- Is the character dropped around a URL? -/
def isMargin (c : Char) : Bool := c.toNat ≤ 0x20

/-- Is the character dropped within a URL? -/
def isBreak (c : Char) : Bool := c == '\t' || c == '\n' || c == '\r'

/-- A text without what is dropped around and within a URL. -/
def strip (s : List Char) : List Char :=
  (((s.dropWhile isMargin).reverse.dropWhile isMargin).reverse).filter fun c => !isBreak c

/-- The URL that a text denotes. -/
def parse (input : String) : Except ParseError Url :=
  match takeScheme? (strip input.toList) with
  | none => .error .noScheme
  | some (scheme, s) =>
    match schemeType scheme with
    | .file => readFile scheme s
    | .special => readWithAuthority .special scheme (s.dropWhile (isSlash true))
    | .other => readOther scheme s

end Vignette.Url

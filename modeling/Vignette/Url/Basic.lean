import Vignette.Url.Form
import Vignette.Url.Host

/-!
# URLs

A URL taken apart. Each part is kept as it is written, that is percent-encoded, so `Url.text` only
puts the parts together. A path is plain text (`mailto:x@y.z`) or a list of segments.

A host is there whenever the URL has the two slashes, even if nothing stands between them and the
path.
-/

namespace Vignette

/-- The path of a URL. -/
inductive Url.Path
  /-- Text without structure. -/
  | plain (text : List Char)
  /-- Segments, each with a slash in front of it. -/
  | segments (parts : List (List Char))
  deriving DecidableEq, Repr

/-- A URL. -/
structure Url where
  scheme : List Char
  username : List Char
  password : List Char
  host : Option Url.Host
  port : Option Nat
  path : Url.Path
  query : Option (List Char)
  fragment : Option (List Char)
  deriving DecidableEq, Repr

namespace Url

/-- The segments of a path, each with a slash in front of it. -/
def segmentsText (parts : List (List Char)) : List Char := parts.flatMap ('/' :: ·)

/-- The name and password in front of a host. -/
def userinfoText (username password : List Char) : List Char :=
  if username.isEmpty && password.isEmpty then []
  else username ++ (if password.isEmpty then [] else ':' :: password) ++ ['@']

/-- What stands between the two slashes and the path. -/
def authorityText (u : Url) (host : Host) : List Char :=
  userinfoText u.username u.password ++ host.text ++
    match u.port with
    | none => []
    | some p => ':' :: Text.decimal p

/-- The path. Without a host it must not start with two slashes. -/
def pathText (u : Url) : List Char :=
  match u.path with
  | .plain s => s
  | .segments ([] :: part :: parts) =>
    (if u.host.isNone then ['/', '.'] else []) ++ segmentsText ([] :: part :: parts)
  | .segments parts => segmentsText parts

/-- Everything in front of the query. -/
def frontText (u : Url) : List Char :=
  u.scheme ++ ':' :: ((match u.host with
    | none => []
    | some h => ['/', '/'] ++ authorityText u h) ++ pathText u)

/-- The whole URL as characters. -/
def chars (u : Url) : List Char :=
  frontText u ++ (match u.query with
    | none => []
    | some q => '?' :: q) ++
    match u.fragment with
    | none => []
    | some f => '#' :: f

/-- The whole URL. -/
def text (u : Url) : String := String.ofList u.chars

/-- The names with values in the query. -/
def pairs (u : Url) : List (String × String) := Form.parse (u.query.getD [])

/-- The same URL with a name given a value in its query. -/
def withParameter (u : Url) (name value : String) : Url :=
  { u with query := some (Form.text (Form.put name value u.pairs)) }

end Url

end Vignette

import Vignette.Text.Blank
import Vignette.Text.Quoted

/-!
# Identities

A page is rendered for somebody: a user name, if there is one, and the session cookies that open
the page. Without either the page is loaded anonymously.

A cookie is written `NAME=VALUE`. The name is what stands before the FIRST `=`, without the white
space around it, and must not be empty; the value is everything after it, as it stands.
-/

namespace Vignette

/-- A session cookie. -/
structure Cookie where
  name : String
  value : String
  deriving DecidableEq, Repr

namespace Cookie

/-- Why a text is no cookie: the text. -/
structure Malformed where
  input : String
  deriving DecidableEq, Repr

/-- The sentence that a message shows. -/
def Malformed.message (e : Malformed) : String :=
  s!"Invalid cookie {Text.quoted e.input}, expected NAME=VALUE"

/-- The written form. -/
def write (c : Cookie) : String := c.name ++ "=" ++ c.value

/-- The name and the value of a text that has the form of a cookie. -/
def read? (s : List Char) : Option (List Char × List Char) :=
  match s.span (· != '=') with
  | (_, []) => none
  | (name, _ :: value) => if Text.trim name = [] then none else some (Text.trim name, value)

/-- The cookie that a text denotes. -/
def parse (input : String) : Except Malformed Cookie :=
  match read? input.toList with
  | none => .error ⟨input⟩
  | some (name, value) => .ok ⟨String.ofList name, String.ofList value⟩

end Cookie

/-- Whom a page is rendered for. -/
structure Identity where
  username : Option String
  cookies : List Cookie
  deriving DecidableEq, Repr

namespace Identity

/-- Nobody in particular. -/
def anonymous : Identity := ⟨none, []⟩

/-- A user without cookies. -/
def user (name : String) : Identity := ⟨some name, []⟩

/-- The same identity with one more cookie, after the others. -/
def withCookie (i : Identity) (c : Cookie) : Identity := { i with cookies := i.cookies ++ [c] }

/-- Neither a name nor a cookie? -/
def isAnonymous (i : Identity) : Bool := i.username.isNone && i.cookies.isEmpty

end Identity

end Vignette

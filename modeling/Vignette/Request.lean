import Vignette.Settings
import Vignette.Url.Parser

/-!
# Requests

A request says which page is wanted and at which sizes. Its address is brought into the standalone
mode of its kind when the request is made, so every request has one; sizes that are not given are
those of the kind. A request does not change afterwards.
-/

namespace Vignette

/-- The address in a text, with a name given a value in its query. -/
def withParameter (address name value : String) : Except Failure Url :=
  match Url.parse address with
  | .error e => .error (.address (address ++ ": " ++ e.message))
  | .ok u => .ok (u.withParameter name value)

/-- A page that is wanted. -/
structure Request where
  kind : Kind
  address : String
  /-- What the page shows, in short: it changes when the page's contents do. -/
  digest : String
  window : Size
  thumb : Size
  deriving DecidableEq, Repr

namespace Request

/-- The parameter that switches a page's standalone mode. -/
def modeParameter : String := "standalone"

/-- The request for a page; sizes that are not given are those of its kind. -/
def make (kind : Kind) (address digest : String) (window thumb : Option Size) :
    Except Failure Request :=
  match withParameter address modeParameter kind.standaloneMode with
  | .error e => .error e
  | .ok u =>
    .ok {
      kind := kind
      address := u.text
      digest := digest
      window := window.getD kind.defaultSizes.window
      thumb := thumb.getD kind.defaultSizes.thumb }

/-- The selector of the element that is captured. -/
def selector (r : Request) : String := r.kind.selector

end Request

/-- The request for a page, at the sizes that are set for its kind. -/
def Settings.request (c : Settings) (kind : Kind) (address digest : String) :
    Except Failure Request :=
  Request.make kind address digest (some (c.sizes kind).window) (some (c.sizes kind).thumb)

end Vignette

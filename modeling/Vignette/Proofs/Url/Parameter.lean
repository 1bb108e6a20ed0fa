import Vignette.Proofs.Url.Form
import Vignette.Proofs.Url.Reading
import Vignette.Request

/-!
# A parameter in an address

A name is given a value in the query of an address. The query is read, changed and written anew, so it
may be spelled in another way afterwards; but what it says is what the change makes of what it said
(`Form.IsPut`), and nothing else of the address is touched. All this is true of the text that comes out,
cut anew.

Main statement: **an address that can be read takes a parameter, and a request for the page carries the
standalone mode of its kind once, with all other parameters of the address in order**
(`parameter_put`); an address that cannot be read is refused, with the reason.
-/

namespace Vignette

open Url (pairsOf frontOf fragmentOf?)
open Url.Form (IsPut)

/-- A URL with a name given a value in its query: the names with values change as they should, every
    other part is the same, and all parts stand in the text. -/
structure Url.Rewritten (name value : String) (u v : Url) : Prop where
  pairs : IsPut name value u.pairs v.pairs
  scheme : v.scheme = u.scheme
  username : v.username = u.username
  password : v.password = u.password
  host : v.host = u.host
  port : v.port = u.port
  path : v.path = u.path
  fragment : v.fragment = u.fragment
  front_text : frontOf v.text.toList = u.frontText
  pairs_text : pairsOf v.text = v.pairs
  fragment_text : fragmentOf? v.text.toList = u.fragment

section Parameter

variable {u : Url} {name value : String}

theorem Url.Tidy.withParameter (h : u.Tidy) : (u.withParameter name value).Tidy :=
  h.with_query (Form.hash_not_mem_text _)

/-- What is written into the query is read back. -/
theorem Url.pairs_withParameter (u : Url) (name value : String) :
    (u.withParameter name value).pairs = Form.put name value u.pairs := Form.parse_text _

/-- **A tidy URL is rewritten as it should be.** -/
theorem Url.Tidy.rewritten (h : u.Tidy) : u.Rewritten name value (u.withParameter name value) where
  pairs := by
    rw [pairs_withParameter]
    exact Form.isPut_put name value u.pairs
  scheme := rfl
  username := rfl
  password := rfl
  host := rfl
  port := rfl
  path := rfl
  fragment := rfl
  front_text := by
    rw [text, String.toList_ofList, h.withParameter.front_of]
    rfl
  pairs_text := h.withParameter.pairs_of
  fragment_text := by
    rw [text, String.toList_ofList, h.withParameter.fragment_of]
    rfl

/-- The parameters of a rewritten URL's own text. -/
theorem Url.Rewritten.own {v : Url} (h : u.Rewritten name value v) :
    (pairsOf v.text).filter (·.1 = name) = [(name, value)] := by
  rw [h.pairs_text]
  exact h.pairs.own

theorem Url.Rewritten.others {v : Url} (h : u.Rewritten name value v) :
    (pairsOf v.text).filter (·.1 ≠ name) = u.pairs.filter (·.1 ≠ name) := by
  rw [h.pairs_text]
  exact h.pairs.others

end Parameter

/-- **An address takes a parameter if it can be read, and only then.** The names with values of the result
    are those of the address, in order, with the first of that name given the value and the later ones
    gone, or the pair added at the end; every other part is that of the address. So every request carries
    the standalone mode of its kind once, and all other parameters of its address in order. -/
theorem parameter_put (address name value : String) :
    match Url.parse address with
    | .error e =>
      withParameter address name value = .error (.address (address ++ ": " ++ e.message)) ∧
      ∀ kind digest window thumb, Request.make kind address digest window thumb =
        .error (.address (address ++ ": " ++ e.message))
    | .ok u =>
      (∃ v, withParameter address name value = .ok v ∧ u.Rewritten name value v) ∧
      ∀ kind digest window thumb, ∃ r, Request.make kind address digest window thumb = .ok r ∧
        (pairsOf r.address).filter (·.1 = Request.modeParameter) =
          [(Request.modeParameter, kind.standaloneMode)] ∧
        (pairsOf r.address).filter (·.1 ≠ Request.modeParameter) =
          u.pairs.filter (·.1 ≠ Request.modeParameter) := by
  cases hparse : Url.parse address with
  | error e =>
    have hput (name value : String) :
        withParameter address name value = .error (.address (address ++ ": " ++ e.message)) := by
      rw [withParameter, hparse]
    refine ⟨hput name value, fun kind digest window thumb => ?_⟩
    rw [Request.make, hput]
  | ok u =>
    have hput (name value : String) : withParameter address name value = .ok (u.withParameter name value) := by
      rw [withParameter, hparse]
    have htidy := Url.tidy_of_parse hparse
    refine ⟨⟨_, hput name value, htidy.rewritten⟩, fun kind digest window thumb => ?_⟩
    rw [Request.make, hput]
    exact ⟨_, rfl, htidy.rewritten.own, htidy.rewritten.others⟩

end Vignette

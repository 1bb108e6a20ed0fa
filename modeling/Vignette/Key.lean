import Vignette.Digest
import Vignette.Failure
import Vignette.Json.Tree
import Vignette.Kind

/-!
# Keys

A stored thumbnail is found under a key: the SHA-256 of a small JSON text that says what was
rendered (kind and content digest) and how (window and thumbnail sizes). The members of the text
stand in the order of their names, so the text, and with it the key, depends on the values alone.

A key is 64 lower-case hexadecimal digits and nothing else; that is a part of the type, so a key is
safe as a file name wherever it comes from. `Key.derive` makes one, `Key.parse` takes one back from
text.
-/

namespace Vignette

/-- Is the text 64 lower-case hexadecimal digits? -/
def isKeyText (s : List Char) : Bool := s.length == 64 && s.all Digest.isDigit

/-- The name of a stored thumbnail. -/
structure Key where
  text : String
  valid : isKeyText text.toList = true
  deriving DecidableEq

namespace Key

instance : ToString Key := ⟨text⟩

/-- What a key says of a picture: its members, in no order. -/
def members (kind : Kind) (digest : String) (window thumb : Size) : List (String × Json) := [
  ("thumbnail_type", .string kind.name),
  ("digest", .string digest),
  ("type", .string "thumb"),
  ("window_size", .array [.number window.width.toNat, .number window.height.toNat]),
  ("thumb_size", .array [.number thumb.width.toNat, .number thumb.height.toNat])]

/-- The value whose text is hashed. -/
def material (kind : Kind) (digest : String) (window thumb : Size) : Json :=
  .object (Json.sortMembers (members kind digest window thumb))

/-- A written hash is a key text. -/
theorem isKeyText_hexDigits (s : Digest.State) : isKeyText (Digest.hexDigits s) = true := by
  simp only [isKeyText, Digest.length_hexDigits, beq_self_eq_true, Bool.true_and, List.all_eq_true]
  exact fun c hc => Digest.isDigit_of_mem_hexDigits hc

/-- The key of a hash. -/
def ofHash (s : Digest.State) : Key :=
  ⟨String.ofList (Digest.hexDigits s), by rw [String.toList_ofList]; exact isKeyText_hexDigits s⟩

/-- The key of a page picture. -/
def derive (kind : Kind) (digest : String) (window thumb : Size) : Key :=
  ofHash (Digest.sha256 (material kind digest window thumb).text.toUTF8)

/-- The key that a text is, if it is one. -/
def parse? (s : String) : Option Key :=
  if h : isKeyText s.toList = true then some ⟨s, h⟩ else none

/-- The key that a text is, or the refusal that quotes it. -/
def parse (s : String) : Except StoreFailure Key :=
  match parse? s with
  | some k => .ok k
  | none => .error (.invalidKey s)

/-- Two keys with one text are one key. -/
theorem ext_text {a b : Key} (h : a.text = b.text) : a = b := by
  cases a; cases b; cases h; rfl

end Key

end Vignette

import Vignette.Json.Token

/-!
# Readers for typed values

A value of a known type is read straight from the text, so that what is wrong is found in the order
of the text. A record may stand as an object, its members in any order and with further members
among them, or as a list of its fields in their order. A name from a fixed set may stand as a string
or as the only member of an object whose value is null.

* `natural`, `truth`, `quoted`, `optional`, `list` -- the plain values;
* `choice` -- one of several names;
* `record` -- a record, from its `Layout`;
* `whole` -- a reader run on a whole text.
-/

namespace Vignette.Json

/-! ## 1. Plain values -/

/-- The fault for a value that is not the one expected, found out by reading on as far as needed. -/
def mismatch {α : Type} (expected : String) (s : List Char) : Except Fault α :=
  match s with
  | 'n' :: r =>
    match readWord ['u', 'l', 'l'] r with
    | .error e => .error e
    | .ok (_, r) => faultAt (.wrongType .null expected) r
  | 't' :: r =>
    match readWord ['r', 'u', 'e'] r with
    | .error e => .error e
    | .ok (_, r) => faultAt (.wrongType (.bool true) expected) r
  | 'f' :: r =>
    match readWord ['a', 'l', 's', 'e'] r with
    | .error e => .error e
    | .ok (_, r) => faultAt (.wrongType (.bool false) expected) r
  | '-' :: r =>
    match readNumeral false r with
    | .error e => .error e
    | .ok (n, r) => faultAt (.wrongType n.found expected) r
  | '"' :: r =>
    match readString r with
    | .error e => .error e
    | .ok (t, r) => faultAt (.wrongType (.string t) expected) r
  | '[' :: r => faultAt (.wrongType .list expected) ('[' :: r)
  | '\x7b' :: r => faultAt (.wrongType .object expected) ('\x7b' :: r)
  | s =>
    if startsWithDigit s then
      match readNumeral true s with
      | .error e => .error e
      | .ok (n, r) => faultAt (.wrongType n.found expected) r
    else faultNext .noValue s

/-- The number that was read, if it is natural and below `bound`. -/
def fitNatural (bound : Nat) (expected : String) (n : Numeral) (r : List Char) :
    Except Fault (Nat × List Char) :=
  match n with
  | .natural n =>
    if n < bound then .ok (n, r) else faultAt (.wrongValue (.natural n) expected) r
  | .negative n => faultAt (.wrongValue (.negative n) expected) r
  | .float x => faultAt (.wrongType (.float x) expected) r

/-- A natural number below `bound`. -/
def natural (bound : Nat) (expected : String) : Reader Nat := fun s =>
  match skipBlanks s with
  | [] => faultNext .endInValue []
  | '-' :: r =>
    match readNumeral false r with
    | .error e => .error e
    | .ok (n, r) => fitNatural bound expected n r
  | s =>
    if startsWithDigit s then
      match readNumeral true s with
      | .error e => .error e
      | .ok (n, r) => fitNatural bound expected n r
    else mismatch expected s

/-- A truth value. -/
def truth : Reader Bool := fun s =>
  match skipBlanks s with
  | [] => faultNext .endInValue []
  | 't' :: r =>
    match readWord ['r', 'u', 'e'] r with
    | .error e => .error e
    | .ok (_, r) => .ok (true, r)
  | 'f' :: r =>
    match readWord ['a', 'l', 's', 'e'] r with
    | .error e => .error e
    | .ok (_, r) => .ok (false, r)
  | s => mismatch "a boolean" s

/-- A string; `expected` says what it is good for. -/
def quoted (expected : String) : Reader String := fun s =>
  match skipBlanks s with
  | [] => faultNext .endInValue []
  | '"' :: r => readString r
  | s => mismatch expected s

/-- Null. -/
def nothing : Reader Unit := fun s =>
  match skipBlanks s with
  | [] => faultNext .endInValue []
  | 'n' :: r => readWord ['u', 'l', 'l'] r
  | s => mismatch "unit" s

/-- Null for none, or a value. -/
def optional {α : Type} (read : Reader α) : Reader (Option α) := fun s =>
  match skipBlanks s with
  | 'n' :: r =>
    match readWord ['u', 'l', 'l'] r with
    | .error e => .error e
    | .ok (_, r) => .ok (none, r)
  | s =>
    match read s with
    | .error e => .error e
    | .ok (a, r) => .ok (some a, r)

/-! ## 2. Lists -/

/-- Is there another item? If so the text is left in front of it, commas taken, and else behind the
    list. -/
def nextItem (first : Bool) : Reader Bool := fun s =>
  match skipBlanks s with
  | [] => faultNext .endInList []
  | ']' :: r => .ok (false, r)
  | s =>
    if first then .ok (true, s)
    else
      match s with
      | ',' :: r =>
        match skipBlanks r with
        | [] => faultNext .endInValue []
        | ']' :: r => faultNext .commaAtEnd (']' :: r)
        | r => .ok (true, r)
      | s => faultNext .noListEnd s

/-- The items of a list, behind its bracket. Each item takes at least one character, so `fuel` is
    the length of the text. -/
def items {α : Type} (read : Reader α) : (fuel : Nat) → (first : Bool) → Reader (List α)
  | 0, _, s => faultAt .endInList s
  | fuel + 1, first, s =>
    match nextItem first s with
    | .error e => .error e
    | .ok (false, r) => .ok ([], r)
    | .ok (true, r) =>
      match read r with
      | .error e => .error e
      | .ok (a, r) =>
        match items read fuel false r with
        | .error e => .error e
        | .ok (as, r) => .ok (a :: as, r)

/-- A list. -/
def list {α : Type} (read : Reader α) : Reader (List α) := fun s =>
  match skipBlanks s with
  | [] => faultNext .endInValue []
  | '[' :: r => items read (r.length + 1) true r
  | s => mismatch "a sequence" s

/-! ## 3. Names from a fixed set -/

/-- What a name stands for. -/
def known {α : Type} (variants : List (String × α)) : Reader α := fun s =>
  match quoted "variant identifier" s with
  | .error e => .error e
  | .ok (name, r) =>
    match variants.lookup name with
    | some a => .ok (a, r)
    | none => faultAt (.unknownVariant name (variants.map Prod.fst)) r

/-- One of several names, as a string or as a member whose value is null. -/
def choice {α : Type} (variants : List (String × α)) : Reader α := fun s =>
  match skipBlanks s with
  | [] => faultNext .endInValue []
  | '"' :: r => known variants ('"' :: r)
  | '\x7b' :: r =>
    match known variants r with
    | .error e => .error e
    | .ok (a, r) =>
      match skipBlanks r with
      | [] => faultNext .endInObject []
      | ':' :: r =>
        match nothing r with
        | .error e => .error e
        | .ok (_, r) =>
          match skipBlanks r with
          | [] => faultAt .endInObject []
          | '\x7d' :: r => .ok (a, r)
          | r => faultAt .noValue r
      | r => faultNext .noColon r
  | s => faultNext .noValue s

/-! ## 4. Records -/

/-- A field of a record that is put together in a `σ`. -/
structure Slot (σ : Type) where
  name : String
  /-- Must the member be there? -/
  required : Bool
  /-- Reads the value and puts it in its place. -/
  read : Reader (σ → σ)

/-- How a record is read. -/
structure Layout (σ : Type) where
  /-- What is expected, as messages say it. -/
  title : String
  /-- The fields in their order. -/
  slots : List (Slot σ)
  /-- The record before anything is read. -/
  start : σ
  /-- What a list that is too short should have been; `none` if it may be short. -/
  full : Option String
  /-- Are members with other names refused? -/
  closed : Bool

namespace Layout

variable {σ : Type}

/-- The names of the fields. -/
def names (l : Layout σ) : List String := l.slots.map Slot.name

/-- The field with a name. -/
def slot? (l : Layout σ) (name : String) : Option (Slot σ) := l.slots.find? (·.name == name)

/-- The first field that must be there and is not. -/
def missing? (l : Layout σ) (seen : List String) : Option (Slot σ) :=
  l.slots.find? fun slot => slot.required && !seen.contains slot.name

end Layout

/-- The text behind the brace that ends an object, if it comes next. -/
def closeObject (s : List Char) : List Char :=
  match skipBlanks s with
  | '\x7d' :: r => r
  | r => r

/-- The text behind the bracket that ends a list, or behind a comma, if one comes next. -/
def closeList (s : List Char) : List Char :=
  match skipBlanks s with
  | ']' :: r => r
  | ',' :: r => skipBlanks r
  | r => r

/-- Is there another member? If so the text is left behind the quote that opens its name, and else
    behind the object. -/
def nextName (first : Bool) : Reader Bool := fun s =>
  match skipBlanks s with
  | [] => faultNext .endInObject []
  | '\x7d' :: r => .ok (false, r)
  | s =>
    if first then
      match s with
      | '"' :: r => .ok (true, r)
      | s => faultNext .keyNotString s
    else
      match s with
      | ',' :: r =>
        match skipBlanks r with
        | [] => faultNext .endInValue []
        | '"' :: r => .ok (true, r)
        | '\x7d' :: r => faultNext .commaAtEnd ('\x7d' :: r)
        | r => faultNext .keyNotString r
      | s => faultNext .noObjectEnd s

/-- The text behind the colon. -/
def skipColon (s : List Char) : Except Fault (List Char) :=
  match skipBlanks s with
  | [] => faultNext .endInObject []
  | ':' :: r => .ok r
  | r => faultNext .noColon r

/-- The value of the member called `name`, put in its place. -/
def readMember {σ : Type} (l : Layout σ) (seen : List String) (value : σ) (name : String)
    (s : List Char) : Except Fault ((List String × σ) × List Char) :=
  match l.slot? name with
  | some slot =>
    if seen.contains name then faultAt (.duplicateField name) (closeObject s)
    else
      match skipColon s with
      | .error e => .error e
      | .ok r =>
        match slot.read r with
        | .error e => .error e
        | .ok (put, r) => .ok ((name :: seen, put value), r)
  | none =>
    if l.closed then faultAt (.unknownField name l.names) (closeObject s)
    else
      match skipColon s with
      | .error e => .error e
      | .ok r =>
        match skipValue r with
        | .error e => .error e
        | .ok r => .ok ((seen, value), r)

/-- The members of an object, behind its brace. Each takes at least one character, so `fuel` is the
    length of the text. -/
def readMembers {σ : Type} (l : Layout σ) :
    (fuel : Nat) → (first : Bool) → (seen : List String) → σ → Reader σ
  | 0, _, _, _, s => faultAt .endInObject s
  | fuel + 1, first, seen, value, s =>
    match nextName first s with
    | .error e => .error e
    | .ok (false, r) =>
      match l.missing? seen with
      | some slot => faultAt (.missingField slot.name) r
      | none => .ok (value, r)
    | .ok (true, r) =>
      match readString r with
      | .error e => .error e
      | .ok (name, r) =>
        match readMember l seen value name r with
        | .error e => .error e
        | .ok ((seen, value), r) => readMembers l fuel false seen value r

/-- The end of a list whose fields are all read. -/
def endOfList (s : List Char) : Except Fault (List Char) :=
  match skipBlanks s with
  | [] => faultNext .endInList []
  | ']' :: r => .ok r
  | ',' :: r =>
    match skipBlanks r with
    | ']' :: r => faultNext .commaAtEnd (']' :: r)
    | r => faultNext .textAtEnd r
  | r => faultNext .textAtEnd r

/-- The fields of a record that stands as a list, behind its bracket; `index` fields are read.
    The answer is the text at the end of the list, and whether the list has ended already. -/
def readFields {σ : Type} (full : Option String) :
    (slots : List (Slot σ)) → (index : Nat) → σ → Reader (σ × Bool)
  | [], _, value, s => .ok ((value, false), s)
  | slot :: slots, index, value, s =>
    match nextItem (index == 0) s with
    | .error e => .error e
    | .ok (false, r) =>
      match full with
      | some expected => faultAt (.wrongLength index expected) r
      | none => .ok ((value, true), r)
    | .ok (true, r) =>
      match slot.read r with
      | .error e => .error e
      | .ok (put, r) => readFields full slots (index + 1) (put value) r

/-- A record. `finish` makes the result of the fields, or says what is wrong with them together. -/
def record {σ α : Type} (l : Layout σ) (finish : σ → Except Cause α) : Reader α := fun s =>
  match skipBlanks s with
  | [] => faultNext .endInValue []
  | '\x7b' :: r =>
    match readMembers l (r.length + 1) true [] l.start r with
    | .error e => .error e
    | .ok (value, r) =>
      match finish value with
      | .error cause => faultAt cause r
      | .ok a => .ok (a, r)
  | '[' :: r =>
    match readFields l.full l.slots 0 l.start r with
    | .error e => .error e
    | .ok ((value, ended), r) =>
      match finish value with
      | .error cause => faultAt cause (if ended then r else closeList r)
      | .ok a =>
        if ended then .ok (a, r)
        else
          match endOfList r with
          | .error e => .error e
          | .ok r => .ok (a, r)
  | s => mismatch l.title s

/-! ## 5. Whole texts -/

/-- A reader run on a whole text: nothing but blanks may be left. -/
def readAll {α : Type} (read : Reader α) (s : List Char) : Except Fault α :=
  match read s with
  | .error e => .error e
  | .ok (a, r) =>
    match skipBlanks r with
    | [] => .ok a
    | r => faultNext .textAtEnd r

/-- A reader run on a whole text; what is wrong is said in a sentence. -/
def whole {α : Type} (read : Reader α) (text : String) : Except String α :=
  match readAll read text.toList with
  | .error e => .error (e.message text.toList)
  | .ok a => .ok a

end Vignette.Json

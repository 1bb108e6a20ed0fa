import Vignette.Text.Decimal
import Vignette.Url.Domain
import Vignette.Url.Percent

/-!
# Hosts

The host of a URL is a name, an IPv4 address or an IPv6 address. In a special scheme a name is a
domain name, and a domain name whose last part is a number must be an IPv4 address; elsewhere it is
taken as it stands, but for a few characters.

An IPv4 address may be written with fewer than four parts, the last one filling up, and each part in
decimal, octal (`0…`) or hexadecimal (`0x…`) digits. An IPv6 address is written with its longest run
of at least two zeros left out.
-/

namespace Vignette.Url

/-- The host of a URL. -/
inductive Host
  | named (text : List Char)
  | ipv4 (address : Nat)
  /-- Eight numbers of 16 bits. -/
  | ipv6 (pieces : List Nat)
  deriving DecidableEq, Repr

/-- Why a text is no URL. -/
inductive ParseError
  | noScheme
  | emptyHost
  | port
  | domainName
  | domainCharacter
  | ipv4
  | ipv6
  deriving DecidableEq, Repr

/-- The sentence that a message shows. -/
def ParseError.message : ParseError → String
  | noScheme => "relative URL without a base"
  | emptyHost => "empty host"
  | port => "invalid port number"
  | domainName => "invalid international domain name"
  | domainCharacter => "invalid domain character"
  | ipv4 => "invalid IPv4 address"
  | ipv6 => "invalid IPv6 address"

/-! ## 1. IPv4 -/

/-- The number of a part of an IPv4 address. -/
def ipv4Number? (s : List Char) : Option Nat :=
  let read (base : Nat) (ds : List Char) : Option Nat :=
    ds.foldlM (fun n c =>
      match Text.hexDigitValue? c with
      | some d => if d < base then some (n * base + d) else none
      | none => none) 0
  match s with
  | [] => none
  | '0' :: 'x' :: ds | '0' :: 'X' :: ds => read 16 ds
  | '0' :: d :: ds => read 8 (d :: ds)
  | ds => read 10 ds

/-- The parts of a domain name, without the empty one behind a point at its end. -/
def domainParts (s : List Char) : List (List Char) :=
  let parts := Domain.splitPoints s
  if parts.getLast? = some [] then parts.dropLast else parts

/-- Must the domain name be an IPv4 address? It must if its last part is a number. -/
def endsInNumber (s : List Char) : Bool :=
  match (domainParts s).getLast? with
  | none => false
  | some last => (!last.isEmpty && last.all Text.isDigit) || (ipv4Number? last).isSome

/-- The address of one to four numbers: each but the last is a byte. -/
def ipv4Address? (numbers : List Nat) : Option Nat :=
  match numbers.reverse with
  | [] => none
  | last :: bytes =>
    if 3 < bytes.length ∨ Nat.pow 256 (4 - bytes.length) ≤ last ∨ bytes.any (255 < ·) then none
    else some (bytes.reverse.zipIdx.foldl (fun a (b, i) => a + b * Nat.pow 256 (3 - i)) last)

/-- The address that a domain name ending in a number denotes. -/
def readIpv4 (s : List Char) : Except ParseError Nat :=
  match ((domainParts s).mapM ipv4Number?).bind ipv4Address? with
  | some a => .ok a
  | none => .error .ipv4

/-- An address in four decimal parts. -/
def ipv4Text (a : Nat) : List Char :=
  List.intercalate ['.'] ([3, 2, 1, 0].map fun i => Text.decimal (a / Nat.pow 256 i % 256))

/-! ## 2. IPv6 -/

/-- A number below 256 in decimal digits without leading zeros, and the rest. -/
def takeByte? (s : List Char) : Option (Nat × List Char) :=
  match s.span Text.isDigit with
  | ([], _) => none
  | (ds, rest) =>
    if (1 < ds.length ∧ ds.head? = some '0') ∨ 255 < Text.digitsValue ds then none
    else some (Text.digitsValue ds, rest)

/-- The text behind a point. -/
def behindPoint? (s : List Char) : Option (List Char) :=
  match s with
  | '.' :: r => some r
  | _ => none

/-- The last two pieces of an address, written as an IPv4 address. -/
def embeddedIpv4? (s : List Char) : Option (List Nat) := do
  let (a, s) ← takeByte? s
  let s ← behindPoint? s
  let (b, s) ← takeByte? s
  let s ← behindPoint? s
  let (c, s) ← takeByte? s
  let s ← behindPoint? s
  let (d, s) ← takeByte? s
  if s.isEmpty then some [a * 256 + b, c * 256 + d] else none

/-- Reads pieces behind those there are; `gap` is the place behind the two colons, and the zero
    piece that they stand for at least is among the pieces. Each step takes at least one character,
    so `fuel` is the length of the text. -/
def readPieces : (fuel : Nat) → List Char → (pieces : List Nat) → (gap : Option Nat) →
    Option (List Nat × Option Nat)
  | 0, _, _, _ => none
  | _ + 1, [], pieces, gap => some (pieces, gap)
  | fuel + 1, c :: s, pieces, gap =>
    if pieces.length = 8 then none
    else if c = ':' then
      if gap.isSome then none else readPieces fuel s (pieces ++ [0]) (some (pieces.length + 1))
    else
      let all := c :: s
      let digits := (all.take 4).takeWhile fun d => (Text.hexDigitValue? d).isSome
      let value := digits.foldl (fun n d => n * 16 + (Text.hexDigitValue? d).getD 0) 0
      match all.drop digits.length with
      | [] => some (pieces ++ [value], gap)
      | '.' :: _ =>
        if digits.isEmpty ∨ 6 < pieces.length then none
        else (embeddedIpv4? all).map fun two => (pieces ++ two, gap)
      | ':' :: rest =>
        if rest.isEmpty then none else readPieces fuel rest (pieces ++ [value]) gap
      | _ => none

/-- The address between the brackets. -/
def readIpv6? (s : List Char) : Option (List Nat) :=
  let read :=
    match s with
    | ':' :: ':' :: rest => readPieces (s.length + 1) rest [0] (some 1)
    | ':' :: _ => none
    | [] => none
    | [_] => none
    | s => readPieces (s.length + 1) s [] none
  match read with
  | none => none
  | some (pieces, none) => if pieces.length = 8 then some pieces else none
  | some (pieces, some gap) =>
    some (pieces.take gap ++ List.replicate (8 - pieces.length) 0 ++ pieces.drop gap)

/-- How many zeros come next. -/
def zeros (pieces : List Nat) : Nat := (pieces.takeWhile (· == 0)).length

/-- The place and the length of the first longest run of at least two zeros. -/
def longestZeros? (pieces : List Nat) : Option (Nat × Nat) :=
  (List.range pieces.length).foldl (fun best i =>
    let n := zeros (pieces.drop i)
    match best with
    | some (_, m) => if m < n then some (i, n) else best
    | none => if 2 ≤ n then some (i, n) else none) none

/-- Pieces in hexadecimal digits, with colons between. -/
def piecesText (pieces : List Nat) : List Char :=
  List.intercalate [':'] (pieces.map (Nat.toDigits 16))

/-- An address, its longest run of zeros left out. -/
def ipv6Text (pieces : List Nat) : List Char :=
  match longestZeros? pieces with
  | none => piecesText pieces
  | some (i, n) => piecesText (pieces.take i) ++ [':', ':'] ++ piecesText (pieces.drop (i + n))

/-! ## 3. Hosts -/

namespace Host

/-- The text of a host. -/
def text : Host → List Char
  | named s => s
  | ipv4 a => ipv4Text a
  | ipv6 ps => '[' :: (ipv6Text ps ++ [']'])

/-- A host in brackets. -/
def readBracketed (s : List Char) : Except ParseError Host :=
  match s.getLast? with
  | some ']' =>
    match readIpv6? s.dropLast with
    | some ps => .ok (ipv6 ps)
    | none => .error .ipv6
  | _ => .error .ipv6

/-- The host of a special scheme. -/
def readDomain (s : List Char) : Except ParseError Host :=
  match s with
  | '[' :: rest => readBracketed rest
  | s =>
    match String.fromUTF8? ⟨(percentDecode (Text.encodeUtf8 s)).toArray⟩ with
    | none => .error .domainName
    | some decoded =>
      match Domain.toAscii? decoded.toList with
      | none => .error .domainName
      | some [] => .error .emptyHost
      | some name => if endsInNumber name then (readIpv4 name).map ipv4 else .ok (named name)

/-- The characters that may not stand in a host of any scheme. -/
def isForbidden (c : Char) : Bool :=
  ['\x00', '\t', '\n', '\r', ' ', '#', '/', ':', '<', '>', '?', '@', '[', '\\', ']', '^', '|'].contains
    c

/-- The host of a scheme that is not special. -/
def readPlain (s : List Char) : Except ParseError Host :=
  match s with
  | '[' :: rest => readBracketed rest
  | s =>
    if s.any isForbidden then .error .domainCharacter else .ok (named (percentEncode isControl s))

end Host

end Vignette.Url

import Vignette.Text.Hidden

/-!
# Quoted text

Messages quote the text that they complain about: between double quotes, with a backslash before
a quote or a backslash, with the four short escapes for line ends, tab and NUL, and with every
hidden character (`Vignette.Text.Hidden`) as its number in braces. A single quote stays as it is.
-/

namespace Vignette.Text

/-- The hexadecimal digits of a number, in lower case. -/
def hexDigits (n : Nat) : List Char := Nat.toDigits 16 n

/-- One character as it stands in a quoted text. -/
def quoteChar (c : Char) : List Char :=
  if c = '"' then ['\\', '"']
  else if c = '\\' then ['\\', '\\']
  else if c = '\n' then ['\\', 'n']
  else if c = '\r' then ['\\', 'r']
  else if c = '\t' then ['\\', 't']
  else if c.toNat = 0 then ['\\', '0']
  else if isHidden c then ['\\', 'u', '\x7b'] ++ hexDigits c.toNat ++ ['\x7d']
  else [c]

/-- A text between double quotes, escaped character by character. -/
def quote (s : List Char) : List Char := '"' :: (s.flatMap quoteChar ++ ['"'])

/-- A string between double quotes, escaped character by character. -/
def quoted (s : String) : String := String.ofList (quote s.toList)

end Vignette.Text

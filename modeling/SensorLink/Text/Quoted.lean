import SensorLink.Text.Hidden
import SensorLink.Text.Hex

/-!
# Quoted text

Error texts quote what the user wrote. Inside the quotes stands the text itself, but for the quote
and the backslash, the usual control characters, and the characters that are not shown as
themselves, which appear by their code.
-/

namespace SensorLink.Text

/-- A character by its code, `\u{…}`. -/
def byCode (c : Char) : List Char :=
  ['\\', 'u', '{'] ++ Nat.toDigits 16 c.toNat ++ ['}']

/-- A character inside quotes of the given kind. -/
def escapeWithin (delimiter : Char) (c : Char) : List Char :=
  if c = '\x00' then ['\\', '0']
  else if c = '\t' then ['\\', 't']
  else if c = '\r' then ['\\', 'r']
  else if c = '\n' then ['\\', 'n']
  else if c = '\\' then ['\\', '\\']
  else if c = delimiter then ['\\', c]
  else if isHidden c then byCode c
  else [c]

/-- A text between double quotes. -/
def quote (s : String) : String :=
  String.ofList ('"' :: (s.toList.flatMap (escapeWithin '"') ++ ['"']))

/-- A character between single quotes. -/
def quoteChar (c : Char) : String :=
  String.ofList ('\'' :: (escapeWithin '\'' c ++ ['\'']))

end SensorLink.Text

import SensorLink.Error.Basic
import SensorLink.Text.Blank

/-!
# Device ids

A module is named by a 64-bit number. It is printed on the module as sixteen hexadecimal digits, and
that is how the library shows it; people also type it with a `0x` in front, with fewer digits, or in
decimal. Digits alone are ambiguous, and the rule is their number: sixteen or more are the printed
form and so hexadecimal, fewer are decimal. White space around an id does not count.
-/

namespace SensorLink

/-- The number of a module. -/
abbrev DeviceId := UInt64

namespace DeviceId

/-- How many digits the printed form has. -/
def printedDigits : Nat := 16

/-- The printed form. -/
def display (id : DeviceId) : String := Hex.id64 id

/-- Whether a character is a hexadecimal digit. -/
def isHexDigit (c : Char) : Bool := (Hex.digitValue? c).isSome

/-- Whether a character is a decimal digit. -/
def isDigit (c : Char) : Bool := '0' ≤ c && c ≤ '9'

/-- The digits behind a prefix that marks them as hexadecimal. -/
def unprefixed? : List Char → Option (List Char)
  | '0' :: 'x' :: digits => some digits
  | '0' :: 'X' :: digits => some digits
  | _ => none

/-- Reads an id that has no white space around it. -/
def read? (cs : List Char) : Option Nat :=
  match unprefixed? cs with
  | some digits => (Text.Integer.read 16 (2 ^ 64) digits).toOption
  | none =>
    if cs.isEmpty || !cs.all isHexDigit then none
    else if cs.all isDigit && cs.length < printedDigits then
      (Text.Integer.read 10 (2 ^ 64) cs).toOption
    else (Text.Integer.read 16 (2 ^ 64) cs).toOption

/-- Reads an id; what is no id is handed back as it was typed. -/
def parse (text : String) : Except Error DeviceId :=
  match read? (Text.trim text.toList) with
  | some n => .ok (UInt64.ofNat n)
  | none => .error (.invalidDeviceId text)

end DeviceId
end SensorLink

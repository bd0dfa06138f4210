import SensorLink.Text.Hex

/-!
# Integers in text

An integer is written as digits in some base, with an optional plus sign. Three things can be wrong
with it, and each has its own text: there is nothing there, there is a character that is no digit,
or the number does not fit. Digits are looked at from left to right, so a number that has grown too
large is reported before a bad character that comes later.
-/

namespace SensorLink.Text.Integer

/-- Why a text is not an integer below the limit. -/
inductive Fault where
  | empty
  | invalidDigit
  | tooLarge
  deriving DecidableEq, Repr

/-- What is said about a fault. -/
def Fault.message : Fault → String
  | .empty => "cannot parse integer from empty string"
  | .invalidDigit => "invalid digit found in string"
  | .tooLarge => "number too large to fit in target type"

/-- The value of a digit of the base. -/
def digit? (base : Nat) (c : Char) : Option Nat :=
  (Hex.digitValue? c).filter (· < base)

/-- Reads the digits after a number `n`. -/
def readDigits (base limit n : Nat) : List Char → Except Fault Nat
  | [] => .ok n
  | c :: rest =>
    match digit? base c with
    | none => .error .invalidDigit
    | some d =>
      if limit ≤ n * base + d then .error .tooLarge else readDigits base limit (n * base + d) rest

/-- Reads an integer below `limit` in a base of at most sixteen. A plus sign needs a digit after
it. -/
def read (base limit : Nat) : List Char → Except Fault Nat
  | [] => .error .empty
  | ['+'] => .error .invalidDigit
  | '+' :: rest => readDigits base limit 0 rest
  | cs => readDigits base limit 0 cs

/-- Reads a 64-bit number in hexadecimal. -/
def readHex64 (cs : List Char) : Except Fault Nat := read 16 (2 ^ 64) cs

end SensorLink.Text.Integer

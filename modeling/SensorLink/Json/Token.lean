import SensorLink.Json.Number
import SensorLink.Text.Hex

/-!
# The tokens of a JSON text

A text is cut into tokens first. White space between tokens leaves no trace, so two texts that
differ only there have the same tokens and everything after this file is the same for both.

Where the text stops being JSON (a bad escape, a bare control character, a number with no digits)
the list of tokens ends in `broken`. What comes before it is still good, and a reader that finds a
fault of its own there reports that one.
-/

namespace SensorLink.Json

/-- One token of a JSON text. -/
inductive Token where
  | beginArray
  | endArray
  | beginObject
  | endObject
  | colon
  | comma
  | null
  | bool (b : Bool)
  | number (n : Number)
  | string (s : String)
  /-- From here on the text is no JSON. -/
  | broken
  deriving DecidableEq, Repr

namespace Token

/-- The white space of JSON. -/
def isBlank (c : Char) : Bool := c = ' ' || c = '\n' || c = '\t' || c = '\r'

/-- The value of an ASCII digit. -/
def digit? (c : Char) : Option Nat :=
  if '0' ≤ c ∧ c ≤ '9' then some (c.toNat - 48) else none

/-- The digits at the front and what follows them. -/
def digits : List Char → List Nat × List Char
  | [] => ([], [])
  | c :: rest =>
    match digit? c with
    | none => ([], c :: rest)
    | some d =>
      let (ds, after) := digits rest
      (d :: ds, after)

/-- The number that decimal digits spell. -/
def valueOf (ds : List Nat) : Nat := ds.foldl (fun n d => 10 * n + d) 0

/-- The digits of a fraction, after a point; `some none` where there is no point. -/
def fraction? : List Char → Option (Option (List Nat) × List Char)
  | '.' :: rest =>
    match digits rest with
    | ([], _) => none
    | (ds, after) => some (some ds, after)
  | rest => some (none, rest)

/-- The digits of an exponent. -/
def exponentDigits? (isNegative : Bool) (cs : List Char) : Option (Option Int × List Char) :=
  match digits cs with
  | ([], _) => none
  | (ds, after) =>
    let n : Int := valueOf ds
    some (some (if isNegative then -n else n), after)

/-- An exponent; `some none` where there is none. -/
def exponent? : List Char → Option (Option Int × List Char)
  | 'e' :: '+' :: rest | 'E' :: '+' :: rest => exponentDigits? false rest
  | 'e' :: '-' :: rest | 'E' :: '-' :: rest => exponentDigits? true rest
  | 'e' :: rest | 'E' :: rest => exponentDigits? false rest
  | rest => some (none, rest)

/-- An unsigned number: no leading zeros, and at least one digit on each side of a point. -/
def unsigned? (isNegative : Bool) (cs : List Char) : Option (Number × List Char) := do
  let (whole, rest) ← match digits cs with
    | ([], _) => none
    | (0 :: _ :: _, _) => none
    | found => some found
  let (fraction, rest) ← fraction? rest
  let (exponent, rest) ← exponent? rest
  let n ← Number.Literal.toNumber? ⟨isNegative, whole, fraction, exponent⟩
  pure (n, rest)

/-- The value of four hexadecimal digits. -/
def hex4? (a b c d : Char) : Option Nat := do
  let a ← Hex.digitValue? a
  let b ← Hex.digitValue? b
  let c ← Hex.digitValue? c
  let d ← Hex.digitValue? d
  pure (((a * 16 + b) * 16 + c) * 16 + d)

/-- The character of a one-letter escape. -/
def escaped? : Char → Option Char
  | '"' => some '"'
  | '\\' => some '\\'
  | '/' => some '/'
  | 'b' => some '\x08'
  | 'f' => some '\x0c'
  | 'n' => some '\n'
  | 'r' => some '\r'
  | 't' => some '\t'
  | _ => none

/-- Whether a UTF-16 unit is the first of a surrogate pair. -/
def isHigh (unit : Nat) : Bool := 0xD800 ≤ unit && unit ≤ 0xDBFF

/-- Whether a UTF-16 unit is the second of a surrogate pair. -/
def isLow (unit : Nat) : Bool := 0xDC00 ≤ unit && unit ≤ 0xDFFF

/-- The character of a surrogate pair. -/
def pair (high low : Nat) : Char :=
  Char.ofNat (0x10000 + (high - 0xD800) * 0x400 + (low - 0xDC00))

/-- The rest of a string after its opening quote. `seen` is what came before, last first, and `high`
the first half of a surrogate pair whose second half must come next. -/
def string? (seen : List Char) (high : Option Nat) : List Char → Option (String × List Char)
  | [] => none
  | '\\' :: 'u' :: a :: b :: c :: d :: rest =>
    match hex4? a b c d, high with
    | none, _ => none
    | some unit, some first =>
      if isLow unit then string? (pair first unit :: seen) none rest else none
    | some unit, none =>
      if isHigh unit then string? seen (some unit) rest
      else if isLow unit then none
      else string? (Char.ofNat unit :: seen) none rest
  | '\\' :: c :: rest =>
    match escaped? c, high with
    | some ch, none => string? (ch :: seen) none rest
    | _, _ => none
  | c :: rest =>
    match high with
    | some _ => none
    | none =>
      if c = '"' then some (String.ofList seen.reverse, rest)
      else if c < ' ' ∨ c = '\\' then none
      else string? (c :: seen) none rest

/-- The token at the front of a text that does not start with white space. -/
def next? : List Char → Option (Token × List Char)
  | '[' :: rest => some (.beginArray, rest)
  | ']' :: rest => some (.endArray, rest)
  | '{' :: rest => some (.beginObject, rest)
  | '}' :: rest => some (.endObject, rest)
  | ':' :: rest => some (.colon, rest)
  | ',' :: rest => some (.comma, rest)
  | 'n' :: 'u' :: 'l' :: 'l' :: rest => some (.null, rest)
  | 't' :: 'r' :: 'u' :: 'e' :: rest => some (.bool true, rest)
  | 'f' :: 'a' :: 'l' :: 's' :: 'e' :: rest => some (.bool false, rest)
  | '"' :: rest => (string? [] none rest).map fun (s, after) => (.string s, after)
  | '-' :: rest => (unsigned? true rest).map fun (n, after) => (.number n, after)
  | rest => (unsigned? false rest).map fun (n, after) => (.number n, after)

/-- The tokens of a text, at most `fuel` steps of them. -/
def scanUpTo : Nat → List Char → List Token
  | 0, _ => []
  | _ + 1, [] => []
  | fuel + 1, c :: rest =>
    if isBlank c then scanUpTo fuel rest
    else
      match next? (c :: rest) with
      | none => [.broken]
      | some (token, after) => token :: scanUpTo fuel after

/-- The tokens of a text. Every step takes a character, so as many steps as characters suffice. -/
def scan (text : List Char) : List Token := scanUpTo text.length text

end Token
end SensorLink.Json

import SensorLink.Json.Token

/-!
# Reading a double from the command line

A number of seconds on the command line is read exactly: the double nearest to the decimal that is
written. Digits may be missing on one side of the point, a sign may stand in front, and infinity and
not-a-number are numbers too, in letters of either case. There is no range to leave: too large a
number is infinity, too small a one is zero.
-/

namespace SensorLink.Decimal

open Json (Token.digits Token.valueOf Token.exponent?)

/-- Whether a text is the given lower-case word in letters of either case. -/
def isWord (word : String) (cs : List Char) : Bool :=
  cs.map Char.toLower == word.toList

/-- The digits of a number, before and after its point. -/
def parts (cs : List Char) : List Nat × List Nat × List Char :=
  let (whole, rest) := Token.digits cs
  match rest with
  | '.' :: rest =>
    let (fraction, after) := Token.digits rest
    (whole, fraction, after)
  | rest => (whole, [], rest)

/-- The double nearest to an unsigned decimal, infinity and not-a-number included. -/
def unsigned? (isNegative : Bool) (cs : List Char) : Option Binary64 :=
  if isWord "inf" cs ∨ isWord "infinity" cs then some (.infinity isNegative)
  else if isWord "nan" cs then some .nan
  else
    let (whole, fraction, rest) := parts cs
    if whole.isEmpty ∧ fraction.isEmpty then none
    else
      match Token.exponent? rest with
      | some (exponent, []) =>
        some (.ofDecimal isNegative (Token.valueOf (whole ++ fraction))
          (exponent.getD 0 - fraction.length))
      | _ => none

/-- The double that a text on the command line stands for. -/
def read? (text : String) : Option Binary64 :=
  match text.toList with
  | '+' :: rest => unsigned? false rest
  | '-' :: rest => unsigned? true rest
  | rest => unsigned? false rest

end SensorLink.Decimal

import SensorLink.Decimal.Binary64

/-!
# Spans of time

A timeout is a whole number of nanoseconds. It is written in tables and on the command line as a
number of seconds, which is rounded to the nearest nanosecond (halves to the even one), and it is
shown in the largest of four units that leaves a whole part, with as many decimals as it needs.

Clocks are coarser than that: a timer fires on a whole millisecond, the first one at which its span
has passed.
-/

namespace SensorLink

/-- A span of time in nanoseconds. -/
structure Duration where
  nanos : Nat
  deriving DecidableEq, Repr, Inhabited

namespace Duration

/-- Nanoseconds in a second. -/
def perSecond : Nat := 1000000000

/-- A whole number of seconds. -/
def seconds (n : Nat) : Duration := ⟨n * perSecond⟩

/-- A whole number of milliseconds. -/
def milliseconds (n : Nat) : Duration := ⟨n * 1000000⟩

/-- Why a number of seconds is no span of time. -/
inductive Fault where
  | negative
  /-- The number is `2 ^ 64` or more, or it is no number. -/
  | tooLarge
  deriving DecidableEq, Repr

/-- What is said about a fault. -/
def Fault.message : Fault → String
  | .negative => "cannot convert float seconds to Duration: value is negative"
  | .tooLarge => "cannot convert float seconds to Duration: value is either too big or NaN"

/-- The span of a number of seconds, to the nearest nanosecond. Negative zero is zero. -/
def ofSeconds (x : Binary64) : Except Fault Duration :=
  match x.view with
  | .nan => .error .tooLarge
  | .infinite isNegative => .error (if isNegative then .negative else .tooLarge)
  | .finite isNegative significand exponent =>
    let (num, den) := Binary64.asRatio significand exponent
    if isNegative ∧ significand ≠ 0 then .error .negative
    else if 2 ^ 64 * den ≤ num then .error .tooLarge
    else .ok ⟨Binary64.roundDiv (num * perSecond) den⟩

/-- The first whole number of milliseconds at which the span has passed. -/
def ticks (d : Duration) : Nat := (d.nanos + 999999) / 1000000

/-- A number of units, of which `places` decimal places are counted in `n`; zeros at the end are not
shown. -/
def decimal (n places : Nat) : String :=
  let whole := n / 10 ^ places
  let digits := Nat.toDigits 10 (n % 10 ^ places)
  let padded := List.replicate (places - digits.length) '0' ++ digits
  let shown := (padded.reverse.dropWhile (· = '0')).reverse
  if shown.isEmpty ∨ places = 0 then toString whole
  else toString whole ++ "." ++ String.ofList shown

/-- The span in the largest unit that leaves a whole part. -/
def text (d : Duration) : String :=
  if perSecond ≤ d.nanos then decimal d.nanos 9 ++ "s"
  else if 1000000 ≤ d.nanos then decimal d.nanos 6 ++ "ms"
  else if 1000 ≤ d.nanos then decimal d.nanos 3 ++ "µs"
  else decimal d.nanos 0 ++ "ns"

end Duration
end SensorLink

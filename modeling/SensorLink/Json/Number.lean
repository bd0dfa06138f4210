import SensorLink.Json.Value

/-!
# Reading a number of a JSON text

An integer that fits in 64 bits is kept exactly. Any other number becomes a double, and not always
the nearest one: its significand is the integer of the leading digits that fit in 64 bits, the power
of ten that is left is rounded to a double of its own, and the two are multiplied or divided with
one more rounding. For the numbers that people write in a table this *is* the nearest double; for
long digit strings and extreme exponents it can be a neighbour, and the neighbour is what is read.

A number whose magnitude is beyond the range of doubles is an error; one too small is zero.
-/

namespace SensorLink.Json.Number

/-- The first number that does not fit in 64 bits. -/
def limit : Nat := 2 ^ 64

/-- The parts of a number as it is written. `fraction` is `none` where there is no point. -/
structure Literal where
  negative : Bool
  whole : List Nat
  fraction : Option (List Nat)
  exponent : Option Int
  deriving DecidableEq, Repr

/-- The leading digits of an integer that fit, and how many digits were left out. -/
def takeWhole (significand : Nat) : List Nat → Nat × Nat
  | [] => (significand, 0)
  | d :: rest =>
    if limit ≤ significand * 10 + d then (significand, rest.length + 1)
    else takeWhole (significand * 10 + d) rest

/-- The digits after the point that still fit behind `significand`, and how many they are. -/
def takeFraction (significand : Nat) : List Nat → Nat × Nat
  | [] => (significand, 0)
  | d :: rest =>
    if limit ≤ significand * 10 + d then (significand, 0)
    else
      let (s, n) := takeFraction (significand * 10 + d) rest
      (s, n + 1)

/-- The largest power of ten that is used at once. -/
def maxPower : Nat := 308

/-- `x · 10 ^ exponent` for a non-negative double, rounded step by step; `none` beyond the range.
A negative exponent too large for one step takes steps of `10 ^ 308`, after the second of which
nothing is left. -/
def scale (x : Binary64) (exponent : Int) : Nat → Option Binary64
  | 0 => some (.zero false)
  | steps + 1 =>
    if exponent.natAbs ≤ maxPower then
      let power := Binary64.ofNat (10 ^ exponent.natAbs)
      if 0 ≤ exponent then
        let product := x.mul power
        if product.isInfinite then none else some product
      else some (x.div power)
    else if x.isZero then some x
    else if 0 ≤ exponent then none
    else scale (x.div (.ofNat (10 ^ maxPower))) (exponent + maxPower) steps

/-- The double that a literal is read as. -/
def Literal.toDouble? (l : Literal) : Option Binary64 :=
  let (whole, dropped) := takeWhole 0 l.whole
  let (significand, places) := takeFraction whole (l.fraction.getD [])
  let exponent : Int := dropped - places + l.exponent.getD 0
  (scale (.ofNat significand) exponent 4).map fun x => if l.negative then x.neg else x

/-- The number that a literal is read as; `none` if it is beyond the range of doubles. -/
def Literal.toNumber? (l : Literal) : Option Number :=
  match l.fraction, l.exponent, takeWhole 0 l.whole with
  | none, none, (n, 0) =>
    if !l.negative then some (.natural n)
    else if 0 < n ∧ n ≤ 2 ^ 63 then some (.negative n)
    else l.toDouble?.map .real
  | _, _, _ => l.toDouble?.map .real

end SensorLink.Json.Number

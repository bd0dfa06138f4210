import SensorLink.Power

/-!
# Doubles as bit patterns

Timeouts, light levels and the numbers of a JSON text are 64-bit floating point. They are kept here
as bit patterns and worked on in exact integer arithmetic: a finite double *is* a number `m · 2^e`,
and every operation that rounds is one function, `ofRatio`, applied to the exact result. So nothing
in the library depends on how a machine evaluates floating point, and a statement about a double is
a statement about two integers.

The rounding is to the nearest double, and of two equally near ones to the one whose significand is
even.
-/

namespace SensorLink

/-- A 64-bit floating point number, by its bits. -/
structure Binary64 where
  bits : UInt64
  deriving DecidableEq, Repr, Inhabited

namespace Binary64

/-- What a bit pattern stands for; a finite one is `± significand · 2 ^ exponent`. -/
inductive View where
  | nan
  | infinite (negative : Bool)
  | finite (negative : Bool) (significand : Nat) (exponent : Int)
  deriving DecidableEq, Repr

/-- Whether the sign bit is set. -/
def negative (x : Binary64) : Bool := decide (2 ^ 63 ≤ x.bits.toNat)

/-- The number behind a bit pattern. -/
def view (x : Binary64) : View :=
  let n := x.bits.toNat
  let biased : Nat := n / 2 ^ 52 % 2048
  let fraction : Nat := n % 2 ^ 52
  if biased = 2047 then
    if fraction = 0 then .infinite x.negative else .nan
  else if biased = 0 then .finite x.negative fraction (-1074)
  else .finite x.negative (fraction + 2 ^ 52) ((biased : Int) - 1075)

/-- The bit pattern with the given sign and magnitude bits. -/
def ofMagnitude (isNegative : Bool) (magnitude : Nat) : Binary64 :=
  ⟨UInt64.ofNat (if isNegative then 2 ^ 63 + magnitude else magnitude)⟩

/-- The infinity of the given sign. -/
def infinity (isNegative : Bool) : Binary64 := ofMagnitude isNegative (2047 * 2 ^ 52)

/-- The zero of the given sign. -/
def zero (isNegative : Bool) : Binary64 := ofMagnitude isNegative 0

/-- One pattern that is not a number. -/
def nan : Binary64 := ofMagnitude false (2047 * 2 ^ 52 + 2 ^ 51)

/-! ## Rounding -/

/-- The quotient rounded to the nearest integer, halves to the even one. -/
def roundDiv (num den : Nat) : Nat :=
  let q := num / den
  let r := num % den
  if den < 2 * r ∨ (2 * r = den ∧ q % 2 = 1) then q + 1 else q

/-- `num / den · 2 ^ (- exponent)` as a quotient of naturals. -/
def scaled (num den : Nat) (exponent : Int) : Nat × Nat :=
  if exponent < 0 then (num * 2 ^ exponent.natAbs, den) else (num, den * 2 ^ exponent.natAbs)

/-- The unit in the last place of doubles of the size of `num / den`, as a power of two. -/
def unitExponent (num den : Nat) : Int :=
  let guess : Int := (num.log2 : Int) - den.log2 - 53
  let (n, d) := scaled num den guess
  let exact := if n / d < 2 ^ 53 then guess else guess + 1
  max exact (-1074)

/-- The double nearest to `± num / den`; too large a quotient gives infinity. -/
def ofRatio (isNegative : Bool) (num den : Nat) : Binary64 :=
  if num = 0 then zero isNegative
  else
    let unit := unitExponent num den
    let (n, d) := scaled num den unit
    let magnitude := (unit + 1074).toNat * 2 ^ 52 + roundDiv n d
    if 2047 * 2 ^ 52 ≤ magnitude then infinity isNegative else ofMagnitude isNegative magnitude

/-- The double nearest to a natural number. -/
def ofNat (n : Nat) : Binary64 := ofRatio false n 1

/-- The double nearest to `± n · 10 ^ exponent`. Exponents far outside the range are cut short, so
that no huge power is computed. -/
def ofDecimal (isNegative : Bool) (n : Nat) (exponent : Int) : Binary64 :=
  if n = 0 then zero isNegative
  else if 400 < exponent then infinity isNegative
  else if exponent < -(400 + (n.log2 : Int)) then zero isNegative
  else if exponent < 0 then ofRatio isNegative n (10 ^ exponent.natAbs)
  else ofRatio isNegative (n * 10 ^ exponent.natAbs) 1

/-- A magnitude `m · 2 ^ e` as a quotient of naturals. -/
def asRatio (significand : Nat) (exponent : Int) : Nat × Nat :=
  if exponent < 0 then (significand, 2 ^ exponent.natAbs)
  else (significand * 2 ^ exponent.natAbs, 1)

/-- Whether the pattern is one of the two infinities. -/
def isInfinite (x : Binary64) : Bool :=
  match x.view with
  | .infinite _ => true
  | _ => false

/-- Whether the pattern is one of the two zeros. -/
def isZero (x : Binary64) : Bool :=
  match x.view with
  | .finite _ 0 _ => true
  | _ => false

/-- Whether the pattern is a number and not an infinity. -/
def isFinite (x : Binary64) : Bool :=
  match x.view with
  | .finite .. => true
  | _ => false

/-- The same magnitude with the other sign. -/
def neg (x : Binary64) : Binary64 :=
  ofMagnitude (!x.negative) (x.bits.toNat % 2 ^ 63)

/-- The rounded product of two finite non-negative doubles. -/
def mul (x y : Binary64) : Binary64 :=
  match x.view, y.view with
  | .finite _ m e, .finite _ m' e' =>
    let (n, d) := asRatio (m * m') (e + e')
    ofRatio false n d
  | _, _ => infinity false

/-- The rounded quotient of two finite non-negative doubles. -/
def div (x y : Binary64) : Binary64 :=
  match x.view, y.view with
  | .finite _ m e, .finite _ m' e' =>
    let (n, d) := asRatio m (e - e')
    ofRatio false n (d * m')
  | _, _ => infinity false

/-! ## Single precision -/

/-- The double with the value of a 32-bit pattern: every single is exactly a double. -/
def ofSingle (single : UInt32) : Binary64 :=
  let n := single.toNat
  let isNegative := decide (2 ^ 31 ≤ n)
  let biased : Nat := n / 2 ^ 23 % 256
  let fraction : Nat := n % 2 ^ 23
  if biased = 255 then
    if fraction = 0 then infinity isNegative else nan
  else
    let (significand, exponent) : Nat × Int :=
      if biased = 0 then (fraction, -149) else (fraction + 2 ^ 23, (biased : Int) - 150)
    let (num, den) := asRatio significand exponent
    ofRatio isNegative num den

end Binary64
end SensorLink

import SensorLink.Decimal.Binary64

/-!
# The shortest decimal that reads back

A double is shown by the fewest decimal digits that still read back as that double, and among
decimals of that length by the nearest one.

The rule needs no clever arithmetic. The reals that round to a double form an interval whose ends
belong to it exactly when the significand is even. On the grid of decimals with `n` digits at the
double's own magnitude, the only candidates are the two neighbours of its exact value: if any point
of the grid lies in the interval, so does one of these. So the grids are tried in turn, from one
digit to seventeen, and the first that has a hit answers.
-/

namespace SensorLink.Shortest

/-- A decimal `digits · 10 ^ exponent`. -/
structure Decimal where
  digits : Nat
  exponent : Int
  deriving DecidableEq, Repr

/-- The largest `k ≤ fuel` with `den · 10 ^ k ≤ num`, when `den ≤ num`. -/
def intLog10 : Nat → Nat → Nat → Nat
  | 0, _, _ => 0
  | fuel + 1, num, den => if num < den * 10 then 0 else intLog10 fuel num (den * 10) + 1

/-- The least `k ≤ fuel` with `den ≤ num · 10 ^ k`. -/
def negLog10 : Nat → Nat → Nat → Nat
  | 0, _, _ => 0
  | fuel + 1, num, den => if den ≤ num then 0 else negLog10 fuel (num * 10) den + 1

/-- The decimal exponent of the leading digit of `num / den`; doubles reach from `-324` to `308`. -/
def leadingExponent (num den : Nat) : Int :=
  if den ≤ num then intLog10 400 num den else -(negLog10 400 num den : Int)

/-- The interval of reals that round to `significand · 2 ^ exponent`, in quarter units: its low end,
its high end, and whether the ends belong to it. Just above a power of two the low half is half as
wide. -/
def interval (significand : Nat) (exponent : Int) : Nat × Nat × Bool :=
  let low := if significand = 2 ^ 52 ∧ -1074 < exponent then 4 * significand - 1
    else 4 * significand - 2
  (low, 4 * significand + 2, significand % 2 = 0)

/-- `± x · 10 ^ p` against `y · 2 ^ e`, exactly. -/
def compareScaled (x : Nat) (p : Int) (y : Nat) (e : Int) : Ordering :=
  compare (x * 10 ^ p.toNat * 2 ^ (-e).toNat) (y * 2 ^ e.toNat * 10 ^ (-p).toNat)

/-- Whether `x · 10 ^ p` rounds to `significand · 2 ^ exponent`. -/
def readsBack (significand : Nat) (exponent : Int) (x : Nat) (p : Int) : Bool :=
  let (low, high, closed) := interval significand exponent
  let atLow := compareScaled x p low (exponent - 2)
  let atHigh := compareScaled x p high (exponent - 2)
  (atLow == .gt || (closed && atLow == .eq)) && (atHigh == .lt || (closed && atHigh == .eq))

/-- The floor of `num / den` on the grid of spacing `10 ^ p`, and twice the remainder against the
spacing. -/
def gridFloor (num den : Nat) (p : Int) : Nat × Ordering :=
  let n := num * 10 ^ (-p).toNat
  let d := den * 10 ^ p.toNat
  (n / d, compare (2 * (n % d)) d)

/-- Of the two neighbours on the grid of spacing `10 ^ p`, the nearer one that reads back. -/
def hit? (significand : Nat) (exponent : Int) (p : Int) : Option Decimal :=
  let (num, den) := Binary64.asRatio significand exponent
  let (below, half) := gridFloor num den p
  let lowOk := readsBack significand exponent below p
  let highOk := readsBack significand exponent (below + 1) p
  match lowOk, highOk with
  | true, true => some ⟨if half == .gt then below + 1 else below, p⟩
  | true, false => some ⟨below, p⟩
  | false, true => some ⟨below + 1, p⟩
  | false, false => none

/-- The first grid with a hit, from the coarsest of the `left` grids that remain on. -/
def search (significand : Nat) (exponent : Int) (lead : Int) : Nat → Decimal
  | 0 => (hit? significand exponent (lead - 16)).getD ⟨significand, 0⟩
  | left + 1 =>
    match hit? significand exponent (lead - 16 + (left + 1)) with
    | some d => d
    | none => search significand exponent lead left

/-- Moves the zeros at the end of the digits into the exponent, at most `fuel` of them. -/
def trim : Nat → Decimal → Decimal
  | 0, d => d
  | fuel + 1, d =>
    if d.digits ≠ 0 ∧ d.digits % 10 = 0 then trim fuel ⟨d.digits / 10, d.exponent + 1⟩ else d

/-- The shortest decimal that reads back as `significand · 2 ^ exponent`, for a significand that is
not zero. -/
def decimal (significand : Nat) (exponent : Int) : Decimal :=
  let (num, den) := Binary64.asRatio significand exponent
  trim 20 (search significand exponent (leadingExponent num den) 16)

example : decimal (2 ^ 52) (-52) = ⟨1, 0⟩ := by decide +kernel
example : decimal 1 (-1074) = ⟨5, -324⟩ := by decide +kernel
example : decimal 5404319552844595 (-54) = ⟨3, -1⟩ := by decide +kernel
example : decimal (2 ^ 53 - 1) 971 = ⟨17976931348623157, 292⟩ := by decide +kernel

end SensorLink.Shortest

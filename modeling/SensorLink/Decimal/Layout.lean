import SensorLink.Decimal.Shortest

/-!
# How a double is laid out as text

Three places show a double, and they agree on its digits and differ only in where the point goes:

* a refused timeout is quoted in plain positional notation, however large or small;
* a refused settings value is quoted the same way, but always with a point;
* a JSON text uses positional notation for middling magnitudes and an exponent outside them.

So the layout is a record, and each of the three is one value of it.
-/

namespace SensorLink.Decimal

/-- The decisions that turn shortest digits into text. A number whose leading digit stands for
`10 ^ k` is written positionally when `least ≤ k < limit`. -/
structure Layout where
  /-- The least leading exponent written positionally; `none` for no bound. -/
  least : Option Int
  /-- The leading exponent from which on an exponent is written; `none` for no bound. -/
  limit : Option Int
  /-- Whether a whole number ends in a point and a zero. -/
  pointed : Bool

/-- Plain positional notation. -/
def plain : Layout := ⟨none, none, false⟩

/-- Positional notation that always shows a point. -/
def pointed : Layout := ⟨none, none, true⟩

/-- The number format of JSON texts: an exponent at `10 ^ 16` and above, and below `10 ^ -5`. -/
def json : Layout := ⟨some (-5), some 16, true⟩

/-- The digits of a natural number. -/
def digitsOf (n : Nat) : List Char := Nat.toDigits 10 n

/-- A digit string with its point after the first `whole` places, padded with zeros on the side
where digits are missing. -/
def positional (layout : Layout) (ds : List Char) (whole : Int) : List Char :=
  if whole ≤ 0 then '0' :: '.' :: (List.replicate whole.natAbs '0' ++ ds)
  else
    let w := whole.toNat
    if ds.length ≤ w then
      ds ++ List.replicate (w - ds.length) '0' ++ (if layout.pointed then ['.', '0'] else [])
    else ds.take w ++ '.' :: ds.drop w

/-- A digit string with a point after its first digit and an exponent. -/
def scientific (ds : List Char) (lead : Int) : List Char :=
  let mantissa := match ds with
    | [] => []
    | [d] => [d]
    | d :: rest => d :: '.' :: rest
  let sign := if lead < 0 then ['-'] else ['+']
  mantissa ++ 'e' :: (sign ++ digitsOf lead.natAbs)

/-- A positive decimal in the given layout. -/
def layOut (layout : Layout) (d : Shortest.Decimal) : List Char :=
  let ds := digitsOf d.digits
  let lead := d.exponent + ds.length - 1
  let tooSmall := match layout.least with
    | none => false
    | some least => decide (lead < least)
  let tooLarge := match layout.limit with
    | none => false
    | some limit => decide (limit ≤ lead)
  if tooSmall || tooLarge then scientific ds lead else positional layout ds (lead + 1)

/-- The text of a double. Infinities and NaN are shown by name. -/
def text (layout : Layout) (x : Binary64) : String :=
  match x.view with
  | .nan => "NaN"
  | .infinite isNegative => if isNegative then "-inf" else "inf"
  | .finite isNegative significand exponent =>
    let magnitude :=
      if significand = 0 then (if layout.pointed then ['0', '.', '0'] else ['0'])
      else layOut layout (Shortest.decimal significand exponent)
    String.ofList (if isNegative then '-' :: magnitude else magnitude)

end SensorLink.Decimal

import DeviceArrays.Decimal.Shortest
import DeviceArrays.FloatBits

/-!
# Text of floating-point numbers

A number is written with the fewest digits that read back to it. The plain form is positional at
every size; the detailed form always shows a point and turns to an exponent for numbers that are
very large or very small.
-/
namespace DeviceArrays

namespace FloatBits

variable {p : Precision}

-- Powers of natural numbers are those of the core library, whatever else is in scope.
attribute [local instance (high)] instPowNat

/-- The reals that round to a finite pattern. The step below a power of two is half as wide. -/
def roundingInterval (x : FloatBits p) : Decimal.Interval :=
  let m := x.significand
  let narrow := m = 2 ^ p.fractionBits ∧ p.leastExponent < x.exponent
  { low := 4 * m - if narrow then 1 else 2
    middle := 4 * m
    high := 4 * m + 2
    scale := x.exponent - 2
    closed := m % 2 = 0 }

/-- The shortest decimal that reads back to the magnitude of a finite nonzero number. Seventeen
digits always suffice. -/
def shortestDecimal (x : FloatBits p) : Decimal :=
  let i := x.roundingInterval
  (i.shortest? 17).getD (i.below (i.leadingExponent - 17))

end FloatBits

namespace Decimal

/-- The digits around a decimal point: the whole part and the part behind the point. -/
def positional (d : Decimal) : String × String :=
  let ds := digits d.coefficient
  if 0 ≤ d.exponent then
    (String.ofList (ds ++ List.replicate d.exponent.toNat '0'), "")
  else
    let places := (-d.exponent).toNat
    let padded := List.replicate (places + 1 - ds.length) '0' ++ ds
    (String.ofList (padded.take (padded.length - places)),
      String.ofList (padded.drop (padded.length - places)))

/-- One digit, a point if more digits follow, and the exponent. -/
def scientific (d : Decimal) : String :=
  let ds := digits d.coefficient
  let shown := d.exponent + ds.length - 1
  let fraction := if ds.length ≤ 1 then "" else "." ++ String.ofList (ds.drop 1)
  String.ofList (ds.take 1) ++ fraction ++ "e" ++ toString shown

/-- The power of ten of the first digit. -/
def leadingExponent (d : Decimal) : Int := d.exponent + (digits d.coefficient).length - 1

end Decimal

namespace FloatBits

variable {p : Precision}

/-- Sign or name of a number around the text of its finite nonzero magnitude. -/
def textWith (x : FloatBits p) (zeroText : String) (magnitude : Decimal → String) : String :=
  if x.isNaN then "NaN"
  else
    let sign := if x.isNegative then "-" else ""
    let body :=
      if x.isInfinite then "inf"
      else if x.isZero then zeroText
      else magnitude x.shortestDecimal
    sign ++ body

/-- Positional at every size, with a point only before a fraction. -/
def plainText (x : FloatBits p) : String :=
  x.textWith "0" fun d =>
    let (whole, fraction) := d.positional
    if fraction = "" then whole else whole ++ "." ++ fraction

/-- Positional from 0.0001 up to but not including 1e16, with an exponent elsewhere. -/
def detailedText (x : FloatBits p) : String :=
  x.textWith "0.0" fun d =>
    if -4 ≤ d.leadingExponent ∧ d.leadingExponent < 16 then
      let (whole, fraction) := d.positional
      whole ++ "." ++ if fraction = "" then "0" else fraction
    else d.scientific

end FloatBits

end DeviceArrays

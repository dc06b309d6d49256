/-!
# Shortest decimals

Among the decimal numbers inside an interval around a value, the shortest ones are those with the
fewest digits, and of these the nearest to the value is chosen. All comparisons are exact.
-/
namespace DeviceArrays

/-- The number `coefficient * 10 ^ exponent`. -/
structure Decimal where
  coefficient : Nat
  exponent : Int
  deriving DecidableEq, Repr

namespace Decimal

/-- The digits of a natural number, most significant first. -/
def digits (n : Nat) : List Char := Nat.toDigits 10 n

/-- The same number without zeros at the end of its coefficient. -/
def trim (d : Decimal) : Decimal :=
  if d.coefficient ≠ 0 ∧ d.coefficient % 10 = 0 then trim ⟨d.coefficient / 10, d.exponent + 1⟩
  else d
  termination_by d.coefficient
  decreasing_by omega

/-- A value `middle * 2 ^ scale` and the interval from `low * 2 ^ scale` to `high * 2 ^ scale`. -/
structure Interval where
  low : Nat
  middle : Nat
  high : Nat
  scale : Int
  closed : Bool

namespace Interval

-- Powers of natural numbers are those of the core library, whatever else is in scope.
attribute [local instance (high)] instPowNat

/-- Numerator of `2 ^ scale`. -/
def numerator (i : Interval) : Nat := 2 ^ i.scale.toNat

/-- Denominator of `2 ^ scale`. -/
def denominator (i : Interval) : Nat := 2 ^ (-i.scale).toNat

/-- The exponent `e` with `10 ^ e ≤ middle * 2 ^ scale < 10 ^ (e + 1)`, for a positive middle. -/
def leadingExponent (i : Interval) : Int :=
  let a := i.middle * i.numerator
  let b := i.denominator
  if b ≤ a then (digits (a / b)).length - 1
  else -((digits ((b - 1) / a)).length : Int)

/-- Compares `n * 2 ^ scale` with a decimal. -/
def compareScaled (i : Interval) (n : Nat) (d : Decimal) : Ordering :=
  compare (n * i.numerator * 10 ^ (-d.exponent).toNat)
    (d.coefficient * 10 ^ d.exponent.toNat * i.denominator)

/-- Whether a decimal lies in the interval. -/
def contains (i : Interval) (d : Decimal) : Bool :=
  match i.compareScaled i.low d, i.compareScaled i.high d with
  | .lt, .gt => true
  | .eq, .gt | .lt, .eq => i.closed
  | _, _ => false

/-- The largest multiple of `10 ^ exponent` that is not above the middle. -/
def below (i : Interval) (exponent : Int) : Decimal where
  coefficient :=
    i.middle * i.numerator * 10 ^ (-exponent).toNat / (i.denominator * 10 ^ exponent.toNat)
  exponent := exponent

/-- Whether the middle lies nearer to `d` than to the next multiple above it. -/
def leansDown (i : Interval) (d : Decimal) : Bool :=
  (2 * i.middle * i.numerator * 10 ^ (-d.exponent).toNat) <
    (2 * d.coefficient + 1) * 10 ^ d.exponent.toNat * i.denominator

/-- The decimal of the interval on the grid `10 ^ exponent` nearest to the middle, if the grid meets
the interval next to the middle. Of two equally near ones the larger is taken. -/
def onGrid? (i : Interval) (exponent : Int) : Option Decimal :=
  let down := i.below exponent
  let up : Decimal := ⟨down.coefficient + 1, exponent⟩
  match i.contains down, i.contains up with
  | true, true => some (if i.leansDown down then down else up)
  | true, false => some down
  | false, true => some up
  | false, false => none

/-- The shortest decimal of the interval, trying one digit, two digits and so on to `most`. -/
def shortest? (i : Interval) (most : Nat) : Option Decimal :=
  let leading := i.leadingExponent
  (List.range most).findSome? fun more : Nat => (i.onGrid? (leading - more)).map trim

end Interval

end Decimal

end DeviceArrays

import DeviceArrays.Word

/-!
# Natural numbers in text

A number is one or more decimal digits, a plus sign in front allowed; leading zeros do no harm. A
number that does not fit in a machine word is refused.
-/
namespace DeviceArrays

/-- The number some decimal digits stand for. -/
def digitsValue (ds : List Char) : Nat := ds.foldl (fun n d => 10 * n + (d.toNat - '0'.toNat)) 0

/-- Reads digits alone. -/
def readDigits? (cs : List Char) : Option Nat :=
  if cs ≠ [] ∧ cs.all Char.isDigit ∧ digitsValue cs < wordBound then some (digitsValue cs) else none

/-- Reads digits with or without a plus sign. -/
def readNatural? : List Char → Option Nat
  | '+' :: cs => readDigits? cs
  | cs => readDigits? cs

end DeviceArrays

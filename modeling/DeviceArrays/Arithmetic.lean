import DeviceArrays.Element
import DeviceArrays.IntegerPower
import DeviceArrays.ComplexBits

/-!
# Arithmetic on elements

One operation on two elements of a type, for every type: integers wrap at their width, and
floating-point and complex numbers follow their own arithmetic.
-/
namespace DeviceArrays

/-- The operations on two elements. -/
inductive BinaryOperation
  | add
  | sub
  | mul
  | pow
  deriving DecidableEq, Repr

namespace Element

/-- Applies an operation that complex numbers have part by part. -/
def viaComplex {p : Precision} (f : ComplexBits p → ComplexBits p → ComplexBits p)
    (x y : Element (.complex p)) : Element (.complex p) :=
  (f (ComplexBits.ofBits x) (ComplexBits.ofBits y)).toBits

def add : {t : ElementType} → Element t → Element t → Element t
  | .signed _, x, y => x + y
  | .unsigned _, x, y => x + y
  | .float p, x, y => FloatBits.add (p := p) x y
  | .complex _, x, y => viaComplex .add x y

def sub : {t : ElementType} → Element t → Element t → Element t
  | .signed _, x, y => x - y
  | .unsigned _, x, y => x - y
  | .float p, x, y => FloatBits.sub (p := p) x y
  | .complex _, x, y => viaComplex .sub x y

def mul : {t : ElementType} → Element t → Element t → Element t
  | .signed _, x, y => x * y
  | .unsigned _, x, y => x * y
  | .float p, x, y => FloatBits.mul (p := p) x y
  | .complex _, x, y => viaComplex .mul x y

def pow : {t : ElementType} → Element t → Element t → Element t
  | .signed _, x, y => IntegerPower.signedPower x y
  | .unsigned _, x, y => IntegerPower.power x y
  | .float p, x, y => FloatBits.pow (p := p) x y
  | .complex _, x, y => viaComplex .pow x y

/-- The distance from zero. The most negative integer has no positive counterpart and stays. -/
def magnitude : {t : ElementType} → Element t → Element t.magnitudeType
  | .signed _, x => if x.toInt < 0 then -x else x
  | .unsigned _, x => x
  | .float p, x => FloatBits.abs (p := p) x
  | .complex _, x => (ComplexBits.ofBits x).norm

def zero : (t : ElementType) → Element t
  | .signed _ => 0
  | .unsigned _ => 0
  | .float _ => FloatBits.zero
  | .complex _ => ComplexBits.toBits ⟨.zero, .zero⟩

def one : (t : ElementType) → Element t
  | .signed _ => 1
  | .unsigned _ => 1
  | .float _ => FloatBits.one
  | .complex _ => ComplexBits.toBits ⟨.one, .zero⟩

/-- Equality of the numbers meant: floating-point zeros are equal and a NaN equals nothing. -/
def sameNumber : {t : ElementType} → Element t → Element t → Bool
  | .signed _, x, y => x == y
  | .unsigned _, x, y => x == y
  | .float p, x, y => FloatBits.sameNumber (p := p) x y
  | .complex _, x, y =>
    let z := ComplexBits.ofBits x
    let w := ComplexBits.ofBits y
    z.re.sameNumber w.re && z.im.sameNumber w.im

end Element

/-- Applies the operation to two elements of one type. -/
def BinaryOperation.apply {t : ElementType} : BinaryOperation → Element t → Element t → Element t
  | .add => Element.add
  | .sub => Element.sub
  | .mul => Element.mul
  | .pow => Element.pow

end DeviceArrays

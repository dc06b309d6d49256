import DeviceArrays.Arithmetic
import DeviceArrays.Decimal.Text

/-!
# Scalars

A scalar is an element together with its type. It is read back only as the type it was made of.
-/
namespace DeviceArrays

structure Scalar where
  type : ElementType
  value : Element type
  deriving DecidableEq

namespace Element

/-- The sign between the parts of a complex number, and the second part without it. -/
def imaginaryText {p : Precision} (im : FloatBits p) (write : FloatBits p → String) : String :=
  if im.isBelowZero then "-" ++ write im.neg else "+" ++ write im

/-- The plain text of an element. A complex number is written `re+imi` or `re-imi`. -/
def text : {t : ElementType} → Element t → String
  | .signed _, x => toString x.toInt
  | .unsigned _, x => toString x.toNat
  | .float p, x => FloatBits.plainText (p := p) x
  | .complex _, x =>
    let z := ComplexBits.ofBits x
    z.re.plainText ++ imaginaryText z.im FloatBits.plainText ++ "i"

/-- The text of an element inside a description, where a fraction is always shown and a complex
number lists its parts by name. -/
def detailedText : {t : ElementType} → Element t → String
  | .signed _, x => toString x.toInt
  | .unsigned _, x => toString x.toNat
  | .float p, x => FloatBits.detailedText (p := p) x
  | .complex _, x =>
    let z := ComplexBits.ofBits x
    "Complex \x7b re: " ++ z.re.detailedText ++ ", im: " ++ z.im.detailedText ++ " \x7d"

end Element

namespace Scalar

def zero (t : ElementType) : Scalar := ⟨t, Element.zero t⟩

def one (t : ElementType) : Scalar := ⟨t, Element.one t⟩

def toBytes (s : Scalar) : Bytes := s.value.toBytes

/-- The value as an element of type `t`, if that is the scalar's type. -/
def get? (s : Scalar) (t : ElementType) : Option (Element t) :=
  if h : s.type = t then some (h ▸ s.value) else none

@[simp] theorem get?_self {t : ElementType} (x : Element t) : get? ⟨t, x⟩ t = some x := by
  simp [get?]

theorem get?_eq_none {t u : ElementType} (x : Element t) (h : t ≠ u) : get? ⟨t, x⟩ u = none := by
  simp [get?, h]

/-- Equality of the numbers meant; scalars of different types are never equal. -/
def sameNumber (s r : Scalar) : Bool :=
  match r.get? s.type with
  | some value => s.value.sameNumber value
  | none => false

def text (s : Scalar) : String := s.value.text

def detailedText (s : Scalar) : String := s.type.upperName ++ "(" ++ s.value.detailedText ++ ")"

end Scalar

end DeviceArrays

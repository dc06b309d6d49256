import DeviceArrays.DeviceArray.Fill

/-!
# Operands

The right-hand side of an operation: another array, a grid on the host, or one value.
-/
namespace DeviceArrays

inductive Operand
  | array (a : DeviceArray)
  | grid (g : Grid)
  | scalar (value : Scalar)

namespace Operand

def type : Operand → ElementType
  | .array a => a.type
  | .grid g => g.type
  | .scalar value => value.type

def kind : Operand → String
  | .array _ => "array"
  | .grid _ => "host array"
  | .scalar _ => "scalar"

def description : Operand → String
  | .array a => "Array(" ++ a.description ++ ")"
  | .grid g =>
    "Host \x7b dtype: " ++ g.type.upperName ++ ", dims: " ++ listText g.extents ++ " \x7d"
  | .scalar value => "Scalar(" ++ value.detailedText ++ ")"

end Operand

/-- Whether an operand can be combined with an array element by element: first its place and its
shape are looked at, then its type. -/
def DeviceArray.checkOperand (a : DeviceArray) (operand : Operand) : Except Error Unit := do
  match operand with
  | .array b =>
    if !b.device.same a.device then throw (.deviceMismatch a.device.id b.device.id)
    if b.shape ≠ a.shape then throw (.shapeMismatch (.operandShape b.shape a.shape))
    if b.layout ≠ a.layout then throw (.shapeMismatch (.operandLayout b.layout a.layout))
  | .grid g =>
    if g.extents ≠ a.shape.extents then throw (.shapeMismatch (.hostOperand g.extents a.shape))
  | .scalar _ => pure ()
  if operand.type ≠ a.type then throw (.typeMismatch a.type operand.type)

end DeviceArrays

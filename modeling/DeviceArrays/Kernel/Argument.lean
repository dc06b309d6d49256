import DeviceArrays.Identifier
import DeviceArrays.Scalar

/-!
# Kernel arguments

A kernel is called with a list of arguments. `Parameter` names what a kernel may ask for at one
place of the list; the value it then receives has type `Parameter.Value`.
-/
namespace DeviceArrays

/-- One argument of a kernel call. -/
inductive Argument
  | typeTag (tag : Nat)
  | count (n : Nat)
  | buffer (id : BufferId)
  | scalar (value : Scalar)
  | stride (step : Nat)
  deriving DecidableEq

/-- The second operand of a binary kernel: elements of a buffer, or one value for all of them. -/
inductive KernelOperand
  | buffer (id : BufferId)
  | scalar (value : Scalar)
  deriving DecidableEq

/-- What a kernel asks for at one place of its argument list. -/
inductive Parameter
  | typeTag
  | count
  | stride
  | buffer
  | scalar
  | operand
  deriving DecidableEq, Repr

namespace Argument

/-- The tag of an element type as an argument. -/
def ofType (t : ElementType) : Argument := .typeTag t.tag

def text : Argument → String
  | .typeTag tag =>
    match ElementType.ofTag? tag with
    | some t => "dtype=" ++ t.name
    | none => "type_tag=" ++ toString tag
  | .count n => "n=" ++ toString n
  | .buffer id => id.text
  | .scalar value => "scalar=" ++ value.text
  | .stride step => "stride=" ++ toString step

end Argument

namespace Parameter

def description : Parameter → String
  | .typeTag => "type tag"
  | .count => "count"
  | .stride => "stride"
  | .buffer => "buffer"
  | .scalar => "scalar"
  | .operand => "buffer or scalar"

/-- What an argument read for this parameter amounts to. -/
def Value : Parameter → Type
  | .typeTag => ElementType
  | .count => Nat
  | .stride => Nat
  | .buffer => BufferId
  | .scalar => Scalar
  | .operand => KernelOperand

/-- The value of an argument that fits the parameter. -/
def read? : (p : Parameter) → Argument → Option p.Value
  | .typeTag, .typeTag tag => ElementType.ofTag? tag
  | .count, .count n => some n
  | .stride, .stride step => some step
  | .buffer, .buffer id => some id
  | .scalar, .scalar value => some value
  | .operand, .buffer id => some (KernelOperand.buffer id)
  | .operand, .scalar value => some (KernelOperand.scalar value)
  | _, _ => none

/-- The argument a value is passed as. -/
def write : (p : Parameter) → p.Value → Argument
  | .typeTag, t => .ofType t
  | .count, n => .count n
  | .stride, step => .stride step
  | .buffer, id => .buffer id
  | .scalar, value => .scalar value
  | .operand, .buffer id => .buffer id
  | .operand, .scalar value => .scalar value

@[simp] theorem read?_write (p : Parameter) (v : p.Value) : p.read? (p.write v) = some v := by
  cases p with
  | typeTag => exact ElementType.ofTag?_tag v
  | operand => cases v <;> rfl
  | _ => rfl

/-- One value for each parameter. -/
def Values : List Parameter → Type
  | [] => Unit
  | p :: ps => p.Value × Values ps

end Parameter

end DeviceArrays

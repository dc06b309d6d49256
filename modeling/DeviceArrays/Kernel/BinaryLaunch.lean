import DeviceArrays.Kernel.Elementwise

/-!
# Launches of binary kernels

The arguments of a binary kernel for whole arrays: the left operand and the result are walked one
element at a time, and so is a right operand in a buffer; a scalar is used for every element.
-/
namespace DeviceArrays

structure BinaryLaunch where
  type : ElementType
  count : Nat
  left : BufferId
  right : KernelOperand
  result : BufferId
  deriving DecidableEq

namespace KernelOperand

/-- The step from one element of the operand to the next. -/
def stride : KernelOperand → Nat
  | .buffer _ => 1
  | .scalar _ => 0

/-- The operand as a kernel argument. -/
def argument : KernelOperand → Argument
  | .buffer b => .buffer b
  | .scalar s => .scalar s

end KernelOperand

/-- The arguments in the order the kernel asks for them. -/
def BinaryLaunch.arguments (l : BinaryLaunch) : List Argument :=
  [.ofType l.type, .count l.count, .buffer l.left, .stride 1, l.right.argument,
    .stride l.right.stride, .buffer l.result, .stride 1]

end DeviceArrays

import DeviceArrays.DeviceArray.Operand
import DeviceArrays.Kernel.BinaryLaunch

/-!
# Operators

An operator checks its operands, allocates its result and queues one kernel. A grid is bound to an
array for the time of the launch. Where a later step fails, what was allocated is released, the
latest first.
-/
namespace DeviceArrays.DeviceArray

/-- Runs `body` with a new array that holds a grid, and then drops that array. -/
def withBound {α : Type} (stream : Stream) (g : Grid) (layout : Layout)
    (body : DeviceArray → Call α) : Call α := do
  let bound ← stream.bindWith g layout
  let result ← Call.onError bound.drop (body bound)
  ExceptT.lift bound.drop
  return result

/-- Combines every element with the operand's element in the same place. -/
def binary (a : DeviceArray) (operation : BinaryOperation) (operand : Operand) :
    Call DeviceArray := do
  Call.check (a.checkOperand operand)
  let kernel ← a.kernel (.binary operation)
  let result ← a.allocateLike a.type
  let launch (right : KernelOperand) : Call Unit :=
    a.stream.launch kernel
      (BinaryLaunch.arguments ⟨a.type, a.size, a.buffer, right, result.buffer⟩)
  Call.onError result.drop do
    match operand with
    | .array b => launch (.buffer b.buffer)
    | .grid g => withBound a.stream g a.layout fun bound => launch (.buffer bound.buffer)
    | .scalar value => launch (.scalar value)
  return result

def add (a : DeviceArray) (operand : Operand) : Call DeviceArray := a.binary .add operand

def sub (a : DeviceArray) (operand : Operand) : Call DeviceArray := a.binary .sub operand

def mul (a : DeviceArray) (operand : Operand) : Call DeviceArray := a.binary .mul operand

def pow (a : DeviceArray) (operand : Operand) : Call DeviceArray := a.binary .pow operand

/-- Queues a kernel that reads an array and writes a new one of type `type`. -/
def unary (a : DeviceArray) (k : ElementwiseKernel) (type : ElementType) : Call DeviceArray := do
  let kernel ← a.kernel k
  let result ← a.allocateLike type
  Call.onError result.drop
    (a.stream.launch kernel
      [.ofType a.type, .count a.size, .buffer a.buffer, .buffer result.buffer])
  return result

/-- The magnitude of every element. -/
def abs (a : DeviceArray) : Call DeviceArray := a.unary .abs a.type.magnitudeType

/-- The elements from last to first, for arrays of at most one axis. -/
def reverse (a : DeviceArray) : Call DeviceArray := do
  if 1 < a.shape.rank then throw (.reversedRank a.shape)
  a.unary .reverse a.type

/-- Assigns the operand to the places from `start` up to `stop` of storage, cut off at the array's
end. One value is assigned to the whole array; other operands need as many elements as there are
places. -/
def setSlice (a : DeviceArray) (start stop : Nat) (operand : Operand) : Call Unit := do
  let lower := min start a.size
  let upper := min stop a.size
  let launch (kernel : Kernel) (source : DeviceArray) : Call Unit :=
    a.stream.launch kernel
      [.ofType a.type, .count lower, .count upper, .buffer a.buffer, .buffer source.buffer]
  match operand with
  | .scalar value => a.fill value
  | .array b =>
    if b.type ≠ a.type then throw (.typeMismatch a.type b.type)
    if upper ≤ lower then return
    if !b.device.same a.device then throw (.deviceMismatch a.device.id b.device.id)
    if b.size ≠ upper - lower then throw (.shapeMismatch (.sliceLength b.size lower upper))
    launch (← a.kernel .setSlice) b
  | .grid g =>
    if g.type ≠ a.type then throw (.typeMismatch a.type g.type)
    if upper ≤ lower then return
    if g.size ≠ upper - lower then throw (.shapeMismatch (.sliceLength g.size lower upper))
    let kernel ← a.kernel .setSlice
    withBound a.stream g a.layout (launch kernel)

end DeviceArrays.DeviceArray

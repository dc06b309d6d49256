import DeviceArrays.Kernel.Contract
import DeviceArrays.Memory

/-!
# Elementwise kernels

Eight kernels work on whole buffers. Each reads its operands before it writes anything and writes
at most once, so a call that fails leaves memory as it was and a result may share the buffer of an
operand.
-/
namespace DeviceArrays

/-- The kernels every array relies on. -/
inductive ElementwiseKernel
  | binary (operation : BinaryOperation)
  | abs
  | fill
  | reverse
  | setSlice
  deriving DecidableEq, Repr

namespace ElementwiseKernel

def all : List ElementwiseKernel :=
  [.binary .add, .binary .sub, .binary .mul, .binary .pow, .abs, .fill, .reverse, .setSlice]

def name : ElementwiseKernel → String
  | .binary .add => "offload_array_add"
  | .binary .sub => "offload_array_sub"
  | .binary .mul => "offload_array_mul"
  | .binary .pow => "offload_array_pow"
  | .abs => "offload_array_abs"
  | .fill => "offload_array_fill"
  | .reverse => "offload_array_reverse"
  | .setSlice => "offload_array_setslice"

/-- What the kernel asks for, in order. -/
abbrev parameters : ElementwiseKernel → List Parameter
  | .binary _ => [.typeTag, .count, .buffer, .stride, .operand, .stride, .buffer, .stride]
  | .abs => [.typeTag, .count, .buffer, .buffer]
  | .fill => [.typeTag, .count, .buffer, .scalar]
  | .reverse => [.typeTag, .count, .buffer, .buffer]
  | .setSlice => [.typeTag, .count, .count, .buffer, .buffer]

/-- The number of elements that `n` steps of a given stride reach over. -/
def span (n stride : Nat) : Attempt Nat :=
  if n = 0 then .ok 0
  else do
    let last ← Attempt.product (n - 1) stride
    Attempt.sum last 1

/-- Operand values: the elements of a buffer, or one value for every position. -/
inductive Source (t : ElementType)
  | elements (values : Array (Element t))
  | constant (value : Element t)

def Source.at {t : ElementType} (s : Source t) (i : Nat) : Element t :=
  match s with
  | .elements values => values[i]?.getD 0
  | .constant value => value

/-- The elements of a buffer that `n` steps of a stride reach over. -/
def loadBuffer (m : Memory) (t : ElementType) (b : BufferId) (n stride : Nat) :
    Attempt (Source t) := do
  let count ← span n stride
  let values ← m.readElements t b count
  return .elements values.toArray

/-- The value of a scalar, which has to be of the kernel's own type. -/
def loadScalar (t : ElementType) (s : Scalar) : Attempt (Element t) :=
  match s.get? t with
  | some value => .ok value
  | none => Attempt.fail (.typeMismatch t.name s.type.name)

def loadOperand (m : Memory) (t : ElementType) (n stride : Nat) :
    KernelOperand → Attempt (Source t)
  | .buffer b => loadBuffer m t b n stride
  | .scalar s => do return .constant (← loadScalar t s)

/-- Replaces every element whose position is a multiple of `stride` by the next of `values`. -/
def scatter {t : ElementType} (region : List (Element t)) (values : Array (Element t))
    (stride : Nat) : List (Element t) :=
  region.mapIdx fun k x => if k % stride = 0 then values[k / stride]?.getD x else x

/-- Writes results to a buffer, `stride` elements apart; what lies between them stays. -/
def store {t : ElementType} (m : Memory) (b : BufferId) (values : List (Element t)) :
    (stride : Nat) → Attempt Memory
  | 0 => Attempt.fail (.badArguments .zeroResultStride)
  | 1 => m.writeElements b 0 values
  | stride => do
    let count ← span values.length stride
    let region ← m.readElements t b count
    m.writeElements b 0 (scatter region values.toArray stride)

/-- Combines two operands, each walked with its own stride. -/
def runBinary (operation : BinaryOperation) (m : Memory) (t : ElementType) (n : Nat)
    (x : BufferId) (strideX : Nat) (y : KernelOperand) (strideY : Nat)
    (r : BufferId) (strideR : Nat) : Attempt Memory := do
  let left ← loadBuffer m t x n strideX
  let right ← loadOperand m t n strideY y
  Attempt.reserve n t.width
  let _ ← Attempt.product (n - 1) strideY
  let values := (List.range n).map fun i =>
    operation.apply (left.at (i * strideX)) (right.at (i * strideY))
  store m r values strideR

/-- The magnitudes of the elements of `x`. -/
def runAbs (m : Memory) (t : ElementType) (n : Nat) (x r : BufferId) : Attempt Memory := do
  let values ← m.readElements t x n
  m.writeElements r 0 (values.map Element.magnitude)

/-- One value in every position. -/
def runFill (m : Memory) (t : ElementType) (n : Nat) (x : BufferId) (s : Scalar) :
    Attempt Memory := do
  let value ← loadScalar t s
  Attempt.reserve n t.width
  m.writeElements x 0 (List.replicate n value)

/-- The elements of `x` from last to first. -/
def runReverse (m : Memory) (t : ElementType) (n : Nat) (x r : BufferId) : Attempt Memory := do
  let values ← m.readElements t x n
  m.writeElements r 0 values.reverse

/-- The first elements of `source` at the positions from `lower` up to `upper` of `x`. -/
def runSetSlice (m : Memory) (t : ElementType) (lower upper : Nat) (x source : BufferId) :
    Attempt Memory := do
  if upper < lower then
    Attempt.fail (.badArguments (.crossedBounds ElementwiseKernel.setSlice.name lower upper))
  let values ← m.readElements t source (upper - lower)
  m.writeElements x lower values

/-- The work of a kernel on arguments that were read. -/
def execute (m : Memory) : (k : ElementwiseKernel) → Parameter.Values k.parameters → Attempt Memory
  | .binary operation, (t, n, x, strideX, y, strideY, r, strideR, ()) =>
    runBinary operation m t n x strideX y strideY r strideR
  | .abs, (t, n, x, r, ()) => runAbs m t n x r
  | .fill, (t, n, x, s, ()) => runFill m t n x s
  | .reverse, (t, n, x, r, ()) => runReverse m t n x r
  | .setSlice, (t, lower, upper, x, source, ()) => runSetSlice m t lower upper x source

/-- A call of the kernel: reads the arguments, then does the work. -/
def run (k : ElementwiseKernel) (m : Memory) (arguments : List Argument) : Attempt Memory := do
  let values ← Contract.read k.name k.parameters arguments
  k.execute m values

end ElementwiseKernel

end DeviceArrays

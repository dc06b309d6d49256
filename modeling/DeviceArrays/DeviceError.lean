import DeviceArrays.Kernel.Argument

/-!
# Errors of a device

What memory and kernels of a device can refuse, and why. `DeviceError.message` is the wording.
-/
namespace DeviceArrays

/-- Why a kernel refused its argument list. Positions count from zero. -/
inductive ArgumentProblem
  | missing (kernel : String) (position : Nat) (expected : Parameter)
  | wrongKind (kernel : String) (position : Nat) (expected : Parameter) (found : Argument)
  | unknownTag (kernel : String) (position : Nat) (tag : Nat)
  | surplus (kernel : String) (expected actual : Nat)
  | crossedBounds (kernel : String) (lower upper : Nat)
  | zeroResultStride
  | other (reason : String)
  deriving DecidableEq

/-- An error raised by the memory or the kernels of a device. -/
inductive DeviceError
  | unknownBuffer (id : BufferId)
  | outOfBounds (offset size available : Nat)
  | typeMismatch (expected actual : String)
  | unknownKernel (name : String)
  | badArguments (problem : ArgumentProblem)
  | unsupported (reason : String)
  | execution (reason : String)
  | other (reason : String)
  deriving DecidableEq

def ArgumentProblem.message : ArgumentProblem → String
  | .missing kernel position expected =>
    s!"{kernel}: missing argument {position} ({expected.description})"
  | .wrongKind kernel position expected found =>
    s!"{kernel}: argument {position} should be {expected.description}, found {found.text}"
  | .unknownTag kernel position tag =>
    s!"{kernel}: argument {position} is an unknown type tag {tag}"
  | .surplus kernel expected actual => s!"{kernel}: expected {expected} arguments, got {actual}"
  | .crossedBounds kernel lower upper =>
    s!"{kernel}: lower bound {lower} exceeds upper bound {upper}"
  | .zeroResultStride => "result stride must be positive"
  | .other reason => reason

def DeviceError.message : DeviceError → String
  | .unknownBuffer id => s!"invalid buffer handle: {id.number}"
  | .outOfBounds offset size available =>
    s!"buffer access out of bounds: offset {offset} + size {size} > buffer size {available}"
  | .typeMismatch expected actual => s!"type mismatch: expected {expected}, got {actual}"
  | .unknownKernel name => s!"kernel not found: {name}"
  | .badArguments problem => s!"invalid kernel arguments: {problem.message}"
  | .unsupported reason => s!"unsupported operation: {reason}"
  | .execution reason => s!"execution error: {reason}"
  | .other reason => reason

end DeviceArrays

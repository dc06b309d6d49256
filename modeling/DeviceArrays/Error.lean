import DeviceArrays.DeviceError
import DeviceArrays.Shape

/-!
# Errors of arrays and streams

Every refusal by its cause. `Error.message` is the wording.
-/
namespace DeviceArrays

/-- A required argument is missing or out of range. -/
inductive InvalidArgument
  | badShape (problem : ShapeProblem)
  | noDevice
  | noStream
  | tooManyBytes (type : ElementType) (shape : Shape)
  | emptyPlatform
  | unknownDevice (index count : Nat)
  | releaseOfView
  deriving DecidableEq

/-- Shapes, layouts or sizes that have to agree do not. -/
inductive ShapeMismatch
  | operandShape (operand array : Shape)
  | operandLayout (operand array : Layout)
  | hostOperand (extents : List Nat) (array : Shape)
  | source (extents : List Nat) (array : Shape)
  | sliceLength (actual lower upper : Nat)
  | reshapeInvalid (problem : ShapeProblem)
  | reshapeSize (before after : Shape)
  deriving DecidableEq

/-- An error of an array, a stream or a platform of devices. -/
inductive Error
  | invalidArgument (cause : InvalidArgument)
  | shapeMismatch (cause : ShapeMismatch)
  | typeMismatch (expected actual : ElementType)
  | deviceMismatch (expected actual : DeviceId)
  | reversedRank (shape : Shape)
  | useAfterFree (work : String) (id : BufferId)
  | device (e : DeviceError)
  | streamClosed
  deriving DecidableEq

def InvalidArgument.message : InvalidArgument → String
  | .badShape problem => problem.message
  | .noDevice => "an array needs a device"
  | .noStream => "an array needs a stream"
  | .tooManyBytes type shape =>
    s!"byte size of a {type.name} array of shape {shape.text} overflows usize"
  | .emptyPlatform => "device_count must be at least 1"
  | .unknownDevice index count => s!"unknown device {index} (registry has {count} devices)"
  | .releaseOfView => "views do not own device storage and cannot be released"

def ShapeMismatch.message : ShapeMismatch → String
  | .operandShape operand array => s!"operand shape {operand.text} does not match {array.text}"
  | .operandLayout operand array => s!"operand layout {operand.name} does not match {array.name}"
  | .hostOperand extents array =>
    s!"host operand shape {listText extents} does not match {array.text}"
  | .source extents array => s!"source shape {listText extents} does not match {array.text}"
  | .sliceLength actual lower upper =>
    s!"cannot assign {actual} elements to range {lower}..{upper} of length {upper - lower}"
  | .reshapeInvalid problem => s!"total size must be unchanged: {problem.message}"
  | .reshapeSize before after =>
    s!"total size must be unchanged: cannot reshape {before.text} into {after.text}"

namespace Error

def message : Error → String
  | .invalidArgument cause => s!"Invalid argument: {cause.message}"
  | .shapeMismatch cause => s!"Shape mismatch: {cause.message}"
  | .typeMismatch expected actual =>
    s!"Type mismatch: expected {expected.name}, got {actual.name}"
  | .deviceMismatch expected actual =>
    s!"Device mismatch: expected {expected.text}, got {actual.text}"
  | .reversedRank shape =>
    s!"Unsupported type: multi-dimensional arrays cannot be reversed (shape {shape.text})"
  | .useAfterFree work id => s!"Use after free: {work}: buffer {id.text} is not live"
  | .device e => s!"Backend error: {e.message}"
  | .streamClosed => "Stream closed"

/-- The error of work that a stream did on its device. A buffer the device does not know has been
freed before. -/
def ofDevice (work : String) : DeviceError → Error
  | .unknownBuffer id => .useAfterFree work id
  | e => .device e

end Error

end DeviceArrays

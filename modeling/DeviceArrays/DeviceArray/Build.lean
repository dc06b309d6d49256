import DeviceArrays.DeviceArray.Basic

/-!
# Building arrays

A request is checked from its shape to its size in bytes; only then are the host store and the
buffer made.
-/
namespace DeviceArrays

/-- What an owner is to be. Device and stream may have been forgotten. -/
structure ArrayRequest where
  extents : List Nat
  type : ElementType
  layout : Layout
  device : Option Device
  stream : Option Stream

namespace DeviceArray

/-- An owner with a zeroed host store and a zeroed buffer. -/
def allocate (shape : Shape) (type : ElementType) (layout : Layout) (device : Device)
    (stream : Stream) : Call DeviceArray := do
  if !stream.device.same device then throw (.deviceMismatch device.id stream.device.id)
  if wordBound ≤ shape.size * type.width then throw (.invalidArgument (.tooManyBytes type shape))
  let store ← HostStore.create (shape.size * type.width)
  let buffer ← stream.allocate store
  return ⟨⟨device, buffer, store, type, layout⟩, shape, stream, .owner⟩

/-- The owner that a request describes. -/
def build (request : ArrayRequest) : Call DeviceArray := do
  let shape ← Call.check
    ((Shape.ofExtents request.extents).mapError fun p => .invalidArgument (.badShape p))
  let some device := request.device | throw (.invalidArgument .noDevice)
  let some stream := request.stream | throw (.invalidArgument .noStream)
  allocate shape request.type request.layout device stream

/-- An owner of the same shape, layout, device and stream. -/
def allocateLike (a : DeviceArray) (type : ElementType) : Call DeviceArray :=
  allocate a.shape type a.layout a.device a.stream

end DeviceArray

end DeviceArrays

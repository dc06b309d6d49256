import DeviceArrays.DeviceArray.Build
import DeviceArrays.DeviceArray.Transfer

/-!
# Whole-array assignment

One value for every element, or the elements of a grid of the same shape. A grid goes through the
host store to the buffer.
-/
namespace DeviceArrays

namespace DeviceArray

/-- Queues the assignment of one value to every element of the buffer. -/
def fill (a : DeviceArray) (value : Scalar) : Call Unit := do
  if value.type ≠ a.type then throw (.typeMismatch a.type value.type)
  let kernel ← a.kernel .fill
  a.stream.launch kernel [.ofType a.type, .count a.size, .buffer a.buffer, .scalar value]

/-- Puts a grid into the host store and queues its copy to the buffer. -/
def fillFrom (a : DeviceArray) (g : Grid) : Call Unit := do
  if g.extents ≠ a.shape.extents then throw (.shapeMismatch (.source g.extents a.shape))
  if g.type ≠ a.type then throw (.typeMismatch a.type g.type)
  a.store.write (g.toBytes a.layout)
  a.updateDevice

end DeviceArray

namespace Stream

/-- A new array with the elements of a grid, in a given layout. -/
def bindWith (s : Stream) (g : Grid) (layout : Layout) : Call DeviceArray := do
  let a ← DeviceArray.build ⟨g.extents, g.type, layout, some s.device, some s⟩
  Call.onError a.drop do
    a.store.write (g.toBytes layout)
    a.updateDevice
  return a

/-- A new array with the elements of a grid, the last axis running fastest. -/
def bind (s : Stream) (g : Grid) : Call DeviceArray := s.bindWith g .rowMajor

/-- An array of zeros on the device; on request its host store is read back from there. -/
def empty (s : Stream) (extents : List Nat) (type : ElementType) (layout : Layout)
    (updateHost : Bool) : Call DeviceArray := do
  let a ← DeviceArray.build ⟨extents, type, layout, some s.device, some s⟩
  if updateHost then Call.onError a.drop a.updateHost
  return a

/-- An array with the shape, type and layout of another. -/
def emptyLike (s : Stream) (like : DeviceArray) (updateHost : Bool) : Call DeviceArray :=
  s.empty like.shape.extents like.type like.layout updateHost

/-- A new array with one value in every place of the buffer. -/
def filled (s : Stream) (extents : List Nat) (value : Scalar) : Call DeviceArray := do
  let a ← s.empty extents value.type .rowMajor false
  Call.onError a.drop (a.fill value)
  return a

def zeros (s : Stream) (extents : List Nat) (type : ElementType) : Call DeviceArray :=
  s.filled extents (.zero type)

def ones (s : Stream) (extents : List Nat) (type : ElementType) : Call DeviceArray :=
  s.filled extents (.one type)

end Stream

end DeviceArrays

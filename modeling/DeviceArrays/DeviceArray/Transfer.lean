import DeviceArrays.DeviceArray.Basic
import DeviceArrays.Grid.Text
import DeviceArrays.Scalar

/-!
# Transfers and host reads

An array's elements move between its buffer and its host store only on request. Reading an array
reads the host store as it is.
-/
namespace DeviceArrays.DeviceArray

/-- Queues a copy of the host store to the buffer. -/
def updateDevice (a : DeviceArray) : Call Unit := a.stream.copyToDevice a.buffer a.store

/-- Copies the buffer to the host store and waits for it. -/
def updateHost (a : DeviceArray) : Call Unit := do
  a.stream.copyToHost a.buffer a.store
  a.stream.synchronize

/-- The bytes of the host store. -/
def hostBytes (a : DeviceArray) : Call Bytes := a.store.bytes

/-- The elements of the host store in storage order, which are read only as what they are. -/
def elements (a : DeviceArray) (t : ElementType) : Call (List (Element t)) := do
  if t ≠ a.type then throw (.typeMismatch a.type t)
  return Element.allOfBytes t (← a.store.bytes)

/-- The elements of the host store with the last axis running fastest. -/
def gridElements (a : DeviceArray) (t : ElementType) : Call (List (Element t)) := do
  return a.layout.gather a.shape.extents (← a.elements t)

/-- The text of the elements of the host store. -/
def text (a : DeviceArray) : Call String := do
  return GridText.render Element.text a.shape.extents (← a.gridElements a.type)

end DeviceArrays.DeviceArray

import DeviceArrays.Grid
import DeviceArrays.Stream

/-!
# Arrays on a device

An array is a buffer on a device paired with a host store of the same size. The array that
allocated them is the owner and releases the buffer; a view has a shape of its own and shares
everything else with the owner.
-/
namespace DeviceArrays

/-- What an owner and its views share. -/
structure Storage where
  device : Device
  buffer : BufferId
  store : HostStore
  type : ElementType
  layout : Layout

/-- The shape and stream of an owner. They stay as they are while it has views. -/
structure Root where
  shape : Shape
  stream : Stream

/-- Whether an array releases its buffer, or shares that of an owner. -/
inductive Ownership
  | owner
  | view (root : Root)

structure DeviceArray where
  storage : Storage
  shape : Shape
  stream : Stream
  ownership : Ownership

namespace DeviceArray

def device (a : DeviceArray) : Device := a.storage.device

def buffer (a : DeviceArray) : BufferId := a.storage.buffer

def store (a : DeviceArray) : HostStore := a.storage.store

def type (a : DeviceArray) : ElementType := a.storage.type

def layout (a : DeviceArray) : Layout := a.storage.layout

def size (a : DeviceArray) : Nat := a.shape.size

/-- Bytes of the buffer and of the host store. -/
def byteSize (a : DeviceArray) : Nat := a.size * a.type.width

def isView (a : DeviceArray) : Bool :=
  match a.ownership with
  | .owner => false
  | .view _ => true

/-- The owner that an array shares its storage with, which may be the array itself. -/
def root (a : DeviceArray) : Root :=
  match a.ownership with
  | .owner => ⟨a.shape, a.stream⟩
  | .view root => root

/-- The owner that a view shares its storage with. -/
def base? (a : DeviceArray) : Option DeviceArray :=
  match a.ownership with
  | .owner => none
  | .view root => some ⟨a.storage, root.shape, root.stream, .owner⟩

/-- Whether both arrays are kept in the same buffer. -/
def sameStorage (a b : DeviceArray) : Bool := a.device.same b.device && a.buffer = b.buffer

def description (a : DeviceArray) : String :=
  "OffloadArray \x7b shape: Shape(" ++ listText a.shape.extents ++ "), dtype: " ++ a.type.upperName
    ++ ", layout: " ++ a.layout.name ++ ", device: " ++ a.device.idText ++ ", stream: "
    ++ a.stream.numberText ++ ", buffer: BufferHandle(" ++ toString a.buffer.number ++ "), view: "
    ++ toString a.isView ++ " \x7d"

/-- Ends an array: an owner queues the release of its buffer, and nobody hears of a failure. -/
def drop (a : DeviceArray) : Client Unit :=
  match a.ownership with
  | .owner => do
    let _ ← (a.stream.release a.buffer).run
    return ()
  | .view _ => return ()

/-- Ends an owner by queuing the release of its buffer. -/
def release (a : DeviceArray) : Call Unit :=
  match a.ownership with
  | .owner => a.stream.release a.buffer
  | .view _ => throw (.invalidArgument .releaseOfView)

/-- The kernel of the device's library that arrays use for some work. -/
def kernel (a : DeviceArray) (k : ElementwiseKernel) : Call Kernel :=
  Call.check ((a.device.library.get k.name).mapError .device)

/-- Hands the array on to another stream of its device. Work queued before is not waited for. -/
def assignStream (a : DeviceArray) (stream : Stream) : Except Error DeviceArray :=
  if stream.device.same a.device then .ok { a with stream }
  else .error (.deviceMismatch a.device.id stream.device.id)

end DeviceArray

end DeviceArrays

/-!
# Identifiers

Names of buffers and of devices, and how they are written.
-/
namespace DeviceArrays

/-- A buffer of one device. Every device numbers its own buffers, starting with one. -/
structure BufferId where
  number : Nat
  deriving DecidableEq, Repr

/-- The index a device is known by. Two devices may carry the same index. -/
structure DeviceId where
  index : Nat
  deriving DecidableEq, Repr

def BufferId.text (b : BufferId) : String := "buf" ++ toString b.number

def DeviceId.text (d : DeviceId) : String := "dev" ++ toString d.index

end DeviceArrays

import DeviceArrays.DeviceError
import DeviceArrays.Word

/-!
# Faults

Work on a device can end in two ways other than success: it reports an error, or it crashes. Sizes
are computed in machine words, and a product or sum that leaves the word crashes.
-/
namespace DeviceArrays

/-- How work on a device fails. A crash may leave a text. -/
inductive Fault
  | error (e : DeviceError)
  | crash (message : Option String)
  deriving DecidableEq

/-- Work on a device that may fail. -/
abbrev Attempt := Except Fault

/-- The largest number of bytes a list of results may take. -/
def largestAllocation : Nat := wordBound / 2 - 1

namespace Attempt

def fail {α : Type} (e : DeviceError) : Attempt α := .error (.error e)

def crash {α : Type} (message : String) : Attempt α := .error (.crash (some message))

/-- An answer of the device's memory as a step of larger work. -/
def ofAnswer {α : Type} : Except DeviceError α → Attempt α
  | .ok a => .ok a
  | .error e => fail e

/-- The product of two sizes. -/
def product (a b : Nat) : Attempt Nat :=
  if a * b < wordBound then .ok (a * b) else crash "attempt to multiply with overflow"

/-- The sum of two sizes. -/
def sum (a b : Nat) : Attempt Nat :=
  if a + b < wordBound then .ok (a + b) else crash "attempt to add with overflow"

/-- Crashes where `count` elements of `width` bytes are more than can be allocated. -/
def reserve (count width : Nat) : Attempt Unit :=
  if count * width ≤ largestAllocation then .ok () else crash "capacity overflow"

end Attempt

end DeviceArrays

/-!
# Settings

How many devices a platform has, and how its streams behave.
-/
namespace DeviceArrays

/-- How a stream behaves: whether a launch waits for its kernel, and from how many microseconds on
a kernel is logged. -/
structure StreamOptions where
  blockingLaunches : Bool := false
  threshold : Option Nat := none
  deriving DecidableEq, Repr

structure Settings where
  deviceCount : Nat := 1
  blockingLaunches : Bool := false
  threshold : Option Nat := none
  deriving DecidableEq, Repr

/-- The options of the streams that a platform opens. -/
def Settings.streamOptions (s : Settings) : StreamOptions := ⟨s.blockingLaunches, s.threshold⟩

end DeviceArrays

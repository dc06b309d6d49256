/-!
# Machine words

Sizes, counts and extents are natural numbers that fit in one machine word.
-/
namespace DeviceArrays

/-- Sizes are below this bound. -/
def wordBound : Nat := UInt64.size

end DeviceArrays

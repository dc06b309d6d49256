import DeviceArrays.Text.Alphabetic
import DeviceArrays.Text.Numeric

/-!
# Letters and numerals
-/
namespace DeviceArrays

/-- A letter or a numeral of any script. -/
def isAlphanumeric (c : Char) : Bool := isAlphabetic c || isNumeric c

end DeviceArrays

import DeviceArrays.Text.Blank
import DeviceArrays.Text.Natural

/-!
# Environments

Variables with texts, and the numbers and truth values that can be read from them.
-/
namespace DeviceArrays

/-- The text of each variable that is set. -/
abbrev Environment := String → Option String

/-- Text in lower case, letters beyond ASCII as they are. -/
def lowerCase (cs : List Char) : List Char := cs.map Char.toLower

namespace Environment

/-- A number in a variable, blank space around it allowed. -/
def natural? (env : Environment) (name : String) : Option Nat := do
  readNatural? (trimBlank (← env name).toList)

/-- A truth value in a variable, in letters of any case. -/
def truth? (env : Environment) (name : String) : Option Bool := do
  let word := String.ofList (lowerCase (trimBlank (← env name).toList))
  if word ∈ ["true", "1", "yes"] then some true
  else if word ∈ ["false", "0", "no"] then some false
  else none

end Environment

end DeviceArrays

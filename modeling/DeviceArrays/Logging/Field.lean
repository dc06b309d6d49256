import DeviceArrays.Environment
import DeviceArrays.Text.Pattern

/-!
# Log fields

A directive may ask for a field by its name, and for a value of the field: a truth value, a number,
or a pattern that the text of the value has to match.
-/
namespace DeviceArrays.Logging

/-- A field that is asked for, by name alone or with a value. -/
structure Field where
  name : List Char
  valued : Bool
  deriving DecidableEq, Repr

/-- A decimal number: digits before or behind a point, and perhaps a power of ten. -/
def isDecimal (cs : List Char) : Bool :=
  let whole := cs.takeWhile Char.isDigit
  let behind := cs.dropWhile Char.isDigit
  let fraction := if behind.head? = some '.' then behind.tail.takeWhile Char.isDigit else []
  let power := if behind.head? = some '.' then behind.tail.dropWhile Char.isDigit else behind
  (whole ≠ [] || fraction ≠ []) &&
    match power with
    | [] => true
    | e :: cs =>
      let digits := if cs.head? = some '+' || cs.head? = some '-' then cs.tail else cs
      e.toLower = 'e' && digits ≠ [] && digits.all Char.isDigit

/-- A number with or without a sign; infinity and NaN count, in letters of any case. -/
def isNumber (cs : List Char) : Bool :=
  let unsigned := if cs.head? = some '+' || cs.head? = some '-' then cs.tail else cs
  isDecimal unsigned || String.ofList (lowerCase unsigned) ∈ ["inf", "infinity", "nan"]

/-- Whether a text is a value to ask for. Truth values are patterns too. -/
def checkValue (cs : List Char) : Except PatternProblem Unit :=
  if isNumber cs then .ok () else Pattern.check cs

/-- Reads a field: a name, or a name, an equals sign and a value. Nothing counts from a second
equals sign on. -/
def Field.ofText (cs : List Char) : Except PatternProblem Field :=
  let name := cs.takeWhile (· ≠ '=')
  match cs.dropWhile (· ≠ '=') with
  | [] => .ok ⟨name, false⟩
  | _ :: behind => do
    checkValue (behind.takeWhile (· ≠ '='))
    return ⟨name, true⟩

end DeviceArrays.Logging

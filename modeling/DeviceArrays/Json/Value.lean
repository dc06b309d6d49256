import DeviceArrays.Json.Token

/-!
# JSON values

A value is read from tokens with a stack of the arrays and objects it is inside of, and written
without blanks.
-/
namespace DeviceArrays

/-- A JSON value. Strings and keys are sequences of UTF-16 units. -/
inductive Json
  | null
  | truth (value : Bool)
  | number (value : Json.Number)
  | text (units : List UInt16)
  | array (items : List Json)
  | object (members : List (List UInt16 × Json))

namespace Json

/-- An array or object that is not finished. Its parts so far are kept with the latest first. -/
inductive Frame
  | array (items : List Json)
  | object (members : List (List UInt16 × Json)) (key : List UInt16)

/-- What the next token has to be. `afterOpen` is the place where an array or object may also end
at once. -/
inductive Expecting
  | value
  | valueOrEnd
  | key (members : List (List UInt16 × Json)) (afterOpen : Bool)
  | colon
  | commaOrEnd
  | nothing (result : Json)

/-- Where the reader stands: the frames around it, the innermost first. -/
structure Reader where
  frames : List Frame
  expecting : Expecting

/-- A finished value in its place. -/
def Reader.put (frames : List Frame) (value : Json) : Reader :=
  match frames with
  | [] => ⟨[], .nothing value⟩
  | .array items :: outer => ⟨.array (value :: items) :: outer, .commaOrEnd⟩
  | .object members key :: outer => ⟨.object ((key, value) :: members) key :: outer, .commaOrEnd⟩

/-- A token where a value begins. -/
def Reader.begin (frames : List Frame) : Token → Option Reader
  | .null => some (put frames .null)
  | .truth value => some (put frames (.truth value))
  | .number value => some (put frames (.number value))
  | .text units => some (put frames (.text units))
  | .openBracket => some ⟨.array [] :: frames, .valueOrEnd⟩
  | .openBrace => some ⟨frames, .key [] true⟩
  | _ => none

/-- One token. -/
def Reader.step (r : Reader) (token : Token) : Option Reader :=
  match r.expecting, r.frames, token with
  | .value, frames, token => Reader.begin frames token
  | .valueOrEnd, .array items :: outer, .closeBracket => some (put outer (.array items.reverse))
  | .valueOrEnd, frames, token => Reader.begin frames token
  | .key members _, frames, .text key => some ⟨.object members key :: frames, .colon⟩
  | .key members true, frames, .closeBrace => some (put frames (.object members.reverse))
  | .colon, frames, .colon => some ⟨frames, .value⟩
  | .commaOrEnd, .array items :: outer, .comma => some ⟨.array items :: outer, .value⟩
  | .commaOrEnd, .array items :: outer, .closeBracket => some (put outer (.array items.reverse))
  | .commaOrEnd, .object members _ :: outer, .comma => some ⟨outer, .key members false⟩
  | .commaOrEnd, .object members _ :: outer, .closeBrace =>
    some (put outer (.object members.reverse))
  | _, _, _ => none

/-- The one value that a text holds. -/
def ofText? (text : String) : Option Json := do
  let tokens ← tokens? text.toList
  match ← tokens.foldlM Reader.step ⟨[], .value⟩ with
  | ⟨_, .nothing result⟩ => some result
  | _ => none

/-- The units of a text. -/
def unitsOfString (text : String) : List UInt16 := text.toList.flatMap unitsOf

/-- The text of some units, unless a surrogate stands alone. -/
def stringOf? (units : List UInt16) : Option String := (charactersOf? units).map String.ofList

def ofString (text : String) : Json := .text (unitsOfString text)

def ofNat (n : Nat) : Json := .number (.natural n)

/-- A hexadecimal digit in lower case. -/
def hexDigit (n : Nat) : Char := Char.ofNat (if n < 10 then '0'.toNat + n else 'a'.toNat + (n - 10))

/-- The escape of a unit by its number. -/
def hexEscape (u : UInt16) : List Char :=
  ['\\', 'u', hexDigit (u.toNat / 4096), hexDigit (u.toNat / 256 % 16),
    hexDigit (u.toNat / 16 % 16), hexDigit (u.toNat % 16)]

/-- A unit inside a string. Quotes, backslashes, control characters and surrogates are escaped. -/
def writeUnit (u : UInt16) : List Char :=
  if u = 0x22 then ['\\', '"']
  else if u = 0x5c then ['\\', '\\']
  else if u = 0x08 then ['\\', 'b']
  else if u = 0x0c then ['\\', 'f']
  else if u = 0x0a then ['\\', 'n']
  else if u = 0x0d then ['\\', 'r']
  else if u = 0x09 then ['\\', 't']
  else if u < 0x20 ∨ (0xd800 ≤ u ∧ u < 0xe000) then hexEscape u
  else [Char.ofNat u.toNat]

def writeText (units : List UInt16) : List Char := '"' :: units.flatMap writeUnit ++ ['"']

def Number.write : Number → List Char
  | .natural n => Nat.toDigits 10 n
  | .other characters => characters

mutual

/-- The characters of a value. -/
def write : Json → List Char
  | .null => "null".toList
  | .truth true => "true".toList
  | .truth false => "false".toList
  | .number value => value.write
  | .text units => writeText units
  | .array items => '[' :: writeItems items ++ [']']
  | .object members => '\x7b' :: writeMembers members ++ ['\x7d']

/-- Items with commas between them. -/
def writeItems : List Json → List Char
  | [] => []
  | [item] => write item
  | item :: next :: rest => write item ++ ',' :: writeItems (next :: rest)

/-- Members with commas between them. -/
def writeMembers : List (List UInt16 × Json) → List Char
  | [] => []
  | [(key, value)] => writeText key ++ ':' :: write value
  | (key, value) :: next :: rest =>
    writeText key ++ ':' :: write value ++ ',' :: writeMembers (next :: rest)

end

/-- The text of a value. -/
def toText (j : Json) : String := String.ofList j.write

end Json

end DeviceArrays

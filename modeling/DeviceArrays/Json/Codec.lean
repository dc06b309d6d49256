import DeviceArrays.ElementType
import DeviceArrays.Identifier
import DeviceArrays.Json.Value
import DeviceArrays.Settings
import DeviceArrays.Shape

/-!
# JSON forms

How element types, layouts, device identifiers and settings are written as JSON, and what is
accepted for them. Settings may leave fields out, and as an object may hold fields of other names.
-/
namespace DeviceArrays

namespace Json

/-- A name by itself, or as the only key of an object with the value null. -/
def name? : Json → Option String
  | .text units => stringOf? units
  | .object [(key, .null)] => stringOf? key
  | _ => none

def word? : Json → Option Nat
  | .number (.natural n) => if n < wordBound then some n else none
  | _ => none

def truth? : Json → Option Bool
  | .truth value => some value
  | _ => none

/-- A word, or null for its absence. -/
def optionalWord? : Json → Option (Option Nat)
  | .null => some none
  | j => (word? j).map some

end Json

namespace ElementType

def toJson (t : ElementType) : Json := .ofString t.name

def ofJson? (j : Json) : Option ElementType := do ofName? (← j.name?)

end ElementType

namespace Layout

def toJson (l : Layout) : Json := .ofString l.name

def ofJson? (j : Json) : Option Layout := do
  let name ← j.name?
  [rowMajor, columnMajor].find? (·.name = name)

end Layout

namespace DeviceId

def toJson (d : DeviceId) : Json := .ofNat d.index

def ofJson? (j : Json) : Option DeviceId := j.word?.map DeviceId.mk

end DeviceId

namespace Settings

/-- The fields by name, in the order they are written. -/
inductive Field
  | deviceCount
  | blockingLaunches
  | threshold
  deriving DecidableEq, Repr

namespace Field

def name : Field → String
  | .deviceCount => "device_count"
  | .blockingLaunches => "blocking_launches"
  | .threshold => "perf_threshold_us"

def all : List Field := [.deviceCount, .blockingLaunches, .threshold]

/-- Settings with the field read from a value. -/
def set? (s : Settings) (value : Json) : Field → Option Settings
  | .deviceCount => value.word?.map fun n => { s with deviceCount := n }
  | .blockingLaunches => value.truth?.map fun b => { s with blockingLaunches := b }
  | .threshold => value.optionalWord?.map fun t => { s with threshold := t }

def get (s : Settings) : Field → Json
  | .deviceCount => .ofNat s.deviceCount
  | .blockingLaunches => .truth s.blockingLaunches
  | .threshold => (s.threshold.map Json.ofNat).getD .null

end Field

def toJson (s : Settings) : Json :=
  .object (Field.all.map fun f => (Json.unitsOfString f.name, f.get s))

/-- Reads the members of an object, given the fields read so far. A known field may come once. -/
def ofMembers? (s : Settings) (seen : List Field) : List (List UInt16 × Json) → Option Settings
  | [] => some s
  | (key, value) :: rest => do
    let name ← Json.stringOf? key
    match Field.all.find? (·.name = name) with
    | none => ofMembers? s seen rest
    | some f =>
      if f ∈ seen then none
      else ofMembers? (← f.set? s value) (f :: seen) rest

/-- Reads the items of an array for the fields in order. -/
def ofItems? (s : Settings) : List Field → List Json → Option Settings
  | _, [] => some s
  | [], _ :: _ => none
  | f :: fields, item :: rest => do ofItems? (← f.set? s item) fields rest

/-- Settings that leave a field out have its default. -/
def ofJson? : Json → Option Settings
  | .object members => ofMembers? {} [] members
  | .array items => ofItems? {} Field.all items
  | _ => none

end Settings

end DeviceArrays

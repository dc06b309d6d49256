import DeviceArrays.Logging.Field
import DeviceArrays.Text.Cursor

/-!
# Log directives

A directive gives a level to the targets that begin with its own, or to every target. It is written
as a target, an equals sign and a level, as a target alone, or as a level alone. Square brackets
behind the target, or in its place, restrict it to a span by name and to a field in braces.
-/
namespace DeviceArrays.Logging

/-- How much is logged, from nothing to everything. -/
inductive Level
  | off
  | error
  | warn
  | info
  | debug
  | trace
  deriving DecidableEq, Repr

namespace Level

def all : List Level := [off, error, warn, info, debug, trace]

/-- How many of the five kinds of events pass. -/
def rank : Level → Nat
  | off => 0
  | error => 1
  | warn => 2
  | info => 3
  | debug => 4
  | trace => 5

def name : Level → String
  | off => "off"
  | error => "error"
  | warn => "warn"
  | info => "info"
  | debug => "debug"
  | trace => "trace"

/-- A level by its rank or by its name in letters of any case. -/
def ofText? (cs : List Char) : Option Level :=
  match readNatural? cs with
  | some n => all[n]?
  | none => all.find? (·.name = String.ofList (lowerCase cs))

end Level

/-- Why a text is no directive. -/
inductive DirectiveProblem
  | malformed
  | unknownLevel
  | badField (problem : PatternProblem)
  deriving DecidableEq, Repr

def DirectiveProblem.message : DirectiveProblem → String
  | .malformed => "invalid filter directive"
  | .unknownLevel =>
    "error parsing level filter: expected one of \"off\", \"error\", \"warn\", \"info\", "
      ++ "\"debug\", \"trace\", or a number 0-5"
  | .badField problem => "invalid field filter: " ++ problem.message

/-- A level for the targets that begin with some text; without one, for all targets. It may be meant
for the inside of a span, or for a field. -/
structure Directive where
  target : Option (List Char)
  span : Option (List Char)
  field : Option Field
  level : Level
  deriving DecidableEq, Repr

namespace Directive

/-- A directive about targets alone. -/
def plain (target : Option (List Char)) (level : Level) : Directive :=
  ⟨target, none, none, level⟩

/-- A target begins with a letter or digit of any script, a hyphen, a colon or an underscore. -/
def beginsTarget (c : Char) : Bool := c = '-' || c = ':' || c = '_' || isAlphanumeric c

/-- The level behind an equals sign; nothing there means everything. -/
def levelOfText (cs : List Char) : Except DirectiveProblem Level :=
  if cs = [] then .ok .trace
  else
    match Level.ofText? cs with
    | some level => .ok level
    | none => .error .unknownLevel

/-- Reads the end of a directive: nothing, or an equals sign and a level. -/
def readEnd (c : Cursor) : Except DirectiveProblem Level :=
  match c.ahead with
  | [] => .ok .trace
  | '=' :: _ => levelOfText c.next.rest
  | _ => .error .malformed

/-- Reads a field up to the brace and the bracket behind it. -/
def readField (c : Cursor) : Except DirectiveProblem (Field × Cursor) := do
  match c.upTo? ['\x7d'] with
  | none => throw .malformed
  | some (text, _, behind) =>
    if text = [] then throw .malformed
    let field ← (Field.ofText text).mapError .badField
    match behind.ahead with
    | ']' :: _ => return (field, behind.next)
    | _ => throw .malformed

/-- Reads a directive from behind its opening bracket on: the name of a span, or a field with or
without such a name. -/
def readScope (target : Option (List Char)) (c : Cursor) : Except DirectiveProblem Directive := do
  match c.upTo? [']', '\x7b'] with
  | none => throw .malformed
  | some (span, ']', behind) => return ⟨target, some span, none, ← readEnd behind⟩
  | some (span, _, behind) =>
    let (field, behind) ← readField behind
    return ⟨target, if span = [] then none else some span, some field, ← readEnd behind⟩

/-- Reads one directive. A text without marks is a level if it can be one, and else a target. -/
def ofText (cs : List Char) : Except DirectiveProblem Directive :=
  let c := Cursor.ofText cs
  match c.ahead with
  | [] => .error .malformed
  | '[' :: _ => readScope none c.next
  | first :: _ =>
    if !beginsTarget first then .error .malformed
    else
      match c.upTo? ['=', '['] with
      | none => .ok (((Level.ofText? cs).map (plain none)).getD (plain (some cs) .trace))
      | some (target, '=', behind) => (levelOfText behind.rest).map (plain (some target))
      | some (target, _, behind) => readScope (some target) behind

/-- Whether the directive holds outside of all spans too. One that asks for a span, or for a value,
is decided inside of spans alone. -/
def isGeneral (d : Directive) : Bool := d.span.isNone && d.field.all (!·.valued)

/-- Whether the directive speaks about spans or their fields. -/
def isScoped (d : Directive) : Bool := d.span.isSome || d.field.isSome

/-- Whether the directive speaks about a target. -/
def covers (d : Directive) (target : List Char) : Bool :=
  d.isGeneral && (d.target.getD []).isPrefixOf target

/-- How specific the target of a directive is. -/
def specificity (d : Directive) : Nat := (d.target.map (·.length + 1)).getD 0

/-- Whether a field weighs no more than another: none weighs least, and of two names the later one
in the order of code points weighs most. -/
def fieldAtMost : Option Field → Option Field → Bool
  | none, _ => true
  | some _, none => false
  | some f, some g => !List.lex g.name f.name fun c d => c.toNat < d.toNat

/-- Whether a directive takes the place of one before it that covers the same target: it does unless
it is less specific. -/
def replaces (d e : Directive) : Bool :=
  e.specificity < d.specificity ||
    (e.specificity = d.specificity && fieldAtMost e.field d.field)

end Directive

end DeviceArrays.Logging

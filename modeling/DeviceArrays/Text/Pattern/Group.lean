import DeviceArrays.Text.Alphanumeric
import DeviceArrays.Text.Pattern.Escape

/-!
# Groups in patterns

What an opening parenthesis begins: a group, a group with a name, a group in another mode, or a
change of mode up to the end of the group around it.
-/
namespace DeviceArrays.Pattern

/-- What a parenthesis begins. -/
inductive Opening
  | group (mode : Mode)
  | named (name : List Char)
  | change (mode : Mode)
  deriving DecidableEq, Repr

/-- A name begins with a letter or an underscore. -/
def isName : List Char → Bool
  | [] => false
  | c :: cs =>
    (c = '_' || isAlphabetic c) && cs.all fun d => d ∈ ['_', '.', '[', ']'] || isAlphanumeric d

/-- Reads a name and the angle bracket behind it. -/
def readName? (cs : List Char) : Option (Opening × List Char) :=
  match cs.dropWhile (· ≠ '>') with
  | [] => none
  | _ :: rest =>
    let name := cs.takeWhile (· ≠ '>')
    if isName name then some (.named name, rest) else none

/-- Reads flag letters, the last one read first in `seen`. Those behind a hyphen are switched off,
and none may come twice. -/
def readFlags? (seen : List Char) (m : Mode) : List Char → Option (Opening × List Char)
  | [] => none
  | c :: cs =>
    if c = ':' ∨ c = ')' then
      if seen.head? = some '-' then none
      else if c = ':' then some (.group m, cs)
      else if seen = [] then none
      else some (.change m, cs)
    else if c ∈ seen ∨ c ∉ ['-', 'i', 'm', 's', 'U', 'u', 'R', 'x'] then none
    else readFlags? (c :: seen) (m.switch c ('-' ∉ seen)) cs

/-- Reads what an opening parenthesis begins. -/
def readOpening? (m : Mode) (cs : List Char) : Option (Opening × List Char) :=
  match m.skip cs with
  | '?' :: 'P' :: '<' :: rest | '?' :: '<' :: rest => readName? rest
  | '?' :: rest => readFlags? [] m rest
  | rest => some (.group m, rest)

end DeviceArrays.Pattern

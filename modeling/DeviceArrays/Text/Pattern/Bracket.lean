import DeviceArrays.Text.Pattern.Escape

/-!
# Brackets in patterns

A choice of characters between square brackets: characters, ranges, named classes, further brackets,
and the signs that join two choices.
-/
namespace DeviceArrays.Pattern

/-- The names that may stand between colons. -/
def classNames : List String :=
  ["alnum", "alpha", "ascii", "blank", "cntrl", "digit", "graph", "lower", "print", "punct",
    "space", "upper", "word", "xdigit"]

/-- Reads a named class behind its first bracket: whether it is negated, and the text behind it. -/
def readNamed? : List Char → Option (Bool × List Char)
  | ':' :: cs =>
    let named := if cs.head? = some '^' then cs.tail else cs
    match named.dropWhile (· ≠ ':') with
    | ':' :: ']' :: rest =>
      if String.ofList (named.takeWhile (· ≠ ':')) ∈ classNames then
        some (cs.head? = some '^', rest)
      else none
    | _ => none
  | _ => none

/-- Whether a named class may be used. -/
def isNamedAllowed (m : Mode) (negated : Bool) : Bool :=
  if m.unicode then !m.anyCase else !negated

/-- The text behind an opening bracket and the caret that may follow it. -/
def readOpen? (m : Mode) (cs : List Char) : Option (List Char) :=
  match m.skip cs with
  | '^' :: rest => if m.unicode then some rest else none
  | rest => some rest

/-- The character that a hyphen is judged by: the next one, in a spaced pattern the next one behind
blanks and one number sign among them. -/
def follower? (m : Mode) (cs : List Char) : Option Char :=
  let text := cs.dropWhile isBlank
  let ahead := if text.head? = some '#' then text.tail.dropWhile isBlank else text
  if m.spaced then ahead.head? <|> cs.head? else cs.head?

/-- Reads a member or a range of characters. A hyphen in front of the closing bracket or of another
hyphen makes no range. -/
def readMember? (m : Mode) (cs : List Char) : Option (List Char) := do
  let (first, rest) ← readItem? m cs
  if !first.isMember m then none
  else
    match m.skip rest with
    | '-' :: behind => do
      if follower? m behind = some ']' || follower? m behind = some '-' then some ('-' :: behind)
      else
        let (last, rest) ← readItem? m (m.skip behind)
        if last.isMember m && (← first.char?).toNat ≤ (← last.char?).toNat then some rest
        else none
    | rest => some rest

/-- Where in a pair of brackets the next character stands. -/
inductive Place
  | front
  | hyphens
  | inside
  deriving DecidableEq, Repr

/-- What has been read in a pair of brackets: how deep its members nest, the last one first, back to
the last sign that joins two choices, and how deep the choice before that sign does. -/
structure Choice where
  before : Option Nat
  members : List Nat
  deriving DecidableEq, Repr

namespace Choice

def empty : Choice := ⟨none, []⟩

def add (c : Choice) (depth : Nat) : Choice := { c with members := depth :: c.members }

/-- How deep a choice nests. -/
def depth (c : Choice) : Nat :=
  match c.before with
  | none => joined c.members
  | some before => max before (joined c.members) + 1

/-- Goes on behind a sign that joins the choice so far with the one to come. -/
def join (c : Choice) : Choice := ⟨some c.depth, []⟩

end Choice

/-- Reads up to the bracket that closes the outermost one, and tells how deep the whole nests. In
front a hyphen stands for itself, and so does a closing bracket that nothing precedes. -/
def readBrackets? (m : Mode) : Nat → Place → Choice → List Choice → List Char →
    Option (Nat × List Char)
  | 0, _, _, _, _ => none
  | fuel + 1, place, c, outer, cs =>
    match place, m.skip cs with
    | _, [] => none
    | .front, '-' :: rest | .hyphens, '-' :: rest =>
      if (Item.char '-').isMember m then readBrackets? m fuel .hyphens (c.add 0) outer rest
      else none
    | .front, ']' :: rest =>
      if (Item.char ']').isMember m then readBrackets? m fuel .inside (c.add 0) outer rest
      else none
    | _, ']' :: rest =>
      match outer with
      | [] => some (c.depth + 1, rest)
      | around :: outer => readBrackets? m fuel .inside (around.add (c.depth + 1)) outer rest
    | _, '[' :: rest =>
      match readNamed? rest with
      | some (negated, rest) =>
        if isNamedAllowed m negated then readBrackets? m fuel .inside (c.add 0) outer rest
        else none
      | none => do readBrackets? m fuel .front .empty (c :: outer) (← readOpen? m rest)
    | _, '&' :: '&' :: rest | _, '-' :: '-' :: rest | _, '~' :: '~' :: rest =>
      readBrackets? m fuel .inside c.join outer rest
    | _, cs => do readBrackets? m fuel .inside (c.add 0) outer (← readMember? m cs)

/-- Reads a choice of characters behind its opening bracket. -/
def readChoice? (m : Mode) (cs : List Char) : Option (Nat × List Char) := do
  readBrackets? m (cs.length + 1) .front .empty [] (← readOpen? m cs)

end DeviceArrays.Pattern

import DeviceArrays.Text.Pattern.Bracket
import DeviceArrays.Text.Pattern.Group

/-!
# Patterns

Whether a text is a pattern that texts can be matched with. Patterns are read and not run here. A
repetition by a count in braces is refused, and so is a pattern that nests too deep.
-/
namespace DeviceArrays

/-- Why a text is no pattern to match with. -/
inductive PatternProblem
  | malformed
  | wordEdge
  deriving DecidableEq, Repr

def PatternProblem.message : PatternProblem → String
  | .malformed => "error building NFA"
  | .wordEdge =>
    "unsupported regex feature for DFAs: cannot build DFAs for regexes with Unicode word "
      ++ "boundaries; switch to ASCII word boundaries, or heuristically enable Unicode word "
      ++ "boundaries or use a different regex engine"

namespace Pattern

/-- How deep a pattern may nest. Groups, repetitions and brackets are a level each, and so are items
in a row, alternatives, members between brackets, and signs that join two choices. -/
def deepest : Nat := 250

/-- What has been read of a group: how deep the alternatives before the last bar nest, and the items
behind it, the last one first. -/
structure Body where
  alternatives : List Nat
  items : List Nat
  deriving DecidableEq, Repr

namespace Body

def empty : Body := ⟨[], []⟩

def add (b : Body) (depth : Nat) : Body := { b with items := depth :: b.items }

/-- Goes on behind a bar. -/
def bar (b : Body) : Body := ⟨joined b.items :: b.alternatives, []⟩

/-- Repeats the last item. -/
def repeated (b : Body) : Body :=
  { b with items := b.items.head?.toList.map (· + 1) ++ b.items.tail }

/-- How deep a group nests inside. -/
def depth (b : Body) : Nat := joined (joined b.items :: b.alternatives)

end Body

/-- What is known of a pattern up to some place: the mode there and what has been read of the
innermost group, the same for the groups around it, the names of groups, whether something stands
before that can be repeated, and whether edges of words of any script were asked for. -/
structure Progress where
  mode : Mode
  body : Body
  outer : List (Mode × Body)
  names : List (List Char)
  repeatable : Bool
  wordEdge : Bool

namespace Progress

def initial : Progress := ⟨.initial, .empty, [], [], false, false⟩

/-- Goes on behind an opening parenthesis; no two groups have one name. -/
def enter? (s : Progress) : Opening → Option Progress
  | .group mode =>
    some { s with mode, body := .empty, outer := (s.mode, s.body) :: s.outer, repeatable := false }
  | .named name =>
    if name ∈ s.names then none
    else
      some { s with
        body := .empty
        outer := (s.mode, s.body) :: s.outer
        names := name :: s.names
        repeatable := false }
  | .change mode => some { s with mode, body := s.body.add 0, repeatable := false }

/-- Goes on behind a closing parenthesis. -/
def leave? (s : Progress) : Option Progress :=
  match s.outer with
  | [] => none
  | (mode, body) :: outer =>
    some { s with mode, body := body.add (s.body.depth + 1), outer, repeatable := true }

/-- Goes on behind a bar. -/
def bar (s : Progress) : Progress := { s with body := s.body.bar, repeatable := false }

/-- Goes on behind a part that nests so deep and can be repeated. -/
def add (s : Progress) (depth : Nat) : Progress :=
  { s with body := s.body.add depth, repeatable := true }

/-- Goes on behind a sign that repeats the last part. -/
def repeat? (s : Progress) : Option Progress :=
  if s.repeatable then some { s with body := s.body.repeated } else none

/-- Goes on behind one item. -/
def item? (s : Progress) (i : Item) : Option Progress :=
  if i.isAllowed s.mode then
    some { s.add 0 with wordEdge := s.wordEdge || (i = .wordEdge && s.mode.unicode) }
  else none

end Progress

/-- Reads a pattern to its end. A question mark right behind a sign that repeats belongs to it. -/
def read? : Nat → Progress → List Char → Option Progress
  | 0, _, _ => none
  | fuel + 1, s, cs =>
    match s.mode.skip cs with
    | [] => if s.outer.isEmpty && s.body.depth ≤ deepest then some s else none
    | '(' :: rest => do
      let (opening, rest) ← readOpening? s.mode rest
      read? fuel (← s.enter? opening) rest
    | ')' :: rest => do read? fuel (← s.leave?) rest
    | '|' :: rest => read? fuel s.bar rest
    | '[' :: rest => do
      let (depth, rest) ← readChoice? s.mode rest
      read? fuel (s.add depth) rest
    | '?' :: rest | '*' :: rest | '+' :: rest => do
      read? fuel (← s.repeat?) (if rest.head? = some '?' then rest.tail else rest)
    | '\x7b' :: _ => none
    | '.' :: rest => if s.mode.unicode then read? fuel (s.add 0) rest else none
    | '^' :: rest | '$' :: rest => read? fuel (s.add 0) rest
    | cs => do
      let (i, rest) ← readItem? s.mode cs
      read? fuel (← s.item? i) rest

/-- Whether a text can be matched with. -/
def check (cs : List Char) : Except PatternProblem Unit :=
  match read? (cs.length + 1) .initial cs with
  | none => .error .malformed
  | some s => if s.wordEdge then .error .wordEdge else .ok ()

end Pattern

end DeviceArrays

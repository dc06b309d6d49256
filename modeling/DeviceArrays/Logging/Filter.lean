import DeviceArrays.Logging.Directive

/-!
# Log filters

A filter is a list of directives. For a target the one with the longest matching text decides, the
last of equal ones; where none decides, nothing passes. A text that is read leniently lets errors
through if it holds no directive at all.
-/
namespace DeviceArrays.Logging

/-- The directives in the order in which they were added. -/
structure Filter where
  directives : List Directive
  deriving DecidableEq, Repr

/-- The parts of a text between commas. -/
def splitCommas : List Char → List (List Char)
  | [] => [[]]
  | c :: rest =>
    match splitCommas rest with
    | [] => [[c]]
    | piece :: pieces => if c = ',' then [] :: piece :: pieces else (c :: piece) :: pieces

theorem splitCommas_ne_nil (cs : List Char) : splitCommas cs ≠ [] := by
  cases cs with
  | nil => simp [splitCommas]
  | cons c cs =>
    rw [splitCommas]
    split
    · simp
    · split <;> simp

namespace Filter

/-- Directives about targets alone are added before those about spans and fields. -/
def ofDirectives (ds : List Directive) : Filter :=
  ⟨ds.filter (!·.isScoped) ++ ds.filter (·.isScoped)⟩

/-- Errors of every target pass. -/
def errors : Filter := ⟨[.plain none .error]⟩

/-- The texts of the directives in a comma-separated list; empty ones are skipped. -/
def pieces (text : String) : List (List Char) := (splitCommas text.toList).filter (· ≠ [])

/-- Reads a list of directives, every one of which has to be right. -/
def ofText (text : String) : Except DirectiveProblem Filter := do
  return ofDirectives (← (pieces text).mapM Directive.ofText)

/-- Reads a list of directives and leaves out those that are wrong. If none is left, errors pass. -/
def ofTextLeniently (text : String) : Filter :=
  match (pieces text).filterMap fun piece => (Directive.ofText piece).toOption with
  | [] => errors
  | ds => ofDirectives ds

def add (f : Filter) (d : Directive) : Filter := ⟨f.directives ++ [d]⟩

/-- The better of the directive so far and the next one. -/
def prefer (target : List Char) (best : Option Directive) (d : Directive) : Option Directive :=
  if !d.covers target then best
  else
    match best with
    | none => some d
    | some b => if d.replaces b then some d else some b

/-- The directive that decides about a target. -/
def deciding? (f : Filter) (target : List Char) : Option Directive :=
  f.directives.foldl (prefer target) none

/-- The level of a target; nothing passes where no directive decides. -/
def level (f : Filter) (target : List Char) : Level :=
  ((f.deciding? target).map (·.level)).getD .off

end Filter

end DeviceArrays.Logging

import DeviceArrays.Logging.Filter
import DeviceArrays.Logging.Timing

/-!
# Log settings

Presets for three places of use, overrides from the environment, and the filter that the settings
amount to. One target carries the timings of kernels and copies, and a flag alone decides about it.
-/
namespace DeviceArrays.Logging

/-- How a log line is laid out. -/
inductive Output
  | compact
  | pretty
  | json
  deriving DecidableEq, Repr

namespace Output

def name : Output → String
  | compact => "Compact"
  | pretty => "Pretty"
  | json => "Json"

/-- A layout by its name in letters of any case, blank space around it allowed. -/
def ofText? (text : String) : Option Output :=
  let word := lowerCase (trimBlank text.toList)
  [compact, pretty, json].find? fun o => lowerCase o.name.toList = word

end Output

/-- Which events in the life of a span are logged. -/
inductive SpanEvents
  | none
  | close
  deriving DecidableEq, Repr

structure Settings where
  directives : Option String
  defaultDirective : String
  includeTargets : Bool
  ansi : Bool
  spanEvents : SpanEvents
  output : Output
  timings : Bool
  deriving DecidableEq, Repr

/-- Why logging could not be set up. -/
inductive SetupError
  | badFilter (problem : DirectiveProblem)
  | alreadyInstalled
  deriving DecidableEq, Repr

namespace Settings

/-- Coloured lines for a person, timings included. -/
def interactive : Settings where
  directives := none
  defaultDirective := "info"
  includeTargets := true
  ansi := true
  spanEvents := .none
  output := .pretty
  timings := true

/-- Plain JSON lines for a machine. -/
def ci : Settings := { interactive with ansi := false, output := .json, timings := false }

/-- Details of streams and kernels, with the ends of spans. -/
def performance : Settings :=
  { ci with
    directives := some "offload_core=debug,offload_backends=debug"
    spanEvents := .close
    timings := true }

/-- The preset a word in letters of any case stands for. -/
def ofProfile (word : String) : Settings :=
  let profile := String.ofList (lowerCase word.toList)
  if profile = "ci" then ci
  else if profile = "performance" then performance
  else interactive

/-- Directives that are not blank take the place of the preset's. -/
def withDirectives (s : Settings) (text : Option String) : Settings :=
  match text with
  | some directives =>
    if trimBlank directives.toList = [] then s else { s with directives := some directives }
  | none => s

/-- A layout that is known takes the place of the preset's; JSON has no colours. -/
def withOutput (s : Settings) (text : Option String) : Settings :=
  match text.bind Output.ofText? with
  | some .json => { s with output := .json, ansi := false }
  | some output => { s with output }
  | none => s

/-- A flag that is set decides about timings: it is on, or it is anything else. -/
def withTimings (s : Settings) (text : Option String) : Settings :=
  match text with
  | some flag =>
    { s with timings := String.ofList (lowerCase flag.toList) ∈ ["true", "1", "yes"] }
  | none => s

/-- The preset and the overrides that the environment asks for. -/
def ofEnvironment (env : Environment) : Settings :=
  (((ofProfile ((env "OFFLOAD_TRACING_PROFILE").getD "local")).withDirectives
    (env "OFFLOAD_TRACING_DIRECTIVES")).withOutput
    (env "OFFLOAD_TRACING_FORMAT")).withTimings (env "OFFLOAD_PERF_TRACING")

/-- The filter before timings are decided: the directives of the settings, else those of the
environment, else the default. Only the first of these has to be right. -/
def source (s : Settings) (fromEnvironment : Option String) : Except DirectiveProblem Filter :=
  match s.directives with
  | some text => Filter.ofText text
  | none =>
    match fromEnvironment.map Filter.ofText with
    | some (.ok filter) => .ok filter
    | _ => .ok (Filter.ofTextLeniently s.defaultDirective)

/-- The directive about timings. -/
def timingDirective (s : Settings) : Directive :=
  .plain (some timingTarget.toList) (if s.timings then .debug else .off)

/-- The filter of the settings, given the directives in the environment. -/
def filter (s : Settings) (fromEnvironment : Option String) : Except SetupError Filter :=
  match s.source fromEnvironment with
  | .ok filter => .ok (filter.add s.timingDirective)
  | .error problem => .error (.badFilter problem)

/-- Sets up logging for the whole process, once. -/
def install (s : Settings) (fromEnvironment : Option String) (installed : Bool) :
    Except SetupError Filter := do
  let filter ← s.filter fromEnvironment
  if installed then throw .alreadyInstalled
  return filter

end Settings

def SetupError.message? : SetupError → Option String
  | .badFilter problem => some ("invalid tracing directive: " ++ problem.message)
  | .alreadyInstalled => none

end DeviceArrays.Logging

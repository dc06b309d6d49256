import DeviceArrays.Fault

/-!
# Reading argument lists

A kernel documents its parameters as a list. Arguments are read from left to right and the first
one that does not fit is reported, before anything else about the call is looked at.
-/
namespace DeviceArrays.Contract

/-- What is wrong with an argument that does not fit the parameter at its position. -/
def misfit (kernel : String) (position : Nat) (p : Parameter) (a : Argument) : ArgumentProblem :=
  match p, a with
  | .typeTag, .typeTag tag => .unknownTag kernel position tag
  | _, _ => .wrongKind kernel position p a

/-- Reads arguments for `parameters`, the first of which stands at `position`. -/
def readFrom (kernel : String) (position : Nat) :
    (parameters : List Parameter) → List Argument →
      Except ArgumentProblem (Parameter.Values parameters)
  | [], [] => .ok ()
  | [], a :: rest => .error (.surplus kernel position (position + (a :: rest).length))
  | p :: _, [] => .error (.missing kernel position p)
  | p :: ps, a :: rest =>
    match p.read? a with
    | none => .error (misfit kernel position p a)
    | some value => (readFrom kernel (position + 1) ps rest).map (value, ·)

/-- Reads the whole argument list of a kernel. -/
def read (kernel : String) (parameters : List Parameter) (arguments : List Argument) :
    Attempt (Parameter.Values parameters) :=
  match readFrom kernel 0 parameters arguments with
  | .ok values => .ok values
  | .error problem => Attempt.fail (.badArguments problem)

/-- The argument list that passes the given values. -/
def write : (parameters : List Parameter) → Parameter.Values parameters → List Argument
  | [], () => []
  | p :: ps, (value, rest) => p.write value :: write ps rest

theorem readFrom_write (kernel : String) (position : Nat) (parameters : List Parameter)
    (values : Parameter.Values parameters) :
    readFrom kernel position parameters (write parameters values) = .ok values := by
  induction parameters generalizing position with
  | nil => rfl
  | cons p ps ih =>
    obtain ⟨value, rest⟩ := values
    simp [write, readFrom, ih, Except.map]

/-- A list that passes one value for each parameter is read back unchanged. -/
@[simp] theorem read_write (kernel : String) (parameters : List Parameter)
    (values : Parameter.Values parameters) :
    read kernel parameters (write parameters values) = .ok values := by
  simp [read, readFrom_write]

end DeviceArrays.Contract

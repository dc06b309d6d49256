import DeviceArrays.Kernel.BinaryLaunch
import DeviceArrays.Proofs.Kernel.Lookups
import Mathlib.Data.List.Forall2

/-!
# What kernels read from their arguments

A list of arguments is compared with the parameters of a kernel place by place. Either all of it
fits, and then the kernel goes to work on what the list says, or there is a first place where it
departs from the parameters: an argument of another kind, a tag of no type, no argument where one is
asked for, or one argument too many. `Contract.Departs` says so without reading, and in words; a
kernel refuses exactly such lists, in these words, whatever memory it is called on.
-/
namespace DeviceArrays

/-- Which arguments a parameter asks for. A type tag has to be the tag of a type. -/
inductive Parameter.Accepts : Parameter → Argument → Prop
  | typeTag (t : ElementType) : Accepts .typeTag (.typeTag t.tag)
  | count (n : Nat) : Accepts .count (.count n)
  | stride (step : Nat) : Accepts .stride (.stride step)
  | buffer (b : BufferId) : Accepts .buffer (.buffer b)
  | scalar (s : Scalar) : Accepts .scalar (.scalar s)
  | bufferOperand (b : BufferId) : Accepts .operand (.buffer b)
  | scalarOperand (s : Scalar) : Accepts .operand (.scalar s)

namespace Parameter

variable {p : Parameter} {a : Argument}

theorem accepts_write (p : Parameter) (value : p.Value) : p.Accepts (p.write value) := by
  cases p with
  | operand => cases value <;> constructor
  | _ => constructor

/-- Accepted arguments are those from which a value is read. -/
theorem accepts_iff : p.Accepts a ↔ ∃ value, p.read? a = some value := by
  constructor
  · intro accepted
    cases accepted with
    | typeTag t => exact ⟨t, ElementType.ofTag?_tag t⟩
    | _ => exact ⟨_, rfl⟩
  · rintro ⟨value, read⟩
    rw [← write_of_read? read]
    exact p.accepts_write value

theorem read?_eq_none (other : ¬ p.Accepts a) : p.read? a = none := by
  rw [accepts_iff] at other
  simpa [Option.eq_none_iff_forall_ne_some] using other

end Parameter

namespace Contract

/-- A list of arguments departs from the parameters at some place, and fits them before it. The text
names the kernel, the place and what is wrong there. -/
inductive Departs (kernel : String) (parameters : List Parameter) : List Argument → String → Prop
  | missing {before after : List Parameter} {p : Parameter} {given : List Argument}
      (asked : parameters = before ++ p :: after)
      (fit : List.Forall₂ Parameter.Accepts before given) :
      Departs kernel parameters given
        s!"{kernel}: missing argument {given.length} ({p.description})"
  | wrongKind {before after : List Parameter} {p : Parameter} {given later : List Argument}
      {a : Argument} (asked : parameters = before ++ p :: after)
      (fit : List.Forall₂ Parameter.Accepts before given) (other : ¬ p.Accepts a)
      (kind : ∀ tag, ¬ (p = .typeTag ∧ a = .typeTag tag)) :
      Departs kernel parameters (given ++ a :: later)
        s!"{kernel}: argument {given.length} should be {p.description}, found {a.text}"
  | unknownTag {before after : List Parameter} {given later : List Argument} {tag : Nat}
      (asked : parameters = before ++ .typeTag :: after)
      (fit : List.Forall₂ Parameter.Accepts before given)
      (unknown : ∀ t : ElementType, t.tag ≠ tag) :
      Departs kernel parameters (given ++ .typeTag tag :: later)
        s!"{kernel}: argument {given.length} is an unknown type tag {tag}"
  | surplus {given later : List Argument} {a : Argument}
      (fit : List.Forall₂ Parameter.Accepts parameters given) :
      Departs kernel parameters (given ++ a :: later)
        s!"{kernel}: expected {parameters.length} arguments, got {(given ++ a :: later).length}"

variable {kernel : String} {parameters before ps : List Parameter}
  {arguments given rest : List Argument}

/-! ### Arguments that fit -/

theorem exists_readFrom (kernel : String)
    (fit : List.Forall₂ Parameter.Accepts parameters arguments) (position : Nat) :
    ∃ values, readFrom kernel position parameters arguments = .ok values := by
  induction fit generalizing position with
  | nil => exact ⟨(), rfl⟩
  | cons accepted fit ih =>
    obtain ⟨value, read⟩ := Parameter.accepts_iff.mp accepted
    obtain ⟨values, later⟩ := ih (position + 1)
    exact ⟨(value, values), by simp [readFrom, read, later, Except.map]⟩

/-- Arguments that fit are read, and what is read is what they say. -/
theorem exists_read (kernel : String) (fit : List.Forall₂ Parameter.Accepts parameters arguments) :
    ∃ values, write parameters values = arguments ∧
      read kernel parameters arguments = .ok values := by
  obtain ⟨values, found⟩ := exists_readFrom kernel fit 0
  have read : read kernel parameters arguments = .ok values := by
    unfold read
    rw [found]
  exact ⟨values, write_of_read read, read⟩

/-! ### Arguments that do not fit -/

/-- Behind arguments that fit, reading goes on at the next position. -/
theorem readFrom_behind (fit : List.Forall₂ Parameter.Accepts before given) {position : Nat}
    {problem : ArgumentProblem}
    (stopped : readFrom kernel (position + given.length) ps rest = .error problem) :
    readFrom kernel position (before ++ ps) (given ++ rest) = .error problem := by
  induction fit generalizing position with
  | nil => exact stopped
  | @cons p a before given accepted fit ih =>
    obtain ⟨value, read⟩ := Parameter.accepts_iff.mp accepted
    have later : readFrom kernel (position + 1) (before ++ ps) (given ++ rest) =
        .error problem := by
      apply ih
      rwa [List.length_cons, Nat.add_comm given.length, ← Nat.add_assoc] at stopped
    simp [readFrom, read, later, Except.map]

/-- Where a list departs from the parameters, reading stops and says so. -/
theorem readFrom_of_departs {text : String} (h : Departs kernel parameters arguments text) :
    ∃ problem, problem.message = text ∧
      readFrom kernel 0 parameters arguments = .error problem := by
  cases h with
  | @missing before after p _ asked fit =>
    subst asked
    refine ⟨.missing kernel arguments.length p, rfl, ?_⟩
    rw [← List.append_nil arguments]
    apply readFrom_behind fit
    simp [readFrom]
  | @wrongKind before after p given later a asked fit other kind =>
    subst asked
    refine ⟨.wrongKind kernel given.length p a, rfl, readFrom_behind fit ?_⟩
    have wrong : misfit kernel given.length p a = .wrongKind kernel given.length p a := by
      unfold misfit
      split
      case h_1 tag => exact absurd ⟨rfl, rfl⟩ (kind tag)
      case h_2 => rfl
    simp [readFrom, Parameter.read?_eq_none other, wrong]
  | @unknownTag before after given later tag asked fit unknown =>
    subst asked
    refine ⟨.unknownTag kernel given.length tag, rfl, readFrom_behind fit ?_⟩
    have other : ¬ Parameter.typeTag.Accepts (.typeTag tag) := by
      rintro ⟨t⟩
      exact unknown t rfl
    simp [readFrom, Parameter.read?_eq_none other, misfit]
  | @surplus given later a fit =>
    refine ⟨.surplus kernel parameters.length (given ++ a :: later).length, rfl, ?_⟩
    have behind : readFrom kernel 0 (parameters ++ []) (given ++ a :: later) =
        .error (.surplus kernel parameters.length (given ++ a :: later).length) := by
      apply readFrom_behind fit
      simp [readFrom, fit.length_eq]
    rwa [List.append_nil] at behind

/-- Arguments fit up to some place, and what stands there, if anything, does not. -/
theorem exists_longest_fit (parameters : List Parameter) (arguments : List Argument) :
    ∃ before given ps rest, parameters = before ++ ps ∧ arguments = given ++ rest ∧
      List.Forall₂ Parameter.Accepts before given ∧
      ∀ p after a later, ps = p :: after → rest = a :: later → ¬ p.Accepts a := by
  induction parameters generalizing arguments with
  | nil => exact ⟨[], [], [], arguments, rfl, rfl, .nil, nofun⟩
  | cons p after ih =>
    cases arguments with
    | nil => exact ⟨[], [], p :: after, [], rfl, rfl, .nil, nofun⟩
    | cons a later =>
      by_cases accepted : p.Accepts a
      · obtain ⟨before, given, ps, rest, rfl, rfl, fit, stop⟩ := ih later
        exact ⟨p :: before, a :: given, ps, rest, rfl, rfl, .cons accepted fit, stop⟩
      · refine ⟨[], [], p :: after, a :: later, rfl, rfl, .nil, ?_⟩
        rintro _ _ _ _ ⟨⟩ ⟨⟩
        exact accepted

theorem fit_or_departs (kernel : String) (parameters : List Parameter) (arguments : List Argument) :
    List.Forall₂ Parameter.Accepts parameters arguments ∨
      ∃ text, Departs kernel parameters arguments text := by
  obtain ⟨before, given, ps, rest, rfl, rfl, fit, stop⟩ := exists_longest_fit parameters arguments
  cases ps with
  | nil =>
    rw [List.append_nil]
    cases rest with
    | nil => exact .inl (by rwa [List.append_nil])
    | cons a later => exact .inr ⟨_, .surplus fit⟩
  | cons p after =>
    cases rest with
    | nil =>
      rw [List.append_nil]
      exact .inr ⟨_, .missing rfl fit⟩
    | cons a later =>
      have other := stop p after a later rfl rfl
      by_cases kind : ∃ tag, p = .typeTag ∧ a = .typeTag tag
      · obtain ⟨tag, rfl, rfl⟩ := kind
        refine .inr ⟨_, .unknownTag rfl fit fun t same => other ?_⟩
        subst same
        exact .typeTag t
      · exact .inr ⟨_, .wrongKind rfl fit other (not_exists.mp kind)⟩

/-- Arguments that do not fit are refused in the words that tell where they depart. -/
theorem exists_problem (kernel : String)
    (misfit : ¬ List.Forall₂ Parameter.Accepts parameters arguments) :
    ∃ problem, (∀ text, Departs kernel parameters arguments text ↔ text = problem.message) ∧
      read kernel parameters arguments = Attempt.fail (.badArguments problem) := by
  obtain ⟨first, departs⟩ := (fit_or_departs kernel parameters arguments).resolve_left misfit
  obtain ⟨problem, rfl, found⟩ := readFrom_of_departs departs
  refine ⟨problem, fun text => ⟨fun other => ?_, ?_⟩, ?_⟩
  -- Reading stops for one reason only, so no other text tells of a departure.
  · obtain ⟨same, rfl, again⟩ := readFrom_of_departs other
    rw [found] at again
    cases again
    rfl
  · rintro rfl
    exact departs
  · unfold read
    rw [found]

end Contract

open ElementwiseKernel

/-- Kernels read argument lists exactly, whatever memory they are called on. A list that fits the
parameters is read as what it says, in order, and the kernel does its work on that. Every other list
is refused, and the text names the kernel and the first place where the list departs from the
parameters. In particular, a launch of a binary kernel is read back as it was written. -/
theorem argument_lists_are_read_exactly (k : ElementwiseKernel) (arguments : List Argument) :
    (List.Forall₂ Parameter.Accepts k.parameters arguments →
      ∃ values, Contract.write k.parameters values = arguments ∧
        Contract.read k.name k.parameters arguments = .ok values ∧
        ∀ m, k.run m arguments = k.execute m values) ∧
    (¬ List.Forall₂ Parameter.Accepts k.parameters arguments →
      ∃ problem,
        (∀ text, Contract.Departs k.name k.parameters arguments text ↔ text = problem.message) ∧
        ∀ m, k.run m arguments = Attempt.fail (.badArguments problem)) ∧
    ∀ (operation : BinaryOperation) (l : BinaryLaunch),
      let strideRight : Nat := match l.right with
        | .buffer _ => 1
        | .scalar _ => 0
      Contract.read (binary operation).name (binary operation).parameters l.arguments =
          .ok (l.type, l.count, l.left, (1 : Nat), l.right, strideRight, l.result, (1 : Nat), ()) ∧
        ∀ m, (binary operation).run m l.arguments =
          runBinary operation m l.type l.count l.left 1 l.right strideRight l.result 1 := by
  refine ⟨fun fit => ?_, fun misfit => ?_, fun operation l => ?_⟩
  · obtain ⟨values, rfl, read⟩ := Contract.exists_read k.name fit
    exact ⟨values, rfl, read, fun m => run_write k m values⟩
  · obtain ⟨problem, told, refused⟩ := Contract.exists_problem k.name misfit
    refine ⟨problem, told, fun m => ?_⟩
    rw [run, refused]
    rfl
  · intro strideRight
    have written : l.arguments = Contract.write (binary operation).parameters
        (l.type, l.count, l.left, (1 : Nat), l.right, strideRight, l.result, (1 : Nat), ()) := by
      obtain ⟨type, count, left, right, result⟩ := l
      cases right <;> rfl
    rw [written]
    exact ⟨Contract.read_write _ _ _, fun m => run_write (binary operation) m _⟩

/-- Reversing three elements is understood; with a stride in place of the count it is refused. -/
theorem argument_lists_are_read_exactly_reverse :
    let fitting : List Argument := [.typeTag 2, .count 3, .buffer ⟨1⟩, .buffer ⟨2⟩]
    let departing : List Argument := [.typeTag 2, .stride 1]
    (List.Forall₂ Parameter.Accepts reverse.parameters fitting ∧
      ∀ m, reverse.run m fitting = runReverse m (.signed .w32) 3 ⟨1⟩ ⟨2⟩) ∧
    ¬ List.Forall₂ Parameter.Accepts reverse.parameters departing ∧
      ∃ problem : ArgumentProblem, problem.message =
          "offload_array_reverse: argument 1 should be count, found stride=1" ∧
        ∀ m, reverse.run m departing = Attempt.fail (.badArguments problem) := by
  intro fitting departing
  have tag : Parameter.typeTag.Accepts (.typeTag 2) := .typeTag (.signed .w32)
  have fit : List.Forall₂ Parameter.Accepts reverse.parameters fitting :=
    .cons tag (.cons (.count 3) (.cons (.buffer ⟨1⟩) (.cons (.buffer ⟨2⟩) .nil)))
  have misfit : ¬ List.Forall₂ Parameter.Accepts reverse.parameters departing := by
    simp only [departing, parameters, List.forall₂_cons, not_and]
    exact fun _ => nofun
  obtain ⟨values, -, read, works⟩ := (argument_lists_are_read_exactly reverse fitting).1 fit
  obtain ⟨problem, told, refused⟩ := (argument_lists_are_read_exactly reverse departing).2.1 misfit
  have said : Contract.read reverse.name reverse.parameters fitting =
    .ok (.signed .w32, (3 : Nat), (⟨1⟩ : BufferId), (⟨2⟩ : BufferId), ()) := rfl
  cases read.symm.trans said
  have before : List.Forall₂ Parameter.Accepts [.typeTag] [.typeTag 2] := .cons tag .nil
  have departs : Contract.Departs reverse.name reverse.parameters ([.typeTag 2] ++ [.stride 1])
      "offload_array_reverse: argument 1 should be count, found stride=1" :=
    .wrongKind rfl before nofun nofun
  exact ⟨⟨fit, works⟩, misfit, problem, ((told _).mp departs).symm, refused⟩

end DeviceArrays

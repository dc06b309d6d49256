import DeviceArrays.Proofs.Kernel.Lookups
import DeviceArrays.Proofs.Kernel.Strides

/-!
# Kernels that crash

The bytes a call reaches over are counted in machine words before they are compared with the size of
a buffer. Counts and strides near the end of a word therefore crash a kernel, where smaller ones
that do not fit are refused. `Overflows` says in exact arithmetic which calls crash. Every other
call ends with a result or with an error that is true of its arguments.
-/
namespace DeviceArrays

namespace Attempt

variable {α β : Type} {p q c : Prop} {P : α → Prop} {reported : DeviceError → Prop}

/-- The work crashes exactly under a condition, and it reports errors of a given sort only. -/
structure Fails (x : Attempt α) (overflow : Prop) (reported : DeviceError → Prop) : Prop where
  crashes_iff : (∃ message, x = .error (.crash message)) ↔ overflow
  reports : ∀ e, x = .error (.error e) → reported e

theorem Fails.congr {x : Attempt α} (h : x.Fails p reported) (same : p ↔ q) :
    x.Fails q reported :=
  ⟨h.crashes_iff.trans same, h.reports⟩

theorem fails_ok (a : α) : Fails (.ok a) False reported := ⟨⟨nofun, nofun⟩, nofun⟩

theorem fails_fail {e : DeviceError} (told : reported e) :
    Fails (fail e : Attempt α) False reported where
  crashes_iff := ⟨nofun, nofun⟩
  reports other same := by
    cases same
    exact told

theorem fails_crash {message : String} (overflow : p) :
    Fails (crash message : Attempt α) p reported :=
  ⟨⟨fun _ => overflow, fun _ => ⟨some message, rfl⟩⟩, nofun⟩

/-- Later work crashes only where the work before it succeeds. -/
theorem Fails.bind {x : Attempt α} {f : α → Attempt β} (first : x.Fails p reported)
    (met : x.Meets c P) (later : ∀ a, P a → (f a).Fails q reported) :
    (x >>= f).Fails (p ∨ c ∧ q) reported := by
  cases x with
  | ok a =>
    have unharmed : ¬ p := fun overflow => nomatch (first.crashes_iff.mpr overflow)
    have reached : c := met.succeeds_iff.mp ⟨a, rfl⟩
    exact (later a (met.result a rfl)).congr (by simp [unharmed, reached])
  | error fault =>
    have stopped : ¬ c := fun reached => nomatch (met.succeeds_iff.mpr reached)
    refine ⟨⟨?_, ?_⟩, ?_⟩
    · rintro ⟨message, same⟩
      cases same
      exact .inl (first.crashes_iff.mp ⟨message, rfl⟩)
    · rintro (overflow | ⟨reached, -⟩)
      · obtain ⟨message, same⟩ := first.crashes_iff.mpr overflow
        cases same
        exact ⟨message, rfl⟩
      · exact absurd reached stopped
    · intro e same
      cases same
      exact first.reports e rfl

theorem fails_ite {c : Prop} [Decidable c] (a : α) (message : String) :
    Fails (if c then .ok a else crash message) (¬ c) reported := by
  split
  case isTrue fits => exact (fails_ok a).congr (iff_of_false id (not_not_intro fits))
  case isFalse wide => exact fails_crash wide

theorem fails_product (a b : Nat) : (product a b).Fails (wordBound ≤ a * b) reported :=
  (fails_ite _ _).congr Nat.not_lt

theorem fails_sum (a b : Nat) : (sum a b).Fails (wordBound ≤ a + b) reported :=
  (fails_ite _ _).congr Nat.not_lt

theorem fails_reserve (count width : Nat) :
    (reserve count width).Fails (largestAllocation < count * width) reported :=
  (fails_ite _ _).congr Nat.not_le

end Attempt

open Attempt

/-! ### Errors that are true of the arguments -/

namespace Memory

/-- What an error says about a call is so. -/
inductive Explains (m : Memory) (arguments : List Argument) : DeviceError → Prop
  | badArguments (problem : ArgumentProblem) : Explains m arguments (.badArguments problem)
  | outOfBounds {offset size available : Nat} (beyond : available < offset + size) :
      Explains m arguments (.outOfBounds offset size available)
  | unknownBuffer {b : BufferId} (named : .buffer b ∈ arguments) (gone : m.contents? b = none) :
      Explains m arguments (.unknownBuffer b)
  | typeMismatch {t : ElementType} {s : Scalar} (tagged : .ofType t ∈ arguments)
      (given : .scalar s ∈ arguments) (other : s.type ≠ t) :
      Explains m arguments (.typeMismatch t.name s.type.name)

/-- The buffer is live, and so many bytes are more than a word can count. -/
def Overflows (m : Memory) (b : BufferId) (size : Nat) : Prop :=
  (m.contents? b).isSome ∧ wordBound ≤ size

/-- So is what `n` steps of a stride reach over, in elements or, if the buffer is live, in bytes. -/
def Overruns (m : Memory) (t : ElementType) (b : BufferId) (n stride : Nat) : Prop :=
  wordBound ≤ reach n stride ∨ m.Overflows b (reach n stride * t.width)

variable {m : Memory} {arguments : List Argument} {b : BufferId} {t : ElementType}

theorem fails_readElements (named : .buffer b ∈ arguments) (n : Nat) :
    (m.readElements t b n).Fails (m.Overflows b (n * t.width)) (m.Explains arguments) := by
  unfold readElements contents Overflows
  cases live : m.contents? b with
  | none => exact (fails_fail (.unknownBuffer named live)).congr (by simp)
  | some bytes =>
    refine ((fails_product n t.width).bind (meets_product n t.width) (q := False)
      fun size same => ?_).congr (by simp)
    subst same
    split
    case isTrue short => exact fails_fail (.outOfBounds (by omega))
    case isFalse => exact fails_ok _

theorem fails_writeElements (named : .buffer b ∈ arguments) (offset : Nat)
    (values : List (Element t)) :
    (m.writeElements b offset values).Fails
      (m.Overflows b ((offset + values.length) * t.width)) (m.Explains arguments) := by
  unfold writeElements contents Overflows
  cases live : m.contents? b with
  | none => exact (fails_fail (.unknownBuffer named live)).congr (by simp)
  | some bytes =>
    refine ((fails_product offset t.width).bind (meets_product offset t.width)
      (q := wordBound ≤ offset * t.width + values.length * t.width) fun start same => ?_).congr ?_
    · subst same
      simp only [Element.length_listToBytes]
      refine ((fails_sum _ _).bind (meets_sum _ _) (q := False) fun stop same => ?_).congr (by simp)
      subst same
      split
      case isTrue short => exact fails_fail (.outOfBounds short)
      case isFalse => exact fails_ok _
    · rw [Nat.add_mul]
      simp only [Option.isSome_some, true_and]
      omega

/-- Elements that fit in a list are never too many to be written from the start of a buffer. -/
theorem fails_writeFirst (named : .buffer b ∈ arguments) {values : List (Element t)}
    (few : values.length * t.width ≤ largestAllocation) :
    (m.writeElements b 0 values).Fails False (m.Explains arguments) := by
  have counted := wordBound_of_largestAllocation few
  refine (fails_writeElements named 0 values).congr (iff_false_intro fun overflow => ?_)
  have wide := overflow.2
  rw [Nat.zero_add] at wide
  omega

end Memory

/-- A magnitude is no wider than what it is the magnitude of. -/
theorem ElementType.width_magnitudeType_le (t : ElementType) : t.magnitudeType.width ≤ t.width := by
  cases t with
  | complex p => exact Nat.le_mul_of_pos_left _ (by decide)
  | _ => exact Nat.le_refl _

/-- The right operand of a binary kernel reaches too far. One that is passed by value never does. -/
def KernelOperand.Overruns (m : Memory) (t : ElementType) (n stride : Nat) : KernelOperand → Prop
  | .buffer b => m.Overruns t b n stride
  | .scalar _ => False

namespace ElementwiseKernel

/-- The call counts something that does not fit in a word. It counts what its buffers hold in the
order in which it reads and writes them, so later ones matter only where those before were found
long enough. -/
def Overflows (m : Memory) : (k : ElementwiseKernel) → Parameter.Values k.parameters → Prop
  | .binary _, (t, (n : Nat), x, (strideX : Nat), y, (strideY : Nat), r, (strideR : Nat), ()) =>
    m.Overruns t x n strideX ∨ m.Holds x (reach n strideX * t.width) ∧
      (y.Overruns m t n strideY ∨ y.Reaches m t n strideY ∧
        (largestAllocation < n * t.width ∨ wordBound ≤ (n - 1) * strideY ∨
          1 ≤ strideR ∧ m.Overruns t r n strideR))
  | .abs, (t, (n : Nat), x, _, ()) => m.Overflows x (n * t.width)
  | .fill, (t, (n : Nat), _, s, ()) => s.type = t ∧ largestAllocation < n * t.width
  | .reverse, (t, (n : Nat), x, _, ()) => m.Overflows x (n * t.width)
  | .setSlice, (t, (lower : Nat), (upper : Nat), x, source, ()) =>
    lower ≤ upper ∧ (m.Overflows source ((upper - lower) * t.width) ∨
      m.Holds source ((upper - lower) * t.width) ∧ m.Overflows x (upper * t.width))

variable {m : Memory} {arguments : List Argument} {t : ElementType}

theorem fails_span (n stride : Nat) {reported : DeviceError → Prop} :
    (span n stride).Fails (wordBound ≤ reach n stride) reported := by
  unfold span reach
  split
  case isTrue => exact (fails_ok 0).congr (by decide)
  case isFalse =>
    refine ((fails_product (n - 1) stride).bind (meets_product (n - 1) stride)
      (q := wordBound ≤ (n - 1) * stride + 1) fun last same => ?_).congr (by omega)
    subst same
    exact fails_sum _ 1

/-- Elements that a stride reaches over are read, and then nothing can crash any more. -/
theorem fails_walk {α : Type} (addressable : m.Addressable) {b : BufferId}
    (named : .buffer b ∈ arguments) (n stride : Nat) {f : List (Element t) → Attempt α}
    (later : ∀ values, values.length = reach n stride →
      reach n stride * t.width ≤ largestAllocation →
        (f values).Fails False (m.Explains arguments)) :
    (span n stride >>= fun count => m.readElements t b count >>= f).Fails (m.Overruns t b n stride)
      (m.Explains arguments) := by
  refine ((fails_span n stride).bind (meets_span n stride)
    (q := m.Overflows b (reach n stride * t.width)) fun count same => ?_).congr ?_
  · subst same
    have reads := (Memory.meets_readElements addressable t b (reach n stride)).mono .rfl
      (R := fun values => values.length = reach n stride ∧
        reach n stride * t.width ≤ largestAllocation)
      fun values holds read => ⟨read.1, holds.le addressable⟩
    exact ((Memory.fails_readElements named _).bind reads fun values ⟨length, few⟩ =>
      later values length few).congr (by simp)
  · unfold Memory.Overruns
    constructor
    · exact Or.imp_right And.right
    · rintro (wide | overflow)
      · exact .inl wide
      · exact (Nat.lt_or_ge (reach n stride) wordBound).elim (fun few => .inr ⟨few, overflow⟩) .inl

theorem fails_loadBuffer (addressable : m.Addressable) {b : BufferId}
    (named : .buffer b ∈ arguments) (n stride : Nat) :
    (loadBuffer m t b n stride).Fails (m.Overruns t b n stride) (m.Explains arguments) :=
  fails_walk addressable named n stride fun _ _ _ => fails_ok _

theorem fails_loadScalar {s : Scalar} (tagged : .ofType t ∈ arguments)
    (given : .scalar s ∈ arguments) : (loadScalar t s).Fails False (m.Explains arguments) := by
  unfold loadScalar
  split
  case h_1 => exact fails_ok _
  case h_2 missing =>
    refine fails_fail (.typeMismatch tagged given fun same => ?_)
    subst same
    rw [Scalar.get?_self] at missing
    cases missing

theorem fails_loadOperand (addressable : m.Addressable) {y : KernelOperand}
    (tagged : .ofType t ∈ arguments) (given : y.argument ∈ arguments) (n stride : Nat) :
    (loadOperand m t n stride y).Fails (y.Overruns m t n stride) (m.Explains arguments) := by
  cases y with
  | buffer b => exact fails_loadBuffer addressable given n stride
  | scalar s =>
    exact ((fails_loadScalar tagged given).bind (meets_loadScalar t s) (q := False)
      fun v _ => fails_ok _).congr (by simp [KernelOperand.Overruns])

theorem fails_store (addressable : m.Addressable) {r : BufferId} (named : .buffer r ∈ arguments)
    {n : Nat} {values : List (Element t)} (length : values.length = n)
    (few : n * t.width ≤ largestAllocation) (stride : Nat) :
    (store m r values stride).Fails (1 ≤ stride ∧ m.Overruns t r n stride)
      (m.Explains arguments) := by
  subst length
  have counted := wordBound_of_largestAllocation few
  match stride with
  | 0 => exact (fails_fail (.badArguments _)).congr (by simp)
  | 1 =>
    have narrow : values.length ≤ values.length * t.width := Nat.le_mul_of_pos_right _ t.width_pos
    refine (Memory.fails_writeFirst named few).congr (iff_of_false id fun ⟨_, overrun⟩ => ?_)
    rw [Memory.Overruns, Memory.Overflows, reach_one] at overrun
    omega
  | stride + 2 =>
    refine Fails.congr (fails_walk addressable named values.length (stride + 2)
      fun region length fits => Memory.fails_writeFirst named ?_) (by simp)
    rwa [scatter, List.length_mapIdx, length]

/-! ### The kernels -/

theorem fails_runBinary (addressable : m.Addressable) (operation : BinaryOperation) (n : Nat)
    {x r : BufferId} (strideX : Nat) {y : KernelOperand} (strideY strideR : Nat)
    (tagged : .ofType t ∈ arguments) (left : .buffer x ∈ arguments) (right : y.argument ∈ arguments)
    (result : .buffer r ∈ arguments) :
    (runBinary operation m t n x strideX y strideY r strideR).Fails
      (Overflows m (.binary operation) (t, n, x, strideX, y, strideY, r, strideR, ()))
      (m.Explains arguments) := by
  refine (fails_loadBuffer addressable left n strideX).bind
    (meets_loadBuffer addressable x n strideX) fun _ _ => ?_
  refine (fails_loadOperand addressable tagged right n strideY).bind
    (meets_loadOperand addressable n strideY y) fun _ _ => ?_
  refine ((fails_reserve n t.width).bind ((Attempt.meets_reserve n t.width).mono .rfl
    (R := fun _ => n * t.width ≤ largestAllocation) fun _ few _ => few) fun _ few =>
      (fails_product (n - 1) strideY).bind (meets_product (n - 1) strideY) fun _ _ =>
        fails_store addressable result (by simp) few strideR).congr ?_
  constructor
  · exact Or.imp_right fun later => later.2.imp_right And.right
  · intro overflow
    by_cases many : largestAllocation < n * t.width
    · exact .inl many
    · by_cases far : wordBound ≤ (n - 1) * strideY
      · exact .inr ⟨Nat.not_lt.mp many, .inl far⟩
      · exact .inr ⟨Nat.not_lt.mp many, .inr ⟨Nat.not_le.mp far,
          (overflow.resolve_left many).resolve_left far⟩⟩

/-- Elements are read, and as many that are no wider are written to the start of a buffer. -/
theorem fails_transfer {u : ElementType} (addressable : m.Addressable) {x r : BufferId}
    (source : .buffer x ∈ arguments) (result : .buffer r ∈ arguments) (narrow : u.width ≤ t.width)
    {n : Nat} {f : List (Element t) → List (Element u)}
    (length : ∀ values, (f values).length = values.length) :
    (m.readElements t x n >>= fun values => m.writeElements r 0 (f values)).Fails
      (m.Overflows x (n * t.width)) (m.Explains arguments) := by
  have reads := (Memory.meets_readElements addressable t x n).mono .rfl
    (R := fun values => values.length * t.width ≤ largestAllocation)
    fun values holds read => read.1 ▸ holds.le addressable
  refine ((Memory.fails_readElements source n).bind reads fun values few =>
    Memory.fails_writeFirst result ?_).congr (by simp)
  rw [length]
  exact Nat.le_trans (Nat.mul_le_mul_left _ narrow) few

theorem fails_runFill (n : Nat) {x : BufferId} {s : Scalar} (tagged : .ofType t ∈ arguments)
    (target : .buffer x ∈ arguments) (given : .scalar s ∈ arguments) :
    (runFill m t n x s).Fails (Overflows m .fill (t, n, x, s, ())) (m.Explains arguments) := by
  have reserves := (Attempt.meets_reserve n t.width).mono .rfl
    (R := fun _ => n * t.width ≤ largestAllocation) fun _ few _ => few
  refine ((fails_loadScalar tagged given).bind (meets_loadScalar t s) fun value _ =>
    ((fails_reserve n t.width).bind reserves (q := False) fun _ few =>
      Memory.fails_writeFirst target ?_)).congr (by simp [Overflows])
  rwa [List.length_replicate]

theorem fails_runSetSlice (addressable : m.Addressable) (lower upper : Nat) {x source : BufferId}
    (target : .buffer x ∈ arguments) (given : .buffer source ∈ arguments) :
    (runSetSlice m t lower upper x source).Fails
      (Overflows m .setSlice (t, lower, upper, x, source, ())) (m.Explains arguments) := by
  unfold runSetSlice
  split
  case isTrue crossed =>
    exact (fails_fail (.badArguments _)).congr
      (iff_of_false id fun ordered => Nat.not_le.mpr crossed ordered.1)
  case isFalse ordered =>
    have le : lower ≤ upper := Nat.le_of_not_lt ordered
    refine Fails.congr ((Memory.fails_readElements given _).bind
      (Memory.meets_readElements addressable t source (upper - lower))
      (q := m.Overflows x (upper * t.width)) fun values ⟨length, _⟩ => ?_) (by simp [Overflows, le])
    refine (Memory.fails_writeElements target lower values).congr ?_
    rw [length, Nat.add_sub_cancel' le]

/-- Which calls crash, and that errors are true of the arguments. -/
theorem fails_execute (addressable : m.Addressable) (k : ElementwiseKernel)
    (values : Parameter.Values k.parameters) :
    (k.execute m values).Fails (k.Overflows m values)
      (m.Explains (Contract.write k.parameters values)) := by
  cases k with
  | binary operation =>
    obtain ⟨t, (n : Nat), (x : BufferId), strideX, (y : KernelOperand), strideY, (r : BufferId),
      strideR, ⟨⟩⟩ := values
    have passed : Parameter.operand.write y = y.argument := by cases y <;> rfl
    apply fails_runBinary addressable operation n strideX strideY strideR <;>
      simp [Contract.write, Parameter.write, ← passed]
  | abs =>
    obtain ⟨t, (n : Nat), (x : BufferId), (r : BufferId), ⟨⟩⟩ := values
    refine fails_transfer addressable ?_ ?_ t.width_magnitudeType_le fun _ => List.length_map _ <;>
      simp [Contract.write, Parameter.write]
  | fill =>
    obtain ⟨t, (n : Nat), (x : BufferId), s, ⟨⟩⟩ := values
    apply fails_runFill n <;> simp [Contract.write, Parameter.write]
  | reverse =>
    obtain ⟨t, (n : Nat), (x : BufferId), (r : BufferId), ⟨⟩⟩ := values
    refine fails_transfer addressable ?_ ?_ (Nat.le_refl _) fun _ => List.length_reverse <;>
      simp [Contract.write, Parameter.write]
  | setSlice =>
    obtain ⟨t, (lower : Nat), (upper : Nat), (x : BufferId), (source : BufferId), ⟨⟩⟩ := values
    apply fails_runSetSlice addressable lower upper <;> simp [Contract.write, Parameter.write]

theorem fails_run (addressable : m.Addressable) (k : ElementwiseKernel)
    (arguments : List Argument) :
    (k.run m arguments).Fails
      (∃ values, arguments = Contract.write k.parameters values ∧ k.Overflows m values)
      (m.Explains arguments) := by
  cases read : Contract.read k.name k.parameters arguments with
  | ok values =>
    obtain rfl := Contract.write_of_read read
    rw [run_write]
    refine (fails_execute addressable k values).congr
      ⟨fun overflow => ⟨values, rfl, overflow⟩, ?_⟩
    rintro ⟨others, same, overflow⟩
    rw [same, Contract.read_write] at read
    cases read
    exact overflow
  | error fault =>
    have called : k.run m arguments = .error fault := by
      rw [run, read]
      rfl
    have misread : ∃ problem, fault = .error (.badArguments problem) := by
      unfold Contract.read at read
      split at read
      case h_1 => cases read
      case h_2 problem _ =>
        cases read
        exact ⟨problem, rfl⟩
    obtain ⟨problem, rfl⟩ := misread
    rw [called]
    refine (fails_fail (.badArguments problem)).congr (iff_of_false id ?_)
    rintro ⟨values, rfl, -⟩
    rw [Contract.read_write] at read
    cases read

/-- A right operand that is passed by value is the same at every position, so its stride is only
counted. -/
theorem runBinary_scalar_stride (operation : BinaryOperation) (n : Nat) (x : BufferId)
    (strideX : Nat) (s : Scalar) {stride other : Nat} (r : BufferId) (strideR : Nat)
    (steps : (n - 1) * stride < wordBound) (others : (n - 1) * other < wordBound) :
    runBinary operation m t n x strideX (.scalar s) stride r strideR =
      runBinary operation m t n x strideX (.scalar s) other r strideR := by
  have counted : product (n - 1) stride = .ok ((n - 1) * stride) := if_pos steps
  have too : product (n - 1) other = .ok ((n - 1) * other) := if_pos others
  simp only [runBinary, loadOperand, counted, too, bind, Except.bind]
  cases loadBuffer m t x n strideX with
  | error fault => rfl
  | ok left =>
    cases loadScalar t s with
    | error fault => rfl
    | ok value => simp only [pure, Except.pure, Source.at]

end ElementwiseKernel

open ElementwiseKernel

/-- How calls of the kernels fail, for every kernel and every list of arguments. A call crashes
exactly where a size that it counts leaves the word, or its results are more than can be allocated;
every error it reports is true of its arguments. The stride of a right operand that is passed by
value is counted and not used: it makes no difference unless the last position leaves the word.
Buffers only have to fit in the address space, as all do that were allocated
(`Journal.addressable_after`). -/
theorem kernels_crash_exactly_on_overflow {m : Memory} (addressable : m.Addressable) :
    (∀ (k : ElementwiseKernel) (arguments : List Argument),
      ((∃ message, k.run m arguments = .error (.crash message)) ↔
        ∃ values, arguments = Contract.write k.parameters values ∧ k.Overflows m values) ∧
      ∀ e, k.run m arguments = .error (.error e) → m.Explains arguments e) ∧
    ∀ (operation : BinaryOperation) (t : ElementType) (n : Nat) (x : BufferId) (strideX : Nat)
      (s : Scalar) (stride other : Nat) (r : BufferId) (strideR : Nat),
      (n - 1) * stride < wordBound → (n - 1) * other < wordBound →
        (binary operation).run m [.ofType t, .count n, .buffer x, .stride strideX, .scalar s,
            .stride stride, .buffer r, .stride strideR] =
          (binary operation).run m [.ofType t, .count n, .buffer x, .stride strideX, .scalar s,
            .stride other, .buffer r, .stride strideR] := by
  refine ⟨fun k arguments => ?_,
    fun operation t n x strideX s stride other r strideR steps others => ?_⟩
  · obtain ⟨crashes, reports⟩ := fails_run addressable k arguments
    exact ⟨crashes, reports⟩
  · have called (step : Nat) := run_write (.binary operation) m
      (t, n, x, strideX, KernelOperand.scalar s, step, r, strideR, ())
    calc
      _ = runBinary operation m t n x strideX (.scalar s) stride r strideR := called stride
      _ = runBinary operation m t n x strideX (.scalar s) other r strideR :=
        runBinary_scalar_stride operation n x strideX s r strideR steps others
      _ = _ := (called other).symm

/-- In a memory of one buffer of four bytes, reversing half as many elements as a word can count
crashes if they have two bytes, and the stride of a scalar that is added to three elements may be a
quarter of that bound. -/
theorem kernels_crash_exactly_on_overflow_four_bytes :
    let m := (Journal.after [.allocate 4]).memory
    m.Addressable ∧
      (∃ message, reverse.run m [.ofType (.unsigned .w16), .count (wordBound / 2), .buffer ⟨1⟩,
        .buffer ⟨1⟩] = .error (.crash message)) ∧
      (3 - 1) * 0 < wordBound ∧ (3 - 1) * (wordBound / 4) < wordBound ∧
      ∃ after, (binary .add).run m [.ofType (.unsigned .w8), .count 3, .buffer ⟨1⟩, .stride 1,
        .scalar ⟨.unsigned .w8, 7#8⟩, .stride (wordBound / 4), .buffer ⟨1⟩, .stride 1] =
          .ok after := by
  intro m
  have addressable : m.Addressable := Journal.addressable_after _
  obtain ⟨calls, strides⟩ := kernels_crash_exactly_on_overflow addressable
  have steps : (3 - 1) * 0 < wordBound := by decide
  have far : (3 - 1) * (wordBound / 4) < wordBound := by decide
  refine ⟨addressable, (calls .reverse _).1.mpr ⟨(.unsigned .w16, wordBound / 2, ⟨1⟩, ⟨1⟩, ()), rfl,
    rfl, by decide⟩, steps, far, ?_⟩
  rw [strides .add (.unsigned .w8) 3 ⟨1⟩ 1 ⟨.unsigned .w8, 7#8⟩ (wordBound / 4) 0 ⟨1⟩ 1 far steps]
  exact ⟨_, rfl⟩

/-- Not every argument list that does not fit is refused: the kernel that reverses elements of two
bytes crashes on 2 ^ 63 of them, where 2 ^ 62 are out of bounds. Nor is the stride of a scalar
without influence: adding one to three elements succeeds with stride 0 and crashes with stride
2 ^ 63. -/
theorem wide_extents_crash_kernels :
    let m := (Journal.after [.allocate 4]).memory
    let reversal (n : Nat) := reverse.run m [.ofType (.unsigned .w16), .count n, .buffer ⟨1⟩,
      .buffer ⟨1⟩]
    let addition (stride : Nat) := (binary .add).run m [.ofType (.unsigned .w8), .count 3,
      .buffer ⟨1⟩, .stride 1, .scalar ⟨.unsigned .w8, 1#8⟩, .stride stride, .buffer ⟨1⟩, .stride 1]
    reversal (wordBound / 4) = Attempt.fail (.outOfBounds 0 (wordBound / 2) 4) ∧
      reversal (wordBound / 2) = Attempt.crash "attempt to multiply with overflow" ∧
      (∃ after, addition 0 = .ok after) ∧
      addition (wordBound / 2) = Attempt.crash "attempt to multiply with overflow" :=
  ⟨rfl, rfl, ⟨_, rfl⟩, rfl⟩

end DeviceArrays

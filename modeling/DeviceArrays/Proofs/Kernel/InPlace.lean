import DeviceArrays.Proofs.Effect
import DeviceArrays.Proofs.Memory.InPlace

/-!
# Kernels in place

The kernels and the other operations on a device's memory as programs that work in place. Whatever
is wrong with the arguments of an operation is found before its first byte is written: it does all
that the functions say, or it is stopped with memory and stores as they were.
-/
namespace DeviceArrays

namespace InPlace

open ElementwiseKernel (span scatter loadBuffer loadOperand loadScalar)

variable {s : Surroundings} {t : ElementType}

/-! ### Kernels -/

/-- Writes results to a buffer, `stride` elements apart; what lies between them is written back. -/
def store (b : BufferId) (values : List (Element t)) : (stride : Nat) → InPlace Unit
  | 0 => fail (.badArguments .zeroResultStride)
  | 1 => writeElements b 0 values
  | stride => do
    let count ← look fun _ => span values.length stride
    let region ← look fun m => m.readElements t b count
    writeElements b 0 (scatter region values.toArray stride)

theorem settles_store (s : Surroundings) (b : BufferId) (values : List (Element t))
    (stride : Nat) :
    (store b values stride).SettlesMemory s (ElementwiseKernel.store s.memory b values stride) := by
  match stride with
  | 0 => exact settles_fail _
  | 1 => exact settles_writeElements s b 0 values
  | stride + 2 =>
    refine .look fun count _ => .look (f := fun m => m.readElements t b count) fun region _ => ?_
    exact settles_writeElements s b 0 (scatter region values.toArray (stride + 2))

def binary (operation : BinaryOperation) (t : ElementType) (n : Nat) (x : BufferId) (strideX : Nat)
    (y : KernelOperand) (strideY : Nat) (r : BufferId) (strideR : Nat) : InPlace Unit := do
  let left ← look fun m => loadBuffer m t x n strideX
  let right ← look fun m => loadOperand m t n strideY y
  look fun _ => Attempt.reserve n t.width
  let _ ← look fun _ => Attempt.product (n - 1) strideY
  let values := (List.range n).map fun i =>
    operation.apply (left.at (i * strideX)) (right.at (i * strideY))
  store r values strideR

def abs (t : ElementType) (n : Nat) (x r : BufferId) : InPlace Unit := do
  let values ← look fun m => m.readElements t x n
  writeElements r 0 (values.map Element.magnitude)

def fill (t : ElementType) (n : Nat) (x : BufferId) (value : Scalar) : InPlace Unit := do
  let value ← look fun _ => loadScalar t value
  look fun _ => Attempt.reserve n t.width
  writeElements x 0 (List.replicate n value)

def reverse (t : ElementType) (n : Nat) (x r : BufferId) : InPlace Unit := do
  let values ← look fun m => m.readElements t x n
  writeElements r 0 values.reverse

def setSlice (t : ElementType) (lower upper : Nat) (x source : BufferId) : InPlace Unit := do
  if upper < lower then
    fail (.badArguments (.crossedBounds ElementwiseKernel.setSlice.name lower upper))
  let values ← look fun m => m.readElements t source (upper - lower)
  writeElements x lower values

/-- The work of a kernel on arguments that were read. -/
def execute : (k : ElementwiseKernel) → Parameter.Values k.parameters → InPlace Unit
  | .binary operation, (t, n, x, strideX, y, strideY, r, strideR, ()) =>
    binary operation t n x strideX y strideY r strideR
  | .abs, (t, n, x, r, ()) => abs t n x r
  | .fill, (t, n, x, value, ()) => fill t n x value
  | .reverse, (t, n, x, r, ()) => reverse t n x r
  | .setSlice, (t, lower, upper, x, source, ()) => setSlice t lower upper x source

theorem settles_execute (s : Surroundings) (k : ElementwiseKernel)
    (values : Parameter.Values k.parameters) :
    (execute k values).SettlesMemory s (k.execute s.memory values) := by
  cases k with
  | binary operation =>
    obtain ⟨t, n, x, strideX, y, strideY, r, strideR, ⟨⟩⟩ := values
    exact .look (f := fun m => loadBuffer m t x n strideX) fun left _ =>
      .look (f := fun m => loadOperand m t n strideY y) fun right _ =>
        .look fun _ _ => .look fun _ _ => settles_store s r _ strideR
  | abs =>
    obtain ⟨t, n, x, r, ⟨⟩⟩ := values
    exact .look (f := fun m => m.readElements t x n) fun elements _ =>
      settles_writeElements s r 0 (elements.map Element.magnitude)
  | fill =>
    obtain ⟨t, n, x, value, ⟨⟩⟩ := values
    exact .look fun element _ => .look fun _ _ =>
      settles_writeElements s x 0 (List.replicate n element)
  | reverse =>
    obtain ⟨t, n, x, r, ⟨⟩⟩ := values
    exact .look (f := fun m => m.readElements t x n) fun elements _ =>
      settles_writeElements s r 0 elements.reverse
  | setSlice =>
    obtain ⟨t, (lower : Nat), (upper : Nat), x, source, ⟨⟩⟩ := values
    simp only [execute, setSlice, ElementwiseKernel.execute, ElementwiseKernel.runSetSlice]
    split
    case isTrue => exact settles_fail _
    case isFalse =>
      exact .look (f := fun m => m.readElements t source (upper - lower)) fun elements _ =>
        settles_writeElements s x lower elements

/-- A call of a kernel: reads the arguments, then does the work. -/
def run (k : ElementwiseKernel) (arguments : List Argument) : InPlace Unit := do
  let values ← look fun _ => Contract.read k.name k.parameters arguments
  execute k values

theorem settles_run (s : Surroundings) (k : ElementwiseKernel) (arguments : List Argument) :
    (run k arguments).SettlesMemory s (k.run s.memory arguments) :=
  .look fun values _ => settles_execute s k values

end InPlace

/-! ### Operations -/

/-- What can be asked of a device's memory, apart from allocating. -/
inductive Operation
  | launch (k : ElementwiseKernel) (arguments : List Argument)
  | copyIn (b : BufferId) (data : Bytes)
  | copyOut (b : BufferId) (store : Nat)
  | write {t : ElementType} (b : BufferId) (offset : Nat) (values : List (Element t))
  | free (b : BufferId)

namespace Operation

variable {s : Surroundings}

/-- The operation as it is done in place. -/
def inPlace : Operation → InPlace Unit
  | launch k arguments => InPlace.run k arguments
  | copyIn b data => InPlace.copyIn b data
  | copyOut b store => InPlace.copyOut b store
  | write b offset values => InPlace.writeElements b offset values
  | free b => InPlace.free b

/-- What comes of the operation. -/
def outcome (s : Surroundings) : Operation → Attempt Surroundings
  | launch k arguments => (k.run s.memory arguments).map fun memory => { s with memory }
  | copyIn b data =>
    (Attempt.ofAnswer (s.memory.copyIn b data)).map fun memory => { s with memory }
  | copyOut b store =>
    (Attempt.ofAnswer (s.memory.copyOut b (s.stores[store]?.getD []).length)).map fun bytes =>
      { s with stores := s.stores.set store bytes }
  | write b offset values =>
    (s.memory.writeElements b offset values).map fun memory => { s with memory }
  | free b => (Attempt.ofAnswer (s.memory.free b)).map fun memory => { s with memory }

theorem settles_inPlace (o : Operation) (s : Surroundings) : o.inPlace.Settles s (o.outcome s) := by
  cases o with
  | launch k arguments => exact InPlace.settles_run s k arguments
  | copyIn b data => exact InPlace.settles_copyIn s b data
  | copyOut b store => exact InPlace.settles_copyOut s b store
  | write b offset values => exact InPlace.settles_writeElements s b offset values
  | free b => exact InPlace.settles_free s b

/-- Done in place, an operation succeeds exactly where the function has a result, and leaves that
result. With whatever fault it is stopped, all buffers, the next identifier and the stores are as
they were. -/
theorem inPlace_all_or_nothing (o : Operation) (s : Surroundings) :
    (∀ after, o.inPlace s = .ok () after ↔ o.outcome s = .ok after) ∧
      ∀ fault after, o.inPlace s = .error fault after ↔ o.outcome s = .error fault ∧ after = s := by
  rw [o.settles_inPlace s]
  cases o.outcome s with
  | ok after => simp
  | error fault => simp [eq_comm]

/-- Two sums of which the second lies outside the buffer: the first is not written either. -/
example :
    let s : Surroundings := ⟨⟨[some [1, 2]]⟩, []⟩
    (launch (.binary .add) [.ofType (.unsigned .w8), .count 2, .buffer ⟨1⟩, .stride 1, .buffer ⟨1⟩,
      .stride 1, .buffer ⟨1⟩, .stride 2]).inPlace s = .error (.error (.outOfBounds 0 3 2)) s := rfl

/-- The command by which a stream's worker is asked for the operation. Kernels alone write elements,
so there is none for that. -/
def command? (s : Surroundings) : Operation → Option Command
  | launch k arguments => some (.launch k.toKernel arguments)
  | copyIn b data => some (.copyToDevice b data)
  | copyOut b store => some (.copyToHost b ⟨store, (s.stores[store]?.getD []).length⟩)
  | write _ _ _ => none
  | free b => some (.release b)

/-- What a worker reports of a command, and what it leaves, is what comes of the program in
place. -/
theorem inPlace_of_command {o : Operation} {c : Command} (asked : o.command? s = some c) :
    (∃ after, o.inPlace s = .ok () after ∧ c.run s = (after, none)) ∨
      ∃ fault e, o.inPlace s = .error fault s ∧ c.run s = (s, some e) := by
  rw [o.settles_inPlace s]
  cases o with
  | launch k arguments =>
    cases asked
    simp only [outcome, Command.run, Command.perform, ElementwiseKernel.toKernel]
    cases k.run s.memory arguments with
    | ok m => exact .inl ⟨_, rfl, rfl⟩
    | error fault => cases fault <;> exact .inr ⟨_, _, rfl, rfl⟩
  | copyIn b data =>
    cases asked
    simp only [outcome, Command.run, Command.perform]
    cases s.memory.copyIn b data with
    | ok m => exact .inl ⟨_, rfl, rfl⟩
    | error e => exact .inr ⟨_, _, rfl, rfl⟩
  | copyOut b store =>
    cases asked
    simp only [outcome, Command.run, Command.perform]
    cases s.memory.copyOut b (s.stores[store]?.getD []).length with
    | ok bytes => exact .inl ⟨_, rfl, rfl⟩
    | error e => exact .inr ⟨_, _, rfl, rfl⟩
  | write b offset values => cases asked
  | free b =>
    cases asked
    simp only [outcome, Command.run, Command.perform]
    cases s.memory.free b with
    | ok m => exact .inl ⟨_, rfl, rfl⟩
    | error e => exact .inr ⟨_, _, rfl, rfl⟩

end Operation

end DeviceArrays

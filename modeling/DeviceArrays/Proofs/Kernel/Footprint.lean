import DeviceArrays.Kernel.Library
import DeviceArrays.Proofs.Memory.Sizes

/-!
# What kernels touch

An elementwise kernel reaches memory only through the buffers it is given, and all it changes is the
contents of one of them: sizes stay as they are, and buffers that are allocated meanwhile make no
difference.
-/
namespace DeviceArrays

namespace Attempt

variable {α β γ : Type}

theorem map_bind (x : Attempt α) (f : α → Attempt β) (g : β → γ) :
    (x >>= f).map g = x >>= fun a => (f a).map g := by
  cases x <;> rfl

theorem bind_eq_ok {x : Attempt α} {f : α → Attempt β} {b : β} (h : x >>= f = .ok b) :
    ∃ a, x = .ok a ∧ f a = .ok b := by
  cases x with
  | error e => cases h
  | ok a => exact ⟨a, rfl, h⟩

theorem eq_of_product {a b n : Nat} (h : product a b = .ok n) : n = a * b := by
  unfold product at h
  split at h
  case isTrue =>
    cases h
    rfl
  case isFalse => cases h

theorem eq_of_sum {a b n : Nat} (h : sum a b = .ok n) : n = a + b := by
  unfold sum at h
  split at h
  case isTrue =>
    cases h
    rfl
  case isFalse => cases h

end Attempt

namespace Memory

theorem contents?_of_answer {m : Memory} {b : BufferId} {bytes : Bytes}
    (h : Attempt.ofAnswer (m.contents b) = .ok bytes) : m.contents? b = some bytes := by
  unfold contents at h
  cases there : m.contents? b with
  | none => simp [there, Attempt.ofAnswer, Attempt.fail] at h
  | some old => simpa [there, Attempt.ofAnswer] using h

/-- What it takes to read elements, and which ones come of it. -/
theorem readElements_cases {m : Memory} {b : BufferId} {t : ElementType} {count : Nat}
    {values : List (Element t)} (h : m.readElements t b count = .ok values) :
    ∃ bytes, m.contents? b = some bytes ∧ count * t.width ≤ bytes.length ∧
      values = Element.listOfBytes t count bytes := by
  unfold readElements at h
  obtain ⟨bytes, found, h⟩ := Attempt.bind_eq_ok h
  obtain ⟨size, product, h⟩ := Attempt.bind_eq_ok h
  cases Attempt.eq_of_product product
  split at h
  case isTrue => cases h
  case isFalse fits =>
    cases h
    exact ⟨bytes, contents?_of_answer found, by omega, rfl⟩

/-- A write exchanges the contents of one live buffer for as many bytes. -/
theorem writeElements_cases {m after : Memory} {b : BufferId} {t : ElementType} {offset : Nat}
    {values : List (Element t)} (h : m.writeElements b offset values = .ok after) :
    ∃ old, m.contents? b = some old ∧ offset * t.width + values.length * t.width ≤ old.length ∧
      after = m.put b (some (old.splice (offset * t.width) (Element.listToBytes values))) := by
  unfold writeElements at h
  obtain ⟨bytes, found, h⟩ := Attempt.bind_eq_ok h
  obtain ⟨start, product, h⟩ := Attempt.bind_eq_ok h
  obtain ⟨stop, sum, h⟩ := Attempt.bind_eq_ok h
  cases Attempt.eq_of_product product
  cases Attempt.eq_of_sum sum
  split at h
  case isTrue => cases h
  case isFalse fits =>
    cases h
    rw [Element.length_listToBytes] at fits
    exact ⟨bytes, contents?_of_answer found, by omega, rfl⟩

theorem sizes_writeElements {m after : Memory} {b : BufferId} {t : ElementType} {offset : Nat}
    {values : List (Element t)} (h : m.writeElements b offset values = .ok after) :
    after.sizes = m.sizes := by
  obtain ⟨old, live, _, rfl⟩ := writeElements_cases h
  exact sizes_put live (Bytes.length_splice _ _ _)

end Memory

namespace KernelOperand

/-- The buffer an operand names. -/
def buffers : KernelOperand → List BufferId
  | .buffer b => [b]
  | .scalar _ => []

end KernelOperand

namespace ElementwiseKernel

/-- The buffers a kernel is given. -/
def buffers : (k : ElementwiseKernel) → Parameter.Values k.parameters → List BufferId
  | .binary _, (_, _, x, _, y, _, r, _, ()) => x :: r :: y.buffers
  | .abs, (_, _, x, r, ()) => [x, r]
  | .fill, (_, _, x, _, ()) => [x]
  | .reverse, (_, _, x, r, ()) => [x, r]
  | .setSlice, (_, _, _, x, source, ()) => [x, source]

theorem loadBuffer_grow {m : Memory} {b : BufferId} (h : m.Issued b) (t : ElementType)
    (n stride size : Nat) : loadBuffer (m.grow size) t b n stride = loadBuffer m t b n stride := by
  simp only [loadBuffer, Memory.readElements_grow h]

theorem loadOperand_grow {m : Memory} {y : KernelOperand} (h : ∀ b ∈ y.buffers, m.Issued b)
    (t : ElementType) (n stride size : Nat) :
    loadOperand (m.grow size) t n stride y = loadOperand m t n stride y := by
  cases y with
  | buffer b => exact loadBuffer_grow (h b (List.mem_singleton_self b)) t n stride size
  | scalar s => rfl

theorem store_grow {m : Memory} {b : BufferId} (h : m.Issued b) {t : ElementType}
    (values : List (Element t)) (stride size : Nat) :
    store (m.grow size) b values stride = (store m b values stride).map (Memory.grow · size) := by
  unfold store
  split
  case h_1 => rfl
  case h_2 => exact Memory.writeElements_grow h 0 values size
  case h_3 =>
    simp only [Memory.readElements_grow h, Memory.writeElements_grow h, Attempt.map_bind]

theorem runBinary_grow {m : Memory} {x r : BufferId} {y : KernelOperand} (left : m.Issued x)
    (right : ∀ b ∈ y.buffers, m.Issued b) (result : m.Issued r) (operation : BinaryOperation)
    (t : ElementType) (n strideX strideY strideR size : Nat) :
    runBinary operation (m.grow size) t n x strideX y strideY r strideR =
      (runBinary operation m t n x strideX y strideY r strideR).map (Memory.grow · size) := by
  simp only [runBinary, loadBuffer_grow left, loadOperand_grow right, store_grow result,
    Attempt.map_bind]

theorem runAbs_grow {m : Memory} {x r : BufferId} (source : m.Issued x) (result : m.Issued r)
    (t : ElementType) (n size : Nat) :
    runAbs (m.grow size) t n x r = (runAbs m t n x r).map (Memory.grow · size) := by
  simp only [runAbs, Memory.readElements_grow source, Memory.writeElements_grow result,
    Attempt.map_bind]

theorem runFill_grow {m : Memory} {x : BufferId} (target : m.Issued x) (t : ElementType)
    (n : Nat) (s : Scalar) (size : Nat) :
    runFill (m.grow size) t n x s = (runFill m t n x s).map (Memory.grow · size) := by
  simp only [runFill, Memory.writeElements_grow target, Attempt.map_bind]

theorem runReverse_grow {m : Memory} {x r : BufferId} (source : m.Issued x) (result : m.Issued r)
    (t : ElementType) (n size : Nat) :
    runReverse (m.grow size) t n x r = (runReverse m t n x r).map (Memory.grow · size) := by
  simp only [runReverse, Memory.readElements_grow source, Memory.writeElements_grow result,
    Attempt.map_bind]

theorem runSetSlice_grow {m : Memory} {x source : BufferId} (target : m.Issued x)
    (given : m.Issued source) (t : ElementType) (lower upper size : Nat) :
    runSetSlice (m.grow size) t lower upper x source =
      (runSetSlice m t lower upper x source).map (Memory.grow · size) := by
  simp only [runSetSlice, Memory.readElements_grow given, Memory.writeElements_grow target]
  split
  case isTrue => rfl
  case isFalse => exact (Attempt.map_bind _ _ _).symm

/-- A kernel does the same work before and after an allocation. -/
theorem execute_grow {m : Memory} (k : ElementwiseKernel) (values : Parameter.Values k.parameters)
    (h : ∀ b ∈ k.buffers values, m.Issued b) (size : Nat) :
    k.execute (m.grow size) values = (k.execute m values).map (Memory.grow · size) := by
  cases k with
  | binary operation =>
    obtain ⟨t, n, x, strideX, y, strideY, r, strideR, ⟨⟩⟩ := values
    have left : m.Issued x := h x (.head _)
    have result : m.Issued r := h r (.tail _ (.head _))
    exact runBinary_grow left (fun b member => h b (.tail _ (.tail _ member))) result operation
      t n strideX strideY strideR size
  | abs =>
    obtain ⟨t, n, x, r, ⟨⟩⟩ := values
    exact runAbs_grow (h x (.head _)) (h r (.tail _ (.head _))) t n size
  | fill =>
    obtain ⟨t, n, x, s, ⟨⟩⟩ := values
    exact runFill_grow (h x (.head _)) t n s size
  | reverse =>
    obtain ⟨t, n, x, r, ⟨⟩⟩ := values
    exact runReverse_grow (h x (.head _)) (h r (.tail _ (.head _))) t n size
  | setSlice =>
    obtain ⟨t, lower, upper, x, source, ⟨⟩⟩ := values
    exact runSetSlice_grow (h x (.head _)) (h source (.tail _ (.head _))) t lower upper size

theorem sizes_store {m after : Memory} {b : BufferId} {t : ElementType} {values : List (Element t)}
    {stride : Nat} (h : store m b values stride = .ok after) : after.sizes = m.sizes := by
  unfold store at h
  split at h
  case h_1 => cases h
  case h_2 => exact Memory.sizes_writeElements h
  case h_3 =>
    obtain ⟨count, _, h⟩ := Attempt.bind_eq_ok h
    obtain ⟨region, _, h⟩ := Attempt.bind_eq_ok h
    exact Memory.sizes_writeElements h

/-- No kernel allocates, frees or resizes a buffer. -/
theorem sizes_execute {m after : Memory} {k : ElementwiseKernel}
    {values : Parameter.Values k.parameters} (h : k.execute m values = .ok after) :
    after.sizes = m.sizes := by
  cases k with
  | binary operation =>
    obtain ⟨left, _, h⟩ := Attempt.bind_eq_ok h
    obtain ⟨right, _, h⟩ := Attempt.bind_eq_ok h
    obtain ⟨_, _, h⟩ := Attempt.bind_eq_ok h
    obtain ⟨_, _, h⟩ := Attempt.bind_eq_ok h
    exact sizes_store h
  | abs =>
    obtain ⟨elements, _, h⟩ := Attempt.bind_eq_ok h
    exact Memory.sizes_writeElements h
  | fill =>
    obtain ⟨value, _, h⟩ := Attempt.bind_eq_ok h
    obtain ⟨_, _, h⟩ := Attempt.bind_eq_ok h
    exact Memory.sizes_writeElements h
  | reverse =>
    obtain ⟨elements, _, h⟩ := Attempt.bind_eq_ok h
    exact Memory.sizes_writeElements h
  | setSlice =>
    obtain ⟨t, lower, upper, x, source, ⟨⟩⟩ := values
    simp only [execute, runSetSlice] at h
    split at h
    case isTrue => cases h
    case isFalse =>
      obtain ⟨elements, _, h⟩ := Attempt.bind_eq_ok h
      exact Memory.sizes_writeElements h

theorem sizes_run {m after : Memory} {k : ElementwiseKernel} {arguments : List Argument}
    (h : k.run m arguments = .ok after) : after.sizes = m.sizes := by
  unfold run at h
  obtain ⟨values, _, h⟩ := Attempt.bind_eq_ok h
  exact sizes_execute h

/-- A kernel that is called with the arguments it asks for does its work on their values. -/
theorem run_write (k : ElementwiseKernel) (m : Memory) (values : Parameter.Values k.parameters) :
    k.run m (Contract.write k.parameters values) = k.execute m values := by
  rw [run, Contract.read_write]
  rfl

end ElementwiseKernel

/-- A kernel that keeps the size of every buffer, whether or not it gets anything else right, and
whether or not it fails. -/
structure Kernel.Steady (k : Kernel) : Prop where
  ran : ∀ m arguments after, k.run m arguments = .ok after → after.sizes = m.sizes
  failed : ∀ m arguments, (k.left m arguments).sizes = m.sizes

theorem ElementwiseKernel.steady_toKernel (k : ElementwiseKernel) : k.toKernel.Steady where
  ran _ _ _ h := sizes_run h
  failed _ _ := rfl

namespace Library

/-- The standard library has elementwise kernels only. -/
theorem exists_of_mem_standard :
    ∀ c ∈ standard.kernels, ∃ k : ElementwiseKernel, c = k.toKernel := by
  refine List.foldlRecOn (motive := fun l : Library => ∀ c ∈ l.kernels,
    ∃ k : ElementwiseKernel, c = k.toKernel) _ register ?_ ?_
  · exact fun c member => by cases member
  · intro l known k listed c member
    obtain ⟨e, _, rfl⟩ := List.mem_map.mp listed
    obtain old | new := List.mem_append.mp member
    · exact known c (List.mem_filter.mp old).1
    · exact ⟨e, List.mem_singleton.mp new⟩

theorem steady_standard : ∀ c ∈ standard.kernels, c.Steady := by
  intro c member
  obtain ⟨k, rfl⟩ := exists_of_mem_standard c member
  exact k.steady_toKernel

end Library

end DeviceArrays

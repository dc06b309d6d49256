import DeviceArrays.Kernel.BinaryLaunch
import DeviceArrays.Proofs.Kernel.Footprint

/-!
# Kernels that succeed

An elementwise kernel can fail on account of its arguments only: a buffer that is not live or too
short, a scalar of another type, crossed bounds, or sizes that leave the word. `Fits` says that none
of this is the case, in terms of the sizes that the buffers are known to have.
-/
namespace DeviceArrays

namespace Memory

variable {m : Memory} {b : BufferId} {bytes : Bytes}

theorem contents_eq_ok (live : m.contents? b = some bytes) : m.contents b = .ok bytes := by
  simp [contents, live]

theorem copyIn_eq_ok (live : m.contents? b = some bytes) {data : Bytes}
    (fits : data.length ≤ bytes.length) :
    m.copyIn b data = .ok (m.put b (some (bytes.splice 0 data))) := by
  simp only [copyIn, contents_eq_ok live, bind, Except.bind]
  rw [if_neg (by omega)]
  rfl

theorem copyOut_eq_ok (live : m.contents? b = some bytes) {count : Nat}
    (fits : count ≤ bytes.length) : m.copyOut b count = .ok (bytes.take count) := by
  simp only [copyOut, contents_eq_ok live, bind, Except.bind]
  rw [if_neg (by omega)]
  rfl

theorem free_eq_ok (live : m.contents? b = some bytes) : m.free b = .ok (m.put b none) := by
  simp only [free, contents_eq_ok live, bind, Except.bind]
  rfl

theorem readElements_eq_ok (live : m.contents? b = some bytes) {t : ElementType} {count : Nat}
    (fits : count * t.width ≤ bytes.length) (bounded : bytes.length < wordBound) :
    m.readElements t b count = .ok (Element.listOfBytes t count bytes) := by
  have product : Attempt.product count t.width = .ok (count * t.width) := if_pos (by omega)
  simp only [readElements, contents_eq_ok live, Attempt.ofAnswer, product, bind, Except.bind]
  rw [if_neg (by omega)]
  rfl

theorem writeElements_eq_ok (live : m.contents? b = some bytes) {t : ElementType} {offset : Nat}
    {values : List (Element t)} (fits : (offset + values.length) * t.width ≤ bytes.length)
    (bounded : bytes.length < wordBound) :
    m.writeElements b offset values =
      .ok (m.put b (some (bytes.splice (offset * t.width) (Element.listToBytes values)))) := by
  rw [Nat.add_mul] at fits
  have start : Attempt.product offset t.width = .ok (offset * t.width) := if_pos (by omega)
  have stop : Attempt.sum (offset * t.width) (values.length * t.width) =
      .ok (offset * t.width + values.length * t.width) := if_pos (by omega)
  simp only [writeElements, contents_eq_ok live, Attempt.ofAnswer, start,
    Element.length_listToBytes, stop, bind, Except.bind]
  rw [if_neg (by omega)]
  rfl

/-- Whether elements can be written depends on how many they are, and not on what they are. -/
theorem exists_writeElements (old : Bytes) (t : ElementType) (offset count : Nat) :
    ∃ verdict : Attempt Unit, ∀ (m : Memory) (b : BufferId) (values : List (Element t)),
      m.contents? b = some old → values.length = count →
        m.writeElements b offset values = verdict.map fun _ =>
          m.put b (some (old.splice (offset * t.width) (Element.listToBytes values))) := by
  refine ⟨do
    let start ← Attempt.product offset t.width
    let stop ← Attempt.sum start (count * t.width)
    if old.length < stop then Attempt.fail (.outOfBounds start (count * t.width) old.length),
    fun m b values live same => ?_⟩
  simp only [writeElements, contents_eq_ok live, Attempt.ofAnswer, bind, Except.bind,
    Element.length_listToBytes, same]
  cases product : Attempt.product offset t.width with
  | error fault => rfl
  | ok start =>
    cases Attempt.eq_of_product product
    dsimp only
    cases Attempt.sum (offset * t.width) (count * t.width) with
    | error fault => rfl
    | ok stop =>
      dsimp only
      split <;> rfl

end Memory

theorem wordBound_of_largestAllocation {n : Nat} (h : n ≤ largestAllocation) : n < wordBound := by
  unfold largestAllocation at h
  have positive : 0 < wordBound := by decide
  omega

variable {has : BufferId → Nat → Prop}

/-- What a binary kernel asks of its right operand, where `has b n` says that buffer `b` holds `n`
bytes. -/
def KernelOperand.Fits (has : BufferId → Nat → Prop) (t : ElementType) (n : Nat) :
    KernelOperand → Prop
  | .buffer b => has b (n * t.width)
  | .scalar s => s.type = t

namespace ElementwiseKernel

/-- What a kernel asks of its arguments. -/
inductive Fits (has : BufferId → Nat → Prop) :
    (k : ElementwiseKernel) → Parameter.Values k.parameters → Prop
  | binary {operation : BinaryOperation} {t : ElementType} {n : Nat} {x r : BufferId}
      {y : KernelOperand} (left : has x (n * t.width)) (right : y.Fits has t n)
      (result : has r (n * t.width)) :
      Fits has (.binary operation) (t, n, x, (1 : Nat), y, y.stride, r, (1 : Nat), ())
  | abs {t : ElementType} {n : Nat} {x r : BufferId} (source : has x (n * t.width))
      (result : has r (n * t.magnitudeType.width)) : Fits has .abs (t, n, x, r, ())
  | fill {t : ElementType} {n : Nat} {x : BufferId} {s : Scalar} (target : has x (n * t.width))
      (same : s.type = t) : Fits has .fill (t, n, x, s, ())
  | reverse {t : ElementType} {n : Nat} {x r : BufferId} (source : has x (n * t.width))
      (result : has r (n * t.width)) : Fits has .reverse (t, n, x, r, ())
  | setSlice {t : ElementType} {n lower upper : Nat} {x source : BufferId} (ordered : lower ≤ upper)
      (inside : upper ≤ n) (target : has x (n * t.width))
      (given : has source ((upper - lower) * t.width)) :
      Fits has .setSlice (t, lower, upper, x, source, ())

/-- Every buffer of a fitting call is a known one. -/
theorem Fits.has_buffers {k : ElementwiseKernel} {values : Parameter.Values k.parameters}
    (h : k.Fits has values) {b : BufferId} (member : b ∈ k.buffers values) : ∃ n, has b n := by
  cases h with
  | @binary operation t n x r y left right result =>
    obtain rfl | rfl | operand : b = x ∨ b = r ∨ b ∈ y.buffers := by
      simpa only [buffers, List.mem_cons] using member
    · exact ⟨_, left⟩
    · exact ⟨_, result⟩
    · cases y with
      | buffer c =>
        cases List.mem_singleton.mp operand
        exact ⟨_, right⟩
      | scalar s => cases operand
  | @abs t n x r source result =>
    obtain rfl | rfl : b = x ∨ b = r := by
      simpa only [buffers, List.mem_cons, List.not_mem_nil, or_false] using member
    · exact ⟨_, source⟩
    · exact ⟨_, result⟩
  | @fill t n x s target same =>
    cases List.mem_singleton.mp member
    exact ⟨_, target⟩
  | @reverse t n x r source result =>
    obtain rfl | rfl : b = x ∨ b = r := by
      simpa only [buffers, List.mem_cons, List.not_mem_nil, or_false] using member
    · exact ⟨_, source⟩
    · exact ⟨_, result⟩
  | @setSlice t n lower upper x source ordered inside target given =>
    obtain rfl | rfl : b = x ∨ b = source := by
      simpa only [buffers, List.mem_cons, List.not_mem_nil, or_false] using member
    · exact ⟨_, target⟩
    · exact ⟨_, given⟩

/-- The elements that a list of bytes holds, walked one by one. -/
theorem loadBuffer_eq_ok {m : Memory} {b : BufferId} {bytes : Bytes} {t : ElementType} {n : Nat}
    (live : m.contents? b = some bytes) (size : bytes.length = n * t.width)
    (bounded : bytes.length < wordBound) :
    loadBuffer m t b n 1 = .ok (.elements (Element.listOfBytes t n bytes).toArray) := by
  have reached : span n 1 = .ok n := by
    have positive := t.width_pos
    have small : n ≤ bytes.length := size ▸ Nat.le_mul_of_pos_right n positive
    unfold span
    split
    case isTrue none_left => rw [none_left]
    case isFalse some_left =>
      have product : Attempt.product (n - 1) 1 = .ok (n - 1) := by
        rw [Attempt.product, if_pos (by omega), Nat.mul_one]
      have sum : Attempt.sum (n - 1) 1 = .ok n := by
        rw [Attempt.sum, if_pos (by omega), Nat.sub_add_cancel (by omega)]
      rw [product]
      exact sum
  rw [loadBuffer, reached]
  simp only [bind, Except.bind]
  rw [Memory.readElements_eq_ok live (by omega) bounded]
  rfl

theorem get?_of_type_eq {s : Scalar} {t : ElementType} (same : s.type = t) :
    ∃ value, s.get? t = some value := by
  subst same
  exact ⟨s.value, Scalar.get?_self s.value⟩

theorem loadScalar_eq_ok {s : Scalar} {t : ElementType} {value : Element t}
    (same : s.get? t = some value) : loadScalar t s = .ok value := by
  simp [loadScalar, same]

/-- What a binary kernel writes: the operands combined position by position. -/
def combined {t : ElementType} (operation : BinaryOperation) (n : Nat) (left right : Source t)
    (stride : Nat) : List (Element t) :=
  (List.range n).map fun i => operation.apply (left.at (i * 1)) (right.at (i * stride))

/-- Elements that take up the whole buffer replace its contents. -/
theorem writeElements_all_eq_ok {m : Memory} {b : BufferId} {old : Bytes} {t : ElementType}
    {values : List (Element t)} (live : m.contents? b = some old)
    (size : old.length = values.length * t.width) (bounded : old.length < wordBound) :
    m.writeElements b 0 values = .ok (m.put b (some (Element.listToBytes values))) := by
  have whole : old.splice (0 * t.width) (Element.listToBytes values) =
      Element.listToBytes values := by
    rw [Nat.zero_mul, Bytes.splice_all (by simp [size])]
  rw [Memory.writeElements_eq_ok live (by simp [size]) bounded, whole]

/-- A binary kernel on live buffers that are as long as its count asks for. -/
theorem runBinary_eq_ok {m : Memory} {operation : BinaryOperation} {t : ElementType} {n : Nat}
    {x r : BufferId} {y : KernelOperand} {bytes old : Bytes} {right : Source t}
    (left : m.contents? x = some bytes) (size : bytes.length = n * t.width)
    (loaded : loadOperand m t n y.stride y = .ok right) (result : m.contents? r = some old)
    (same : old.length = n * t.width) (small : n * t.width ≤ largestAllocation) :
    runBinary operation m t n x 1 y y.stride r 1 =
      .ok (m.put r (some (Element.listToBytes (combined operation n
        (.elements (Element.listOfBytes t n bytes).toArray) right y.stride)))) := by
  have bound := wordBound_of_largestAllocation small
  have reserved : Attempt.reserve n t.width = .ok () := if_pos small
  have product : Attempt.product (n - 1) y.stride = .ok ((n - 1) * y.stride) := by
    have few : n ≤ n * t.width := Nat.le_mul_of_pos_right n t.width_pos
    refine if_pos ?_
    cases y with
    | buffer b => simp only [KernelOperand.stride]; omega
    | scalar s => simp only [KernelOperand.stride]; omega
  rw [runBinary, loadBuffer_eq_ok left size (by omega), loaded]
  simp only [bind, Except.bind, reserved, product]
  exact writeElements_all_eq_ok result (by simp [same]) (by omega)

/-- Whether a slice can be assigned depends on the sizes, and not on what is assigned. -/
theorem exists_runSetSlice (old : Bytes) (t : ElementType) {lower upper : Nat}
    (ordered : lower ≤ upper) (bounded : (upper - lower) * t.width < wordBound) :
    ∃ verdict : Attempt Unit, ∀ (m : Memory) (x source : BufferId) (data : Bytes),
      m.contents? x = some old → m.contents? source = some data →
        data.length = (upper - lower) * t.width →
          runSetSlice m t lower upper x source =
            verdict.map fun _ => m.put x (some (old.splice (lower * t.width) data)) := by
  obtain ⟨verdict, written⟩ := Memory.exists_writeElements old t lower (upper - lower)
  refine ⟨verdict, fun m x source data target given length => ?_⟩
  have read := Memory.readElements_eq_ok given (Nat.le_of_eq length.symm) (length ▸ bounded)
  have whole : Element.listToBytes (Element.listOfBytes t (upper - lower) data) = data := by
    rw [Element.listToBytes_listOfBytes t _ data (Nat.le_of_eq length.symm),
      List.take_of_length_le (Nat.le_of_eq length)]
  have stored := written m x _ target (Element.length_listOfBytes t (upper - lower) data)
  rw [whole] at stored
  simp only [runSetSlice, if_neg (Nat.not_lt.mpr ordered), read, bind, Except.bind]
  exact stored

variable {m : Memory} (known : ∀ b n, has b n → m.size? b = some n ∧ n ≤ largestAllocation)

include known

theorem contents?_of_has {b : BufferId} {n : Nat} (h : has b n) :
    ∃ bytes, m.contents? b = some bytes ∧ bytes.length = n ∧ n ≤ largestAllocation := by
  obtain ⟨size, small⟩ := known b n h
  obtain ⟨bytes, live, length⟩ := Memory.contents?_of_size? size
  exact ⟨bytes, live, length, small⟩

theorem loadOperand_of_fits {y : KernelOperand} {t : ElementType} {n : Nat} (h : y.Fits has t n) :
    ∃ source, loadOperand m t n y.stride y = .ok source := by
  cases y with
  | buffer b =>
    obtain ⟨bytes, live, length, small⟩ := contents?_of_has known h
    exact ⟨_, loadBuffer_eq_ok live length (wordBound_of_largestAllocation (by omega))⟩
  | scalar s =>
    obtain ⟨value, same⟩ := get?_of_type_eq h
    refine ⟨.constant value, ?_⟩
    rw [loadOperand, loadScalar_eq_ok same]
    rfl

theorem readElements_of_has {b : BufferId} {t : ElementType} {n : Nat} (h : has b (n * t.width)) :
    ∃ values, m.readElements t b n = .ok values ∧ values.length = n := by
  obtain ⟨bytes, live, length, small⟩ := contents?_of_has known h
  exact ⟨_, Memory.readElements_eq_ok live (by omega) (wordBound_of_largestAllocation (by omega)),
    Element.length_listOfBytes t n bytes⟩

theorem writeElements_of_has {b : BufferId} {t : ElementType} {n : Nat} (h : has b (n * t.width))
    (offset : Nat) (values : List (Element t)) (inside : offset + values.length ≤ n) :
    ∃ after, m.writeElements b offset values = .ok after := by
  obtain ⟨bytes, live, length, small⟩ := contents?_of_has known h
  have fits : (offset + values.length) * t.width ≤ bytes.length :=
    length ▸ Nat.mul_le_mul_right t.width inside
  exact ⟨_, Memory.writeElements_eq_ok live fits (wordBound_of_largestAllocation (by omega))⟩

theorem runBinary_of_fits {operation : BinaryOperation} {t : ElementType} {n : Nat}
    {x r : BufferId} {y : KernelOperand} (left : has x (n * t.width)) (right : y.Fits has t n)
    (result : has r (n * t.width)) :
    ∃ after, runBinary operation m t n x 1 y y.stride r 1 = .ok after := by
  obtain ⟨bytes, live, length, small⟩ := contents?_of_has known left
  obtain ⟨source, loaded⟩ := loadOperand_of_fits known right
  obtain ⟨old, there, same, _⟩ := contents?_of_has known result
  exact ⟨_, runBinary_eq_ok live length loaded there same small⟩

/-- A kernel with fitting arguments succeeds. -/
theorem execute_of_fits {k : ElementwiseKernel} {values : Parameter.Values k.parameters}
    (h : k.Fits has values) : ∃ after, k.execute m values = .ok after := by
  cases h with
  | binary left right result => exact runBinary_of_fits known left right result
  | abs source result =>
    obtain ⟨elements, read, length⟩ := readElements_of_has known source
    obtain ⟨after, written⟩ := writeElements_of_has known result 0
      (elements.map Element.magnitude) (by simp [length])
    refine ⟨after, ?_⟩
    simp only [execute, runAbs, bind, Except.bind]
    rw [read]
    exact written
  | @fill t n x s target same =>
    obtain ⟨value, found⟩ := get?_of_type_eq same
    obtain ⟨after, written⟩ := writeElements_of_has known target 0
      (List.replicate n value) (by simp)
    have reserved : Attempt.reserve n t.width = .ok () := if_pos (known _ _ target).2
    refine ⟨after, ?_⟩
    simp only [execute, runFill, bind, Except.bind]
    rw [loadScalar_eq_ok found]
    simp only [reserved]
    exact written
  | reverse source result =>
    obtain ⟨elements, read, length⟩ := readElements_of_has known source
    obtain ⟨after, written⟩ := writeElements_of_has known result 0
      elements.reverse (by simp [length])
    refine ⟨after, ?_⟩
    simp only [execute, runReverse, bind, Except.bind]
    rw [read]
    exact written
  | setSlice ordered inside target given =>
    obtain ⟨elements, read, length⟩ := readElements_of_has known given
    obtain ⟨after, written⟩ := writeElements_of_has known target
      _ elements (by rw [length, Nat.add_sub_cancel' ordered]; exact inside)
    refine ⟨after, ?_⟩
    simp only [execute, runSetSlice, bind, Except.bind]
    rw [if_neg (by omega)]
    simp only [read]
    exact written

end ElementwiseKernel

end DeviceArrays

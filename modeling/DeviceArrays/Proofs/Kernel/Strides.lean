import DeviceArrays.Proofs.Kernel.Results

/-!
# Binary kernels and their strides

A binary kernel walks two operands and a result, each with a stride of its own: stride 0 stays at
one element, and between results that are further apart than one element everything stays. All
operands are read before the result is written, so the three buffers may be the same.
-/
namespace DeviceArrays

/-- The number of elements that `n` steps of a given stride reach over, in exact arithmetic. -/
def reach (n stride : Nat) : Nat := if n = 0 then 0 else (n - 1) * stride + 1

theorem mul_lt_reach {n i : Nat} (inside : i < n) (stride : Nat) : i * stride < reach n stride := by
  have steps : i * stride ≤ (n - 1) * stride := Nat.mul_le_mul_right stride (by omega)
  rw [reach, if_neg (by omega)]
  omega

theorem div_lt_of_lt_reach {n stride k : Nat} (inside : k < reach n stride) : k / stride < n := by
  unfold reach at inside
  split at inside
  case isTrue => omega
  case isFalse some_left =>
    have few : k / stride ≤ n - 1 := Nat.div_le_of_le_mul (by rw [Nat.mul_comm]; omega)
    omega

@[simp] theorem reach_one (n : Nat) : reach n 1 = n := by
  unfold reach
  split <;> omega

theorem le_reach {stride : Nat} (positive : 0 < stride) (n : Nat) : n ≤ reach n stride := by
  rcases n with _ | n
  · exact Nat.zero_le _
  · have steps : n ≤ n * stride := Nat.le_mul_of_pos_right n positive
    simp only [reach, Nat.succ_ne_zero, if_false, Nat.add_sub_cancel]
    omega

theorem reach_lt_wordBound {m : Memory} {b : BufferId} {t : ElementType} {n stride : Nat}
    (addressable : m.Addressable) (holds : m.Holds b (reach n stride * t.width)) :
    reach n stride < wordBound :=
  wordBound_of_largestAllocation
    (Nat.le_trans (Nat.le_mul_of_pos_right _ t.width_pos) (holds.le addressable))

namespace KernelOperand

/-- What a binary kernel asks of its right operand. -/
def Reaches (m : Memory) (t : ElementType) (n stride : Nat) : KernelOperand → Prop
  | .buffer b => m.Holds b (reach n stride * t.width)
  | .scalar s => s.type = t

/-- The value of an operand at a position: an element of a buffer, or the same one everywhere. -/
def element? (m : Memory) (t : ElementType) : KernelOperand → Nat → Option (Element t)
  | .buffer b, k => m.element? t b k
  | .scalar s, _ => s.get? t

end KernelOperand

namespace ElementwiseKernel

variable {m : Memory} {t : ElementType}

theorem meets_span (n stride : Nat) :
    (span n stride).Meets (reach n stride < wordBound) (· = reach n stride) := by
  unfold span reach
  split
  case isTrue => exact Attempt.meets_ok (by decide) rfl
  case isFalse =>
    refine ((Attempt.meets_product (n - 1) stride).bind (q := (n - 1) * stride + 1 < wordBound)
      fun last same => ?_).congr (by omega)
    subst same
    exact Attempt.meets_sum _ 1

/-! ### Operands -/

theorem meets_loadBuffer (addressable : m.Addressable) (b : BufferId) (n stride : Nat) :
    (loadBuffer m t b n stride).Meets (m.Holds b (reach n stride * t.width)) fun source =>
      ∀ i < n, m.element? t b (i * stride) = some (source.at (i * stride)) := by
  have loads : (loadBuffer m t b n stride).Meets
      (reach n stride < wordBound ∧ m.Holds b (reach n stride * t.width) ∧ True) fun source =>
        ∀ i < n, m.element? t b (i * stride) = some (source.at (i * stride)) := by
    refine (meets_span n stride).bind fun count same => ?_
    subst same
    refine (Memory.meets_readElements addressable t b _).bind fun values ⟨length, read⟩ =>
      Attempt.meets_ok trivial fun i inside => ?_
    have reached := mul_lt_reach inside stride
    rw [read _ reached]
    simp [Source.at, List.getElem?_eq_getElem (length ▸ reached)]
  exact loads.congr ⟨fun needs => needs.2.1, fun holds =>
    ⟨reach_lt_wordBound addressable holds, holds, trivial⟩⟩

theorem meets_loadOperand (addressable : m.Addressable) (n stride : Nat) (y : KernelOperand) :
    (loadOperand m t n stride y).Meets (y.Reaches m t n stride) fun source =>
      ∀ i < n, y.element? m t (i * stride) = some (source.at (i * stride)) := by
  cases y with
  | buffer b => exact meets_loadBuffer addressable b n stride
  | scalar s =>
    refine ((meets_loadScalar t s).bind fun v same => Attempt.meets_ok trivial fun i _ => ?_).congr
      (iff_of_eq (and_true _))
    subst same
    exact Scalar.get?_self v

/-! ### Results -/

theorem getElem?_scatter {region : List (Element t)} {values : Array (Element t)} {stride k : Nat}
    (inside : k < region.length) (reached : k / stride < values.size) :
    (scatter region values stride)[k]? =
      if k % stride = 0 then values[k / stride]? else region[k]? := by
  simp only [scatter, List.getElem?_mapIdx, List.getElem?_eq_getElem inside, Option.map_some]
  split
  · rw [Array.getElem?_eq_getElem reached, Option.getD_some]
  · rfl

/-- Elements that were read are written back, with some of them replaced. -/
theorem meets_writeScatter (addressable : m.Addressable) (r : BufferId) {stride : Nat}
    (positive : 0 < stride) {region values : List (Element t)}
    (length : region.length = reach values.length stride)
    (read : ∀ k < reach values.length stride, m.element? t r k = region[k]?) :
    (m.writeElements r 0 (scatter region values.toArray stride)).Meets
      (m.Holds r (reach values.length stride * t.width))
      fun after =>
        m.ChangesOnly r (fun k => ∃ i < values.length, k / t.width = i * stride) after ∧
          ∀ i < values.length, after.element? t r (i * stride) = values[i]? := by
  have whole : (scatter region values.toArray stride).length = reach values.length stride := by
    rw [scatter, List.length_mapIdx, length]
  refine (meets_writeFirst addressable r whole).mono .rfl fun after _ ⟨only, found⟩ => ?_
  have written (k : Nat) (inside : k < reach values.length stride) : after.element? t r k =
      if k % stride = 0 then values[k / stride]? else region[k]? := by
    have few : k / stride < values.toArray.size := div_lt_of_lt_reach inside
    rw [found k inside, getElem?_scatter (length ▸ inside) few, List.getElem?_toArray]
  refine ⟨only.elements (fun k => ∃ i < values.length, k = i * stride) fun k inside between => ?_,
    fun i inside => ?_⟩
  · have gap : k % stride ≠ 0 := fun multiple => between ⟨k / stride, div_lt_of_lt_reach inside,
      (Nat.div_mul_cancel (Nat.dvd_of_mod_eq_zero multiple)).symm⟩
    obtain ⟨v, there⟩ : ∃ v, region[k]? = some v := ⟨_, List.getElem?_eq_getElem (length ▸ inside)⟩
    refine ⟨v, (read k inside).trans there, ?_⟩
    rw [written k inside, if_neg gap, there]
  · rw [written _ (mul_lt_reach inside stride), if_pos (Nat.mul_mod_left i stride),
      Nat.mul_div_cancel _ positive]

/-- Results are `stride` elements apart, and what lies between two of them stays as it was. -/
theorem meets_store (addressable : m.Addressable) (r : BufferId) {n : Nat}
    {values : List (Element t)} (length : values.length = n) (stride : Nat) :
    (store m r values stride).Meets (1 ≤ stride ∧ m.Holds r (reach n stride * t.width))
      fun after => m.ChangesOnly r (fun k => ∃ i < n, k / t.width = i * stride) after ∧
        ∀ i < n, after.element? t r (i * stride) = values[i]? := by
  subst length
  match stride with
  | 0 => exact Attempt.meets_error _ fun needs => absurd needs.1 (by decide)
  | 1 =>
    refine (meets_writeFirst addressable r rfl).mono (by simp) fun after _ ⟨only, found⟩ =>
      ⟨only.elements (fun k => ∃ i < values.length, k = i * 1) fun k inside missed => ?_,
        fun i inside => ?_⟩
    · exact absurd ⟨k, inside, (Nat.mul_one k).symm⟩ missed
    · rw [Nat.mul_one, found i inside]
  | stride + 2 =>
    have stores : (store m r values (stride + 2)).Meets
        (reach values.length (stride + 2) < wordBound ∧
          m.Holds r (reach values.length (stride + 2) * t.width) ∧
            m.Holds r (reach values.length (stride + 2) * t.width)) _ :=
      (meets_span values.length (stride + 2)).bind fun count same => by
        subst same
        exact (Memory.meets_readElements addressable t r _).bind fun region ⟨length, read⟩ =>
          meets_writeScatter addressable r (Nat.succ_pos _) length read
    exact stores.congr ⟨fun needs => ⟨by omega, needs.2.2⟩, fun ⟨_, holds⟩ =>
      ⟨reach_lt_wordBound addressable holds, holds, holds⟩⟩

/-- A binary kernel combines elements that are the operands' strides apart. -/
theorem meets_runBinary (addressable : m.Addressable) (operation : BinaryOperation) (n : Nat)
    (x : BufferId) (strideX : Nat) (y : KernelOperand) (strideY : Nat) (r : BufferId)
    (strideR : Nat) (steps : ∀ s, y = .scalar s → (n - 1) * strideY < wordBound) :
    (runBinary operation m t n x strideX y strideY r strideR).Meets
      (1 ≤ strideR ∧ m.Holds x (reach n strideX * t.width) ∧ y.Reaches m t n strideY ∧
        m.Holds r (reach n strideR * t.width))
      fun after => m.ChangesOnly r (fun k => ∃ i < n, k / t.width = i * strideR) after ∧
        ∀ i < n, ∃ v u, m.element? t x (i * strideX) = some v ∧
          y.element? m t (i * strideY) = some u ∧
            after.element? t r (i * strideR) = some (operation.apply v u) := by
  refine ((meets_loadBuffer addressable x n strideX).bind fun left fromLeft =>
    (meets_loadOperand addressable n strideY y).bind fun right fromRight =>
      (Attempt.meets_reserve n t.width).bind fun _ _ =>
        (Attempt.meets_product (n - 1) strideY).bind fun _ _ =>
          (meets_store addressable r (by simp) strideR).mono .rfl
            fun after _ ⟨only, found⟩ => ⟨only, fun i inside => ⟨_, _, fromLeft i inside,
              fromRight i inside, ?result⟩⟩).congr ⟨?needed, ?enough⟩
  case result => rw [found i inside, List.getElem?_map, List.getElem?_range inside, Option.map_some]
  case needed =>
    rintro ⟨fromX, fromY, -, -, positive, toR⟩
    exact ⟨positive, fromX, fromY, toR⟩
  case enough =>
    rintro ⟨positive, fromX, fromY, toR⟩
    refine ⟨fromX, fromY, ?_, ?_, positive, toR⟩
    · exact Nat.le_trans (Nat.mul_le_mul_right _ (le_reach positive n)) (toR.le addressable)
    · cases y with
      | scalar s => exact steps s rfl
      | buffer b =>
        have bounded := reach_lt_wordBound addressable fromY
        unfold reach at bounded
        split at bounded
        case isTrue none_left => simp [none_left, bounded]
        case isFalse => omega

end ElementwiseKernel

/-- When a binary kernel succeeds, and what it leaves, in exact arithmetic and for every operation,
element type and choice of strides. Buffers only have to fit in the address space, as all do that
were allocated (`Journal.addressable_after`), and positions of a scalar operand in a word. Operands
are those that were there before the call, whether or not two of the buffers are the same; every
byte of the result's buffer that is not part of a result stays, as do all other buffers. -/
theorem binary_kernels_leave_what_they_compute {m : Memory} (addressable : m.Addressable)
    (operation : BinaryOperation) (t : ElementType) (n : Nat) (x : BufferId) (strideX : Nat)
    (y : KernelOperand) (strideY : Nat) (r : BufferId) (strideR : Nat)
    (steps : ∀ s, y = .scalar s → (n - 1) * strideY < wordBound) :
    ((ElementwiseKernel.binary operation).run m [.ofType t, .count n, .buffer x, .stride strideX,
      y.argument, .stride strideY, .buffer r, .stride strideR]).Meets
      (1 ≤ strideR ∧ m.Holds x (reach n strideX * t.width) ∧ y.Reaches m t n strideY ∧
        m.Holds r (reach n strideR * t.width))
      fun after => m.ChangesOnly r (fun k => ∃ i < n, k / t.width = i * strideR) after ∧
        ∀ i < n, ∃ v u, m.element? t x (i * strideX) = some v ∧
          y.element? m t (i * strideY) = some u ∧
            after.element? t r (i * strideR) = some (operation.apply v u) := by
  have called := ElementwiseKernel.run_write (.binary operation) m
    (t, n, x, strideX, y, strideY, r, strideR, ())
  have passed : Parameter.operand.write y = y.argument := by cases y <;> rfl
  simp only [Contract.write, passed] at called
  exact called ▸
    ElementwiseKernel.meets_runBinary addressable operation n x strideX y strideY r strideR steps

/-- Ten is added to three elements of a buffer, and the sums go to every second element of the same
buffer. -/
theorem binary_kernels_leave_what_they_compute_in_place :
    let m := (Journal.after [.allocate 5, .copyIn ⟨1⟩ [1, 2, 3, 4, 5]]).memory
    m.Addressable ∧ (3 - 1) * 7 < wordBound ∧
      ∃ after, (ElementwiseKernel.binary .add).run m [.ofType (.unsigned .w8), .count 3,
        .buffer ⟨1⟩, .stride 1, .scalar ⟨.unsigned .w8, 10#8⟩, .stride 7, .buffer ⟨1⟩,
        .stride 2] = .ok after ∧
          after.element? (.unsigned .w8) ⟨1⟩ 4 = some 13#8 ∧ after.byte? ⟨1⟩ 3 = some 4 := by
  intro m
  have addressable : m.Addressable := Journal.addressable_after _
  have steps : (3 - 1) * 7 < wordBound := by decide
  obtain ⟨succeeds, left⟩ := binary_kernels_leave_what_they_compute addressable .add (.unsigned .w8)
    3 ⟨1⟩ 1 (.scalar ⟨.unsigned .w8, 10#8⟩) 7 ⟨1⟩ 2 fun _ _ => steps
  obtain ⟨after, done⟩ := succeeds.mpr
    ⟨by decide, ⟨5, by decide, by decide⟩, rfl, 5, by decide, by decide⟩
  obtain ⟨only, found⟩ := left after done
  refine ⟨addressable, steps, after, done, ?_, ?_⟩
  · obtain ⟨v, u, before, added, sum⟩ := found 2 (by decide)
    have third : m.element? (.unsigned .w8) ⟨1⟩ 2 = some 3#8 := rfl
    cases before.symm.trans third
    cases Scalar.get?_self _ ▸ added
    exact sum
  · refine (only.bytes _ _ fun ⟨_, i, inside, place⟩ => ?_).trans rfl
    have odd : 3 = i * 2 := (Nat.div_one 3).symm.trans place
    omega

end DeviceArrays

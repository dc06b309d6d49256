import DeviceArrays.Proofs.Kernel.Elements
import DeviceArrays.Proofs.Memory.Lifetimes

/-!
# What kernels compute

For each kernel that walks its buffers one element at a time: when a call of it succeeds, which
elements it leaves, and that it leaves all other bytes as they were. The elements are made of what
the buffers held before the call, also where source and result are one buffer.
-/
namespace DeviceArrays

namespace ElementwiseKernel

variable {m : Memory} {t : ElementType}

theorem meets_loadScalar (t : ElementType) (s : Scalar) :
    (loadScalar t s).Meets (s.type = t) (s = ⟨t, ·⟩) := by
  obtain ⟨type, value⟩ := s
  by_cases same : type = t
  · subst same
    rw [loadScalar_eq_ok (Scalar.get?_self value)]
    exact Attempt.meets_ok rfl rfl
  · simp only [loadScalar, Scalar.get?_eq_none value same]
    exact Attempt.meets_error _ same

/-- Values are written over the first elements of a buffer. -/
theorem meets_writeFirst (addressable : m.Addressable) (r : BufferId) {n : Nat}
    {values : List (Element t)} (length : values.length = n) :
    (m.writeElements r 0 values).Meets (m.Holds r (n * t.width)) fun after =>
      m.ChangesOnly r (· < n * t.width) after ∧ ∀ i < n, after.element? t r i = values[i]? := by
  subst length
  refine (Memory.meets_writeElements addressable r 0 values).mono (by simp) ?_
  rintro after - ⟨only, found⟩
  refine ⟨only.mono fun k inside => by simpa using inside.2, fun i inside => ?_⟩
  simpa using found i inside

theorem meets_runAbs (addressable : m.Addressable) (t : ElementType) (n : Nat) (x r : BufferId) :
    (runAbs m t n x r).Meets (m.Holds x (n * t.width) ∧ m.Holds r (n * t.magnitudeType.width))
      fun after => m.ChangesOnly r (· < n * t.magnitudeType.width) after ∧
        ∀ i < n, ∃ v, m.element? t x i = some v ∧
          after.element? t.magnitudeType r i = some v.magnitude := by
  refine (Memory.meets_readElements addressable t x n).bind fun values ⟨length, read⟩ => ?_
  have magnitudes : (values.map Element.magnitude).length = n := by simp [length]
  refine (meets_writeFirst addressable r magnitudes).mono .rfl fun after _ ⟨only, found⟩ =>
    ⟨only, fun i inside => ?_⟩
  obtain ⟨v, place⟩ : ∃ v, values[i]? = some v := ⟨_, List.getElem?_eq_getElem (by omega)⟩
  refine ⟨v, (read i inside).trans place, ?_⟩
  rw [found i inside, List.getElem?_map, place]
  rfl

theorem meets_runReverse (addressable : m.Addressable) (t : ElementType) (n : Nat)
    (x r : BufferId) :
    (runReverse m t n x r).Meets (m.Holds x (n * t.width) ∧ m.Holds r (n * t.width))
      fun after => m.ChangesOnly r (· < n * t.width) after ∧
        ∀ i < n, ∃ v, m.element? t x (n - 1 - i) = some v ∧ after.element? t r i = some v := by
  refine (Memory.meets_readElements addressable t x n).bind fun values ⟨length, read⟩ => ?_
  subst length
  refine (meets_writeFirst addressable r List.length_reverse).mono .rfl
    fun after _ ⟨only, found⟩ => ⟨only, fun i inside => ?_⟩
  obtain ⟨v, place⟩ : ∃ v, values[values.length - 1 - i]? = some v :=
    ⟨_, List.getElem?_eq_getElem (by omega)⟩
  refine ⟨v, (read _ (by omega)).trans place, ?_⟩
  rw [found i inside, List.getElem?_reverse inside, place]

theorem meets_runFill (addressable : m.Addressable) (t : ElementType) (n : Nat) (x : BufferId)
    (s : Scalar) :
    (runFill m t n x s).Meets (s.type = t ∧ m.Holds x (n * t.width))
      fun after => m.ChangesOnly x (· < n * t.width) after ∧
        ∃ bytes, after.contents? x = some bytes ∧
          bytes.take (n * t.width) = (List.replicate n s.toBytes).flatten := by
  refine (meets_loadScalar t s).bind fun v same => ?_
  subst same
  refine ((Attempt.meets_reserve n t.width).bind fun _ _ =>
    meets_writeFirst addressable x List.length_replicate).mono ?_ ?_
  · exact ⟨And.right, fun holds => ⟨holds.le addressable, holds⟩⟩
  · rintro after ⟨size, sized, fits⟩ ⟨only, found⟩
    refine ⟨only, ?_⟩
    rw [← Memory.size?_congr only.sizes] at sized
    obtain ⟨bytes, live, rfl⟩ := Memory.contents?_of_size? sized
    have filled : bytes.take ((List.replicate n v).length * t.width) = _ :=
      Element.take_eq_listToBytes (by simpa using fits) fun i inside => by
        simpa [Memory.element?, live] using found i (by simpa using inside)
    refine ⟨bytes, live, ?_⟩
    rw [List.length_replicate] at filled
    rw [filled, Element.listToBytes, List.flatMap_def, List.map_replicate]
    rfl

theorem meets_runSetSlice (addressable : m.Addressable) (t : ElementType) (lower upper : Nat)
    (x source : BufferId) :
    (runSetSlice m t lower upper x source).Meets
      (lower ≤ upper ∧ m.Holds source ((upper - lower) * t.width) ∧ m.Holds x (upper * t.width))
      fun after =>
        m.ChangesOnly x (fun k => lower * t.width ≤ k ∧ k < upper * t.width) after ∧
          ∀ i < upper - lower, ∃ v, m.element? t source i = some v ∧
            after.element? t x (lower + i) = some v := by
  unfold runSetSlice
  split
  case isTrue crossed =>
    exact Attempt.meets_error _ fun holds => Nat.not_le.mpr crossed holds.1
  case isFalse ordered =>
    have le : lower ≤ upper := Nat.le_of_not_lt ordered
    suffices work : Attempt.Meets _ (m.Holds source ((upper - lower) * t.width) ∧
        m.Holds x (upper * t.width)) _ from work.congr (by simp [le])
    refine (Memory.meets_readElements addressable t source (upper - lower)).bind
      fun values ⟨length, read⟩ => ?_
    have whole : lower + values.length = upper := by omega
    refine (Memory.meets_writeElements addressable x lower values).mono (by rw [whole])
      fun after _ ⟨only, found⟩ => ⟨whole ▸ only, fun i inside => ?_⟩
    obtain ⟨v, place⟩ : ∃ v, values[i]? = some v := ⟨_, List.getElem?_eq_getElem (by omega)⟩
    exact ⟨v, (read i inside).trans place, (found i (by omega)).trans place⟩

end ElementwiseKernel

open ElementwiseKernel

/-- When the kernels for magnitudes, for filling, for reversing and for assigning a slice succeed,
and what they leave, in exact arithmetic and for every element type. Buffers only have to fit in the
address space, as all do that were allocated (`Journal.addressable_after`). Elements are made of
those that were there before the call, whether or not two of the buffers are the same, and no byte
that is not named here changes. -/
theorem kernels_leave_what_they_compute {m : Memory} (addressable : m.Addressable)
    (t : ElementType) :
    (∀ (n : Nat) (x r : BufferId),
      (abs.run m [.ofType t, .count n, .buffer x, .buffer r]).Meets
        (m.Holds x (n * t.width) ∧ m.Holds r (n * t.magnitudeType.width))
        fun after => m.ChangesOnly r (· < n * t.magnitudeType.width) after ∧
          ∀ i < n, ∃ v, m.element? t x i = some v ∧
            after.element? t.magnitudeType r i = some v.magnitude) ∧
    (∀ (n : Nat) (x : BufferId) (s : Scalar),
      (fill.run m [.ofType t, .count n, .buffer x, .scalar s]).Meets
        (s.type = t ∧ m.Holds x (n * t.width))
        fun after => m.ChangesOnly x (· < n * t.width) after ∧
          ∃ bytes, after.contents? x = some bytes ∧
            bytes.take (n * t.width) = (List.replicate n s.toBytes).flatten) ∧
    (∀ (n : Nat) (x r : BufferId),
      (reverse.run m [.ofType t, .count n, .buffer x, .buffer r]).Meets
        (m.Holds x (n * t.width) ∧ m.Holds r (n * t.width))
        fun after => m.ChangesOnly r (· < n * t.width) after ∧
          ∀ i < n, ∃ v, m.element? t x (n - 1 - i) = some v ∧ after.element? t r i = some v) ∧
    ∀ (lower upper : Nat) (x source : BufferId),
      (setSlice.run m [.ofType t, .count lower, .count upper, .buffer x, .buffer source]).Meets
        (lower ≤ upper ∧ m.Holds source ((upper - lower) * t.width) ∧ m.Holds x (upper * t.width))
        fun after => m.ChangesOnly x (fun k => lower * t.width ≤ k ∧ k < upper * t.width) after ∧
          ∀ i < upper - lower, ∃ v, m.element? t source i = some v ∧
            after.element? t x (lower + i) = some v := by
  refine ⟨fun n x r => ?_, fun n x s => ?_, fun n x r => ?_, fun lower upper x source => ?_⟩
  · have called := run_write .abs m (t, n, x, r, ())
    exact called ▸ meets_runAbs addressable t n x r
  · have called := run_write .fill m (t, n, x, s, ())
    exact called ▸ meets_runFill addressable t n x s
  · have called := run_write .reverse m (t, n, x, r, ())
    exact called ▸ meets_runReverse addressable t n x r
  · have called := run_write .setSlice m (t, lower, upper, x, source, ())
    exact called ▸ meets_runSetSlice addressable t lower upper x source

/-- A slice of a buffer is assigned to an overlapping slice of the same buffer. -/
theorem kernels_leave_what_they_compute_overlap :
    let m := (Journal.after [.allocate 4, .copyIn ⟨1⟩ [1, 2, 3, 4]]).memory
    m.Addressable ∧ ∃ after, setSlice.run m [.ofType (.unsigned .w8), .count 1, .count 4,
      .buffer ⟨1⟩, .buffer ⟨1⟩] = .ok after ∧
        after.byte? ⟨1⟩ 0 = some 1 ∧ after.element? (.unsigned .w8) ⟨1⟩ 3 = some 3 := by
  intro m
  have addressable : m.Addressable := Journal.addressable_after _
  obtain ⟨_, _, _, assigned⟩ := kernels_leave_what_they_compute addressable (.unsigned .w8)
  obtain ⟨succeeds, left⟩ := assigned 1 4 ⟨1⟩ ⟨1⟩
  obtain ⟨after, done⟩ := succeeds.mpr
    ⟨by decide, ⟨4, by decide, by decide⟩, 4, by decide, by decide⟩
  obtain ⟨only, found⟩ := left after done
  refine ⟨addressable, after, done, ?_, ?_⟩
  · rw [only.bytes _ _ (by decide)]
    decide
  · obtain ⟨v, before, later⟩ := found 2 (by decide)
    rw [later, ← before]
    decide

end DeviceArrays

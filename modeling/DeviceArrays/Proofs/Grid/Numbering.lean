import DeviceArrays.Fault
import DeviceArrays.Proofs.Kernel.Elements
import DeviceArrays.Proofs.Views
import Mathlib.Algebra.BigOperators.Group.List.Basic
import Mathlib.Data.Set.Function
import Mathlib.Order.Interval.Set.Defs

/-!
# Strides number the elements

Strides are multiplied up axis by axis, in words that could overflow. For the extents of a shape
they never do: as no extent is zero, a product only grows, and the whole one fits. The strides of
either layout then give every multi-index a place of its own below the size, and that is where its
element stands in the bytes, which are written by visiting the array or its transpose.
-/
namespace DeviceArrays

variable {α : Type} {extents index : List Nat}

theorem volume_eq_prod (extents : List Nat) : volume extents = extents.prod := by
  induction extents with
  | nil => rfl
  | cons d later ih => rw [volume, ih, List.prod_cons]

/-! ### Counting in words -/

/-- The number of points of a box, multiplied up in words from the first axis on. -/
def countedVolume (extents : List Nat) : Attempt Nat := extents.foldlM Attempt.product 1

/-- Steps in storage, multiplied up in words: the first axis takes steps of a given size, and every
other one steps over those before it. -/
def countedSteps : (step : Nat) → List Nat → Attempt (List Nat)
  | _, [] => .ok []
  | step, d :: later => do
    let next ← Attempt.product step d
    let steps ← countedSteps next later
    return step :: steps

/-- The strides of a layout, counted from the axis on that runs fastest. -/
def Layout.countedStrides : Layout → List Nat → Attempt (List Nat)
  | .rowMajor, extents => do return (← countedSteps 1 extents.reverse).reverse
  | .columnMajor, extents => countedSteps 1 extents

/-- A product of positive sizes leaves the word on the way only if it does so in the end. -/
theorem foldlM_product (positive : ∀ d ∈ extents, 0 < d) {count : Nat}
    (inWord : count < wordBound) :
    extents.foldlM Attempt.product count =
      if count * volume extents < wordBound then .ok (count * volume extents)
      else Attempt.crash "attempt to multiply with overflow" := by
  induction extents generalizing count with
  | nil =>
    rw [volume, Nat.mul_one, if_pos inWord]
    rfl
  | cons d later ih =>
    have rest : ∀ e ∈ later, 0 < e := fun e member => positive e (List.mem_cons_of_mem d member)
    have grows : count * d ≤ count * d * volume later :=
      Nat.le_mul_of_pos_right _ (volume_pos rest)
    rw [List.foldlM_cons, volume, ← Nat.mul_assoc]
    -- A count that has left the word would not come back, as the sizes left are positive.
    by_cases fits : count * d < wordBound
    · rw [Attempt.product, if_pos fits, ← ih rest fits]
      rfl
    · rw [Attempt.product, if_neg fits, if_neg (by omega)]
      rfl

theorem countedVolume_eq (positive : ∀ d ∈ extents, 0 < d) :
    countedVolume extents =
      if volume extents < wordBound then .ok (volume extents)
      else Attempt.crash "attempt to multiply with overflow" := by
  have counted := foldlM_product positive (show 1 < wordBound by decide)
  rwa [Nat.one_mul] at counted

theorem rowStrides_append (before later : List Nat) :
    rowStrides (before ++ later) =
      (rowStrides before).map (· * volume later) ++ rowStrides later := by
  induction before with
  | nil => rfl
  | cons d before ih => simp [rowStrides, volume_append, ih]

namespace Layout

/-- Where the first axis runs fastest, every other one steps over it. -/
theorem strides_columnMajor_cons (d : Nat) (later : List Nat) :
    columnMajor.strides (d :: later) = 1 :: (columnMajor.strides later).map (d * ·) := by
  simp [strides, rowStrides_append, rowStrides, volume, Nat.mul_comm d]

theorem countedSteps_eq_ok (positive : ∀ d ∈ extents, 0 < d) {step : Nat}
    (fits : step * volume extents < wordBound) :
    countedSteps step extents = .ok ((columnMajor.strides extents).map (step * ·)) := by
  induction extents generalizing step with
  | nil => rfl
  | cons d later ih =>
    have rest : ∀ e ∈ later, 0 < e := fun e member => positive e (List.mem_cons_of_mem d member)
    rw [volume, ← Nat.mul_assoc] at fits
    have next : Attempt.product step d = .ok (step * d) :=
      if_pos (Nat.lt_of_le_of_lt (Nat.le_mul_of_pos_right _ (volume_pos rest)) fits)
    simp [countedSteps, next, ih rest fits, strides_columnMajor_cons, bind, Except.bind, pure,
      Except.pure, Nat.mul_assoc]

theorem countedStrides_eq_ok (layout : Layout) (positive : ∀ d ∈ extents, 0 < d)
    (fits : volume extents < wordBound) :
    layout.countedStrides extents = .ok (layout.strides extents) := by
  have counted (extents : List Nat) (positive : ∀ d ∈ extents, 0 < d)
      (fits : 1 * volume extents < wordBound) :
      countedSteps 1 extents = .ok (columnMajor.strides extents) := by
    simpa using countedSteps_eq_ok positive fits
  cases layout with
  | rowMajor =>
    have backwards := counted extents.reverse (by simpa using positive) (by simpa using fits)
    simp [countedStrides, backwards, strides, bind, Except.bind, pure, Except.pure]
  | columnMajor => exact counted extents positive (by simpa using fits)

end Layout

namespace Shape

theorem exists_ofExtents_iff :
    (∃ shape, ofExtents extents = .ok shape) ↔
      (∀ d ∈ extents, 0 < d) ∧ volume extents < wordBound := by
  constructor
  · rintro ⟨shape, made⟩
    obtain rfl := ofExtents_eq_ok_iff.mp made
    exact ⟨shape.positive, shape.bounded⟩
  · rintro ⟨positive, bounded⟩
    exact ⟨⟨extents, positive, bounded⟩, ofExtents_eq_ok_iff.mpr rfl⟩

/-- Positive extents make a shape if their product can be counted in words. -/
theorem exists_ofExtents_iff_counted :
    (∃ shape, ofExtents extents = .ok shape) ↔
      (∀ d ∈ extents, 0 < d) ∧ ∃ n, countedVolume extents = .ok n := by
  rw [exists_ofExtents_iff]
  refine and_congr_right fun positive => ?_
  rw [countedVolume_eq positive]
  by_cases fits : volume extents < wordBound <;> simp [fits, Attempt.crash]

end Shape

/-! ### Places of multi-indices -/

theorem eq_of_offset_rowStrides_eq {other : List Nat}
    (inside : List.Forall₂ (· < ·) index extents) (too : List.Forall₂ (· < ·) other extents)
    (same : offset (rowStrides extents) index = offset (rowStrides extents) other) :
    index = other := by
  have found := getElem?_indices inside
  rw [same, getElem?_indices too] at found
  exact (Option.some.inj found).symm

namespace Layout

/-- No two multi-indices share a place, and no place below the volume is left free. -/
theorem bijOn_offset (layout : Layout) (extents : List Nat) :
    Set.BijOn (offset (layout.strides extents)) {index | List.Forall₂ (· < ·) index extents}
      (Set.Iio (volume extents)) := by
  refine ⟨fun index inside => layout.offset_strides_lt inside, ?_,
    fun k below => layout.exists_index_of_place below⟩
  intro index inside other too same
  cases layout with
  | rowMajor => exact eq_of_offset_rowStrides_eq inside too same
  | columnMajor =>
    -- Columns of a box are rows of the transposed one.
    rw [offset_columnMajor inside.length_eq, offset_columnMajor too.length_eq] at same
    have backwards := eq_of_offset_rowStrides_eq (List.forall₂_reverse_iff.mpr inside)
      (List.forall₂_reverse_iff.mpr too) same
    exact List.reverse_injective backwards

/-! ### Places of elements -/

/-- The elements of an array in the order in which they are visited to be written: along the last
axis first or, where the first axis runs fastest, so in the transposed array. -/
def visit (layout : Layout) (extents : List Nat) (element : List Nat → α) : List α :=
  match layout with
  | .rowMajor => (indices extents).map element
  | .columnMajor => (indices extents.reverse).map fun index => element index.reverse

@[simp] theorem length_visit (layout : Layout) (extents : List Nat) (element : List Nat → α) :
    (layout.visit extents element).length = volume extents := by
  cases layout <;> simp [visit]

/-- An element is visited when its place in storage is reached. -/
theorem getElem?_visit (layout : Layout) (element : List Nat → α)
    (inside : List.Forall₂ (· < ·) index extents) :
    (layout.visit extents element)[offset (layout.strides extents) index]? =
      some (element index) := by
  cases layout with
  | rowMajor => simp [visit, strides, getElem?_indices inside]
  | columnMajor =>
    rw [offset_columnMajor inside.length_eq]
    simp [visit, getElem?_indices (List.forall₂_reverse_iff.mpr inside)]

theorem arrange_visit (layout : Layout) (extents : List Nat) (element : List Nat → α) :
    layout.arrange extents (rowMajor.visit extents element) = layout.visit extents element := by
  have full := length_visit rowMajor extents element
  have arranged := layout.length_arrange full
  refine List.ext_getElem? fun k => ?_
  by_cases below : k < volume extents
  · obtain ⟨index, inside, rfl⟩ := layout.exists_index_of_place below
    rw [layout.getElem?_arrange full inside, layout.getElem?_visit element inside]
    exact getElem?_visit rowMajor element inside
  · rw [List.getElem?_eq_none (by omega), List.getElem?_eq_none (by simpa using below)]

end Layout

/-- In the bytes of some elements, each of them stands at its own place. -/
theorem Element.take_drop_listToBytes {t : ElementType} {xs : List (Element t)} {k : Nat}
    {x : Element t} (found : xs[k]? = some x) :
    ((listToBytes xs).drop (k * t.width)).take t.width = x.toBytes := by
  have inside := (List.getElem?_eq_some_iff.mp found).1
  have listed := listOfBytes_listToBytes xs []
  rw [List.append_nil] at listed
  symm
  apply toBytes_of_at?
  rw [at?_eq_getElem? (length_listToBytes xs).ge inside, listed, found]

namespace Grid

/-- A grid has an element at every multi-index; they are listed with the last axis running
fastest. -/
theorem exists_element (g : Grid) :
    ∃ element : List Nat → Element g.type, g.values = (indices g.extents).map element := by
  refine ⟨fun index => g.values[offset (rowStrides g.extents) index]?.getD 0, ?_⟩
  have listed : (List.range (volume g.extents)).map (fun k => g.values[k]?.getD 0) = g.values := by
    rw [← g.filled]
    apply List.ext_getElem
    · simp
    · intro k short long
      simp [long]
  rw [← map_offset_indices, List.map_map] at listed
  exact listed.symm

theorem toBytes_eq_visit {g : Grid} {element : List Nat → Element g.type}
    (listed : g.values = (indices g.extents).map element) (layout : Layout) :
    g.toBytes layout = Element.listToBytes (layout.visit g.extents element) := by
  rw [toBytes, listed, ← layout.arrange_visit]
  rfl

/-- The element at a multi-index stands where the strides of the layout say. -/
theorem take_drop_toBytes {g : Grid} {element : List Nat → Element g.type}
    (listed : g.values = (indices g.extents).map element) (layout : Layout)
    (inside : List.Forall₂ (· < ·) index g.extents) :
    ((g.toBytes layout).drop (offset (layout.strides g.extents) index * g.type.width)).take
      g.type.width = (element index).toBytes := by
  rw [toBytes_eq_visit listed]
  exact Element.take_drop_listToBytes (layout.getElem?_visit element inside)

end Grid

/-- Strides number the elements. A list of extents is a shape exactly if all are positive and their
exact product fits in a word, which is what counting in words finds out. Its size and the strides of
either layout are then counted without leaving the word; the strides give the multi-indices the
numbers below the size, each of them once; and a grid of these extents is written with the element
at a multi-index standing where the strides say, after the elements were visited along the last
axis first, or so in the transposed grid. -/
theorem strides_number_the_elements (extents : List Nat) :
    ((∃ shape, Shape.ofExtents extents = .ok shape) ↔
      (∀ d ∈ extents, 0 < d) ∧ extents.prod < 2 ^ 64) ∧
    ((∃ shape, Shape.ofExtents extents = .ok shape) ↔
      (∀ d ∈ extents, 0 < d) ∧ ∃ n, countedVolume extents = .ok n) ∧
    ∀ shape, Shape.ofExtents extents = .ok shape → ∀ layout : Layout,
      shape.size = extents.prod ∧ countedVolume extents = .ok shape.size ∧
      layout.countedStrides extents = .ok (layout.strides extents) ∧
      let place (index : List Nat) : Nat :=
        (List.zipWith (· * ·) (layout.strides extents) index).sum
      Set.BijOn place {index | List.Forall₂ (· < ·) index extents} (Set.Iio shape.size) ∧
      ∀ g : Grid, g.extents = extents →
        (g.toBytes layout).length = shape.size * g.type.width ∧
        ∃ element : List Nat → Element g.type,
          g.values = (indices extents).map element ∧
          g.toBytes layout = Element.listToBytes (layout.visit extents element) ∧
          ∀ index, List.Forall₂ (· < ·) index extents →
            ((g.toBytes layout).drop (place index * g.type.width)).take g.type.width =
              (element index).toBytes := by
  rw [← volume_eq_prod]
  refine ⟨Shape.exists_ofExtents_iff, Shape.exists_ofExtents_iff_counted, ?_⟩
  intro shape made layout
  obtain rfl := Shape.ofExtents_eq_ok_iff.mp made
  refine ⟨rfl, ?_, layout.countedStrides_eq_ok shape.positive shape.bounded, ?_⟩
  · rw [countedVolume_eq shape.positive, if_pos shape.bounded]
    rfl
  intro place
  have numbered : place = offset (layout.strides shape.extents) :=
    funext fun index => (offset_eq_sum _ index).symm
  rw [numbered]
  refine ⟨layout.bijOn_offset shape.extents, fun g same => ?_⟩
  obtain ⟨element, listed⟩ := g.exists_element
  have written := Grid.toBytes_eq_visit listed layout
  have length := g.length_toBytes layout
  rw [Grid.size, g.filled, same] at length
  refine ⟨length, element, same ▸ listed, same ▸ written, fun index inside => ?_⟩
  rw [← same] at inside ⊢
  exact Grid.take_drop_toBytes listed layout inside

/-- In a grid of two rows and three columns, when columns are stored one after the other, the first
element of the second row stands in the second two bytes, and the last one in the last two. -/
theorem strides_number_the_elements_columns :
    let shape : Shape := ⟨[2, 3], by decide, by decide⟩
    let g : Grid := ⟨.unsigned .w16, [2, 3], [1, 2, 3, 4, 5, 6], rfl⟩
    Shape.ofExtents [2, 3] = .ok shape ∧ Layout.columnMajor.countedStrides [2, 3] = .ok [1, 2] ∧
      g.extents = [2, 3] ∧ List.Forall₂ (· < ·) [1, 0] [2, 3] ∧ List.Forall₂ (· < ·) [1, 2] [2, 3] ∧
      ((g.toBytes .columnMajor).drop 2).take 2 = [4, 0] ∧
      ((g.toBytes .columnMajor).drop 10).take 2 = [6, 0] := by
  intro shape g
  obtain ⟨-, -, numbered⟩ := strides_number_the_elements [2, 3]
  have made : Shape.ofExtents [2, 3] = .ok shape := rfl
  obtain ⟨-, -, strides, -, written⟩ := numbered shape made .columnMajor
  obtain ⟨-, element, listed, -, places⟩ := written g rfl
  have first : List.Forall₂ (· < ·) [1, 0] [2, 3] := by simp
  have last : List.Forall₂ (· < ·) [1, 2] [2, 3] := by simp
  have four : element [1, 0] = (4 : BitVec 16) := (Option.some.inj (congrArg (·[3]?) listed)).symm
  have six : element [1, 2] = (6 : BitVec 16) := (Option.some.inj (congrArg (·[5]?) listed)).symm
  refine ⟨made, strides, rfl, first, last, (places [1, 0] first).trans ?_,
    (places [1, 2] last).trans ?_⟩
  · rw [four]
    decide
  · rw [six]
    decide

end DeviceArrays

import DeviceArrays.Grid
import Mathlib.Algebra.GroupWithZero.Nat
import Mathlib.Data.List.Forall2

/-!
# Multi-indices and storage

The multi-indices of a box, listed with the last axis running fastest, are numbered by their
offsets. Storage order is the same list for the extents and the index taken backwards, so what a
layout puts into storage is found again under the same multi-index.
-/
namespace DeviceArrays

variable {α : Type} {extents index : List Nat}

/-- A multi-index lies below the extents on every axis. -/
theorem mem_indices : index ∈ indices extents ↔ List.Forall₂ (· < ·) index extents := by
  induction extents generalizing index with
  | nil => simp [indices]
  | cons d later ih =>
    simp only [indices, List.mem_flatMap, List.mem_range, List.mem_map, List.forall₂_cons_right_iff,
      ih]
    constructor
    · rintro ⟨i, below, rest, inside, rfl⟩
      exact ⟨i, rest, below, inside, rfl⟩
    · rintro ⟨i, rest, below, inside, rfl⟩
      exact ⟨i, below, rest, inside, rfl⟩

theorem flatMap_range (d v : Nat) :
    ((List.range d).flatMap fun i => (List.range v).map (v * i + ·)) = List.range (d * v) := by
  induction d with
  | zero => simp
  | succ d ih =>
    rw [List.range_succ, List.flatMap_append, ih, Nat.succ_mul, List.range_add]
    simp [Nat.mul_comm]

/-- The offsets of all multi-indices, in order, are the numbers below the volume. -/
theorem map_offset_indices (extents : List Nat) :
    (indices extents).map (offset (rowStrides extents)) = List.range (volume extents) := by
  induction extents with
  | nil => rfl
  | cons d later ih =>
    rw [volume, ← flatMap_range, ← ih, indices, List.map_flatMap]
    simp only [List.map_map]
    rfl

@[simp] theorem length_indices (extents : List Nat) :
    (indices extents).length = volume extents := by
  simpa using congrArg List.length (map_offset_indices extents)

/-- A multi-index stands at its own offset. -/
theorem getElem?_indices (inside : List.Forall₂ (· < ·) index extents) :
    (indices extents)[offset (rowStrides extents) index]? = some index := by
  obtain ⟨k, found⟩ := List.getElem?_of_mem (mem_indices.mpr inside)
  have place := congrArg (·[k]?) (map_offset_indices extents)
  simp only [List.getElem?_map, found, Option.map_some] at place
  obtain ⟨_, same⟩ := List.getElem?_eq_some_iff.mp place.symm
  rw [List.getElem_range] at same
  rwa [← same]

theorem offset_rowStrides_lt (inside : List.Forall₂ (· < ·) index extents) :
    offset (rowStrides extents) index < volume extents := by
  have found := (List.getElem?_eq_some_iff.mp (getElem?_indices inside)).1
  rwa [length_indices] at found

/-- Every number below the volume is the offset of a multi-index. -/
theorem exists_index_of_lt {k : Nat} (below : k < volume extents) :
    ∃ index, List.Forall₂ (· < ·) index extents ∧ offset (rowStrides extents) index = k := by
  have listed : k ∈ (indices extents).map (offset (rowStrides extents)) := by
    rw [map_offset_indices]
    exact List.mem_range.mpr below
  obtain ⟨index, member, place⟩ := List.mem_map.mp listed
  exact ⟨index, mem_indices.mp member, place⟩

/-! ### Taken backwards -/

theorem volume_append (before later : List Nat) :
    volume (before ++ later) = volume before * volume later := by
  induction before with
  | nil => simp [volume]
  | cons d before ih => rw [List.cons_append, volume, volume, ih, Nat.mul_assoc]

@[simp] theorem volume_reverse (extents : List Nat) : volume extents.reverse = volume extents := by
  induction extents with
  | nil => rfl
  | cons d later ih => simp [volume_append, ih, volume, Nat.mul_comm]

@[simp] theorem length_rowStrides (extents : List Nat) :
    (rowStrides extents).length = extents.length := by
  induction extents with
  | nil => rfl
  | cons d later ih => simp [rowStrides, ih]

theorem offset_eq_sum (strides index : List Nat) :
    offset strides index = (List.zipWith (· * ·) strides index).sum := by
  induction strides generalizing index with
  | nil => rfl
  | cons s strides ih =>
    cases index with
    | nil => rfl
    | cons i index => rw [offset, ih, List.zipWith_cons_cons, List.sum_cons]

theorem offset_reverse {strides : List Nat} (same : strides.length = index.length) :
    offset strides.reverse index.reverse = offset strides index := by
  rw [offset_eq_sum, offset_eq_sum, ← List.reverse_zipWith same, List.sum_reverse]

theorem offset_columnMajor (same : index.length = extents.length) :
    offset (Layout.columnMajor.strides extents) index =
      offset (rowStrides extents.reverse) index.reverse := by
  have lengths : (rowStrides extents.reverse).reverse.length = index.length := by simp [same]
  rw [Layout.strides, ← offset_reverse lengths, List.reverse_reverse]

namespace Layout

theorem offset_strides_lt (layout : Layout) (inside : List.Forall₂ (· < ·) index extents) :
    offset (layout.strides extents) index < volume extents := by
  cases layout with
  | rowMajor => exact offset_rowStrides_lt inside
  | columnMajor =>
    rw [offset_columnMajor inside.length_eq, ← volume_reverse]
    exact offset_rowStrides_lt (List.forall₂_reverse_iff.mpr inside)

/-- Nothing is left out where everything is found. -/
theorem map_some_filterMap {β : Type} {f : β → Option α} {l : List β}
    (found : ∀ b ∈ l, (f b).isSome) : (l.filterMap f).map some = l.map f := by
  induction l with
  | nil => rfl
  | cons b l ih =>
    obtain ⟨a, here⟩ := Option.isSome_iff_exists.mp (found b List.mem_cons_self)
    have later := ih fun c member => found c (List.mem_cons_of_mem b member)
    rw [List.filterMap_cons_some here, List.map_cons, List.map_cons, later, here]

/-- Gathered from storage, the values stand in the order of their multi-indices. -/
theorem map_some_gather (layout : Layout) {storage : List α}
    (full : storage.length = volume extents) :
    (layout.gather extents storage).map some =
      (indices extents).map fun index => storage[offset (layout.strides extents) index]? := by
  cases layout with
  | rowMajor =>
    have listed : (indices extents).map (fun index => storage[offset (rowStrides extents) index]?) =
        ((indices extents).map (offset (rowStrides extents))).map (storage[·]?) := by
      simp
    rw [gather, strides, listed, map_offset_indices, ← full]
    apply List.ext_getElem <;> simp
  | columnMajor =>
    have found : ∀ i ∈ indices extents,
        (storage[offset (columnMajor.strides extents) i]?).isSome := by
      intro i member
      have inside := columnMajor.offset_strides_lt (mem_indices.mp member)
      simpa [full] using inside
    simpa [gather] using map_some_filterMap found

@[simp] theorem length_gather (layout : Layout) {storage : List α}
    (full : storage.length = volume extents) :
    (layout.gather extents storage).length = volume extents := by
  simpa using congrArg List.length (layout.map_some_gather full)

theorem getElem?_gather (layout : Layout) {storage : List α}
    (full : storage.length = volume extents) (inside : List.Forall₂ (· < ·) index extents) :
    (layout.gather extents storage)[offset (rowStrides extents) index]? =
      storage[offset (layout.strides extents) index]? := by
  have listed := congrArg (·[offset (rowStrides extents) index]?) (layout.map_some_gather full)
  simp only [List.getElem?_map, getElem?_indices inside, Option.map_some] at listed
  obtain ⟨x, found, same⟩ := Option.map_eq_some_iff.mp listed
  rw [found, same]

theorem map_some_arrange (extents : List Nat) {values : List α}
    (full : values.length = volume extents) :
    (columnMajor.arrange extents values).map some =
      (indices extents.reverse).map fun index =>
        values[offset (rowStrides extents) index.reverse]? := by
  have found : ∀ i ∈ indices extents.reverse,
      (values[offset (rowStrides extents) i.reverse]?).isSome := by
    intro i member
    have inside : List.Forall₂ (· < ·) i.reverse extents := by
      simpa using List.forall₂_reverse_iff.mpr (mem_indices.mp member)
    simpa [full] using offset_rowStrides_lt inside
  simpa [arrange] using map_some_filterMap found

@[simp] theorem length_arrange (layout : Layout) {values : List α}
    (full : values.length = volume extents) :
    (layout.arrange extents values).length = volume extents := by
  cases layout with
  | rowMajor => exact full
  | columnMajor => simpa using congrArg List.length (map_some_arrange extents full)

/-- In storage a value stands at the offset that the layout gives its multi-index. -/
theorem getElem?_arrange (layout : Layout) {values : List α}
    (full : values.length = volume extents) (inside : List.Forall₂ (· < ·) index extents) :
    (layout.arrange extents values)[offset (layout.strides extents) index]? =
      values[offset (rowStrides extents) index]? := by
  cases layout with
  | rowMajor => rfl
  | columnMajor =>
    have place := getElem?_indices (List.forall₂_reverse_iff.mpr inside)
    have listed := congrArg (·[offset (rowStrides extents.reverse) index.reverse]?)
      (map_some_arrange extents full)
    simp only [List.getElem?_map, place, Option.map_some, List.reverse_reverse] at listed
    obtain ⟨x, found, same⟩ := Option.map_eq_some_iff.mp listed
    rw [offset_columnMajor inside.length_eq, found, same]

/-- With at most one axis, every layout takes the same step in storage. -/
theorem strides_of_flat (layout : Layout) (flat : extents.length ≤ 1) :
    layout.strides extents = rowStrides extents := by
  match extents, flat with
  | [], _ => cases layout <;> rfl
  | [d], _ => cases layout <;> rfl

/-- A layout that takes the steps of the last axis running fastest lists values as they are. -/
theorem arrange_eq_self (layout : Layout) {values : List α} (full : values.length = volume extents)
    (same : layout.strides extents = rowStrides extents) :
    layout.arrange extents values = values := by
  have length := layout.length_arrange full
  refine List.ext_getElem? fun k => ?_
  by_cases below : k < volume extents
  · obtain ⟨index, inside, rfl⟩ := exists_index_of_lt below
    have placed := layout.getElem?_arrange full inside
    rwa [same] at placed
  · rw [List.getElem?_eq_none (by omega), List.getElem?_eq_none (by omega)]

/-- Every place in storage is that of a multi-index. -/
theorem exists_index_of_place (layout : Layout) {k : Nat} (below : k < volume extents) :
    ∃ index, List.Forall₂ (· < ·) index extents ∧ offset (layout.strides extents) index = k := by
  cases layout with
  | rowMajor => exact exists_index_of_lt below
  | columnMajor =>
    rw [← volume_reverse] at below
    obtain ⟨index, inside, rfl⟩ := exists_index_of_lt below
    have turned : List.Forall₂ (· < ·) index.reverse extents := by
      simpa using List.forall₂_reverse_iff.mpr inside
    exact ⟨index.reverse, turned, by rw [offset_columnMajor turned.length_eq, List.reverse_reverse]⟩

/-- Values that were brought into storage order are gathered as they were. -/
theorem gather_arrange (layout : Layout) {values : List α} (full : values.length = volume extents) :
    layout.gather extents (layout.arrange extents values) = values := by
  have stored := layout.length_arrange full
  have length := layout.length_gather stored
  refine List.ext_getElem? fun k => ?_
  by_cases below : k < volume extents
  · obtain ⟨index, inside, rfl⟩ := exists_index_of_lt below
    rw [layout.getElem?_gather stored inside, layout.getElem?_arrange full inside]
  · rw [List.getElem?_eq_none (by omega), List.getElem?_eq_none (by omega)]

/-- Values that were gathered from storage are brought into the order they had there. -/
theorem arrange_gather (layout : Layout) {storage : List α}
    (full : storage.length = volume extents) :
    layout.arrange extents (layout.gather extents storage) = storage := by
  have gathered := layout.length_gather full
  have length := layout.length_arrange gathered
  refine List.ext_getElem? fun k => ?_
  by_cases below : k < volume extents
  · obtain ⟨index, inside, rfl⟩ := layout.exists_index_of_place below
    rw [layout.getElem?_arrange gathered inside, layout.getElem?_gather full inside]
  · rw [List.getElem?_eq_none (by omega), List.getElem?_eq_none (by omega)]

end Layout

namespace Grid

@[simp] theorem length_toBytes (g : Grid) (layout : Layout) :
    (g.toBytes layout).length = g.size * g.type.width := by
  rw [toBytes, Element.length_listToBytes, layout.length_arrange g.filled, size, g.filled]

/-- With at most one axis, a grid has the same bytes in every layout. -/
theorem toBytes_of_flat {g : Grid} (flat : g.extents.length ≤ 1) (layout other : Layout) :
    g.toBytes layout = g.toBytes other := by
  rw [toBytes, toBytes, layout.arrange_eq_self g.filled (layout.strides_of_flat flat),
    other.arrange_eq_self g.filled (other.strides_of_flat flat)]

end Grid

end DeviceArrays

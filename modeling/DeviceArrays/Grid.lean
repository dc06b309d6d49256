import DeviceArrays.Element
import DeviceArrays.Shape

/-!
# Grids

A grid is a rectangular array of elements on the host. Its values are listed with the last axis
running fastest, whatever storage they came from; a layout turns that list into storage order and
back.
-/
namespace DeviceArrays

structure Grid where
  type : ElementType
  extents : List Nat
  values : List (Element type)
  filled : values.length = volume extents

namespace Layout

/-- Lists values in storage order, given them with the last axis running fastest. -/
def arrange {α : Type} (layout : Layout) (extents : List Nat) (values : List α) : List α :=
  match layout with
  | .rowMajor => values
  | .columnMajor =>
    let table := values.toArray
    (indices extents.reverse).filterMap fun index =>
      table[offset (rowStrides extents) index.reverse]?

/-- Lists values with the last axis running fastest, given them in storage order. -/
def gather {α : Type} (layout : Layout) (extents : List Nat) (storage : List α) : List α :=
  match layout with
  | .rowMajor => storage
  | .columnMajor =>
    let table := storage.toArray
    (indices extents).filterMap fun index => table[offset (columnMajor.strides extents) index]?

end Layout

namespace Grid

/-- A one-dimensional grid. -/
def ofList {t : ElementType} (values : List (Element t)) : Grid :=
  ⟨t, [values.length], values, by simp [volume]⟩

/-- A grid of given extents, if there are as many values as it needs. -/
def ofValues? {t : ElementType} (extents : List Nat) (values : List (Element t)) : Option Grid :=
  if filled : values.length = volume extents then some ⟨t, extents, values, filled⟩ else none

/-- The number of elements. -/
def size (g : Grid) : Nat := g.values.length

/-- The bytes of the elements in the storage order of a layout. -/
def toBytes (g : Grid) (layout : Layout) : Bytes :=
  Element.listToBytes (layout.arrange g.extents g.values)

end Grid

end DeviceArrays

import DeviceArrays.Word

/-!
# Shapes and layouts

A shape is a list of positive extents whose product fits in a word. A layout says which axis runs
fastest in storage; its strides are the steps in storage of one step along each axis.
-/
namespace DeviceArrays

/-- A list of numbers between brackets. -/
def listText (ns : List Nat) : String := "[" ++ ", ".intercalate (ns.map toString) ++ "]"

/-- Why a list of extents is no shape. Axes count from zero. -/
inductive ShapeProblem
  | zeroExtent (axis : Nat) (extents : List Nat)
  | tooLarge (extents : List Nat)
  deriving DecidableEq, Repr

def ShapeProblem.message : ShapeProblem → String
  | .zeroExtent axis extents =>
    s!"extent of axis {axis} must be positive in shape {listText extents}"
  | .tooLarge extents => s!"element count of shape {listText extents} overflows usize"

/-- The number of points of a box with the given extents. -/
def volume : List Nat → Nat
  | [] => 1
  | d :: later => d * volume later

structure Shape where
  extents : List Nat
  positive : ∀ d ∈ extents, 0 < d
  bounded : volume extents < wordBound
  deriving DecidableEq

theorem volume_pos {extents : List Nat} (h : ∀ d ∈ extents, 0 < d) : 0 < volume extents := by
  induction extents with
  | nil => exact Nat.one_pos
  | cons d later ih =>
    exact Nat.mul_pos (h d List.mem_cons_self) (ih fun e he => h e (List.mem_cons_of_mem d he))

/-- Which axis runs fastest in storage: the last one or the first one. -/
inductive Layout
  | rowMajor
  | columnMajor
  deriving DecidableEq, Repr

def Layout.name : Layout → String
  | .rowMajor => "RowMajor"
  | .columnMajor => "ColumnMajor"

/-- Steps in storage when the last axis runs fastest: each axis steps over all later ones. -/
def rowStrides : List Nat → List Nat
  | [] => []
  | _ :: later => volume later :: rowStrides later

/-- Steps in storage for each axis of some extents. -/
def Layout.strides : Layout → List Nat → List Nat
  | .rowMajor, extents => rowStrides extents
  | .columnMajor, extents => (rowStrides extents.reverse).reverse

/-- Every multi-index of some extents, the last axis running fastest. -/
def indices : List Nat → List (List Nat)
  | [] => [[]]
  | d :: later => (List.range d).flatMap fun i => (indices later).map (i :: ·)

/-- The position in storage of a multi-index. -/
def offset : (strides index : List Nat) → Nat
  | s :: strides, i :: index => s * i + offset strides index
  | _, _ => 0

namespace Shape

/-- Checks the extents from the first axis on, and then their product. -/
def ofExtents (extents : List Nat) : Except ShapeProblem Shape :=
  if positive : ∀ d ∈ extents, 0 < d then
    if bounded : volume extents < wordBound then .ok ⟨extents, positive, bounded⟩
    else .error (.tooLarge extents)
  else .error (.zeroExtent (extents.idxOf 0) extents)

def rank (s : Shape) : Nat := s.extents.length

/-- The number of elements. -/
def size (s : Shape) : Nat := volume s.extents

/-- The extent of the first axis, and one where there is no axis. -/
def length (s : Shape) : Nat := s.extents.head?.getD 1

/-- A parenthesised list; a single extent is followed by a comma. -/
def text (s : Shape) : String :=
  match s.extents with
  | [d] => s!"({d},)"
  | extents => "(" ++ ", ".intercalate (extents.map toString) ++ ")"

theorem size_pos (s : Shape) : 0 < s.size := by
  exact volume_pos s.positive

end Shape

end DeviceArrays

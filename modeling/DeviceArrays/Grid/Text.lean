import DeviceArrays.Shape

/-!
# Text of a grid

Rows are nested brackets, one row a line, and blocks of rows are set apart by blank lines. A grid
of many elements shows only the edges of its long axes, and only what is shown is put into text.
-/
namespace DeviceArrays.GridText

/-- From this many elements on, long axes are shortened. -/
def manyElements : Nat := 500

/-- How many items of an axis are shown at most, given the number of axes inside it. -/
def limit (inner : Nat) : Nat := if inner < 2 then 11 else 6

/-- The items of an axis that are shown, with one gap in place of those left out. -/
def abridged {α : Type} (limit : Nat) (items : List α) : List (Option α) :=
  if items.length ≤ limit then items.map some
  else
    let edge := limit / 2
    (items.take edge).map some ++ none :: (items.drop (items.length - edge)).map some

/-- What stands between two items of an axis, given the number of axes inside it and around it. -/
def separator (inner outer : Nat) : String :=
  match inner with
  | 0 => ", "
  | blank + 1 =>
    String.ofList (',' :: '\n' :: List.replicate blank '\n' ++ List.replicate (outer + 1) ' ')

/-- The first `count` runs of `size` items. -/
def runs {α : Type} (size : Nat) : (count : Nat) → List α → List (List α)
  | 0, _ => []
  | count + 1, items => items.take size :: runs size count (items.drop size)

/-- The text of the axes inside `outer` others. Dots stand in a gap. -/
def nested {α : Type} (text : α → String) (shorten : Bool) (outer : Nat) :
    (extents : List Nat) → List α → String
  | [], items => "".intercalate (items.map text)
  | d :: later, items =>
    let parts := runs (volume later) d items
    let shown := if shorten then abridged (limit later.length) parts else parts.map some
    let texts := shown.map fun part =>
      match part with
      | some part => nested text shorten (outer + 1) later part
      | none => "..."
    "[" ++ (separator later.length outer).intercalate texts ++ "]"

/-- The text of a grid. Its elements are given with the last axis running fastest. -/
def render {α : Type} (text : α → String) (extents : List Nat) (items : List α) : String :=
  nested text (manyElements ≤ items.length) 0 extents items

end DeviceArrays.GridText

import DeviceArrays.DeviceArray.Operators
import DeviceArrays.DeviceArray.View
import DeviceArrays.Proofs.Grid.Indices

/-!
# Views of one owner

However views are made from views, each of them is what its owner gives when it is reshaped at once:
they differ in their extents only, and the owner is the root of all. What changes the elements is
the same call through every one of them.
-/
namespace DeviceArrays

namespace Shape

theorem ofExtents_eq_ok_iff {extents : List Nat} {shape : Shape} :
    ofExtents extents = .ok shape ↔ shape.extents = extents := by
  unfold ofExtents
  constructor
  · intro made
    split at made
    case isTrue =>
      split at made
      case isTrue =>
        cases made
        rfl
      case isFalse => cases made
    case isFalse => cases made
  · rintro rfl
    rw [dif_pos shape.positive, dif_pos shape.bounded]

end Shape

namespace Grid

/-- The grid of other extents that has the same elements in the storage order of a layout. -/
def recast (g : Grid) (layout : Layout) (extents : List Nat)
    (same : volume g.extents = volume extents) : Grid where
  type := g.type
  extents := extents
  values := layout.gather extents (layout.arrange g.extents g.values)
  filled := layout.length_gather (by rw [layout.length_arrange g.filled, same])

@[simp] theorem toBytes_recast (g : Grid) (layout : Layout) {extents : List Nat}
    (same : volume g.extents = volume extents) :
    (g.recast layout extents same).toBytes layout = g.toBytes layout := by
  unfold toBytes recast
  rw [layout.arrange_gather (by rw [layout.length_arrange g.filled, same])]

end Grid

namespace DeviceArray

variable {a v w : DeviceArray} {extents : List Nat} {shape : Shape}

/-- The array seen with another shape. -/
def through (a : DeviceArray) (shape : Shape) : DeviceArray :=
  { a with shape, ownership := .view a.root }

@[simp] theorem through_through (a : DeviceArray) (shape other : Shape) :
    (a.through shape).through other = a.through other := rfl

/-- Every shape of the same size can be given to an array, and no other. -/
theorem reshape_eq_ok_iff : a.reshape extents = .ok v ↔
    ∃ shape : Shape, shape.extents = extents ∧ shape.size = a.size ∧ v = a.through shape := by
  unfold reshape
  cases checked : Shape.ofExtents extents with
  | error problem =>
    refine ⟨nofun, ?_⟩
    rintro ⟨shape, given, -⟩
    rw [Shape.ofExtents_eq_ok_iff.mpr given] at checked
    cases checked
  | ok shape =>
    have given := Shape.ofExtents_eq_ok_iff.mp checked
    dsimp only
    split
    case isTrue same =>
      constructor
      · intro made
        cases made
        exact ⟨shape, given, same, rfl⟩
      · rintro ⟨other, again, -, rfl⟩
        cases checked.symm.trans (Shape.ofExtents_eq_ok_iff.mpr again)
        rfl
    case isFalse different =>
      refine ⟨nofun, ?_⟩
      rintro ⟨other, again, same, -⟩
      cases checked.symm.trans (Shape.ofExtents_eq_ok_iff.mpr again)
      exact absurd same different

theorem exists_reshape_iff :
    (∃ v, a.reshape extents = .ok v) ↔ (∀ d ∈ extents, 0 < d) ∧ volume extents = a.size := by
  constructor
  · rintro ⟨v, made⟩
    obtain ⟨shape, rfl, same, -⟩ := reshape_eq_ok_iff.mp made
    exact ⟨shape.positive, same⟩
  · rintro ⟨positive, same⟩
    exact ⟨_, reshape_eq_ok_iff.mpr
      ⟨⟨extents, positive, same ▸ a.shape.bounded⟩, rfl, same, rfl⟩⟩

theorem shapeMismatch_of_reshape {e : Error} (refused : a.reshape extents = .error e) :
    ∃ cause, e = .shapeMismatch cause := by
  unfold reshape at refused
  split at refused
  case h_1 =>
    cases refused
    exact ⟨_, rfl⟩
  case h_2 =>
    split at refused
    case isTrue => cases refused
    case isFalse =>
      cases refused
      exact ⟨_, rfl⟩

/-! ### Calls through another shape -/

section Calls

variable (same : shape.size = a.size)

include same

theorem fill_through (value : Scalar) : (a.through shape).fill value = a.fill value := by
  have size : (a.through shape).size = a.size := same
  unfold fill
  rw [size]
  rfl

theorem setSlice_through (start stop : Nat) (operand : Operand) :
    (a.through shape).setSlice start stop operand = a.setSlice start stop operand := by
  have size : (a.through shape).size = a.size := same
  cases operand with
  | scalar value => exact fill_through same value
  | array b =>
    simp only [setSlice, size]
    rfl
  | grid g =>
    simp only [setSlice, size]
    rfl

end Calls

/-- What a grid of the view's extents leaves is what any grid of the owner's extents leaves that has
the same elements in storage. -/
theorem fillFrom_through {g h : Grid} (fits : g.extents = shape.extents)
    (others : h.extents = a.shape.extents) (type : h.type = g.type)
    (stored : h.toBytes a.layout = g.toBytes a.layout) :
    (a.through shape).fillFrom g = a.fillFrom h := by
  have mine : ¬ g.extents ≠ (a.through shape).shape.extents := not_not_intro fits
  have theirs : ¬ h.extents ≠ a.shape.extents := not_not_intro others
  simp only [fillFrom, mine, theirs, if_false, type, stored]
  rfl

/-- Calls that change the elements do the same through `v` as through `a`. What `v` is given as a
grid of its own extents is for `a` the grid with the same bytes in storage. -/
structure SameEffects (a v : DeviceArray) : Prop where
  fill : ∀ value, v.fill value = a.fill value
  zero : v.fill (.zero v.type) = a.fill (.zero a.type)
  one : v.fill (.one v.type) = a.fill (.one a.type)
  setSlice : ∀ start stop operand, v.setSlice start stop operand = a.setSlice start stop operand
  updateDevice : v.updateDevice = a.updateDevice
  updateHost : v.updateHost = a.updateHost
  fillFrom : ∀ g : Grid, g.extents = v.shape.extents → ∃ h : Grid, h.extents = a.shape.extents ∧
    h.type = g.type ∧ h.toBytes a.layout = g.toBytes a.layout ∧ v.fillFrom g = a.fillFrom h

theorem sameEffects_through (same : shape.size = a.size) : a.SameEffects (a.through shape) where
  fill := fill_through same
  zero := fill_through same _
  one := fill_through same _
  setSlice := setSlice_through same
  updateDevice := rfl
  updateHost := rfl
  fillFrom g fits := by
    have volumes : volume g.extents = volume a.shape.extents := (congrArg volume fits).trans same
    have stored := g.toBytes_recast a.layout volumes
    exact ⟨g.recast a.layout a.shape.extents volumes, rfl, rfl, stored,
      fillFrom_through fits rfl rfl stored⟩

/-! ### Families -/

/-- An owner with the views that are made from it, from these views, and so on. -/
inductive Family (a : DeviceArray) : DeviceArray → Prop
  | root : Family a a
  | reshape {v w : DeviceArray} {extents : List Nat} (member : Family a v)
      (made : v.reshape extents = .ok w) : Family a w
  | ravel {v w : DeviceArray} (member : Family a v) (made : v.ravel = .ok w) : Family a w

/-- A member is the root itself, or the root seen with a shape of the same size. -/
theorem Family.eq_through (member : a.Family v) :
    v = a ∨ ∃ shape : Shape, shape.size = a.size ∧ v = a.through shape := by
  have next {v w : DeviceArray} {extents : List Nat} (made : v.reshape extents = .ok w)
      (before : v = a ∨ ∃ shape : Shape, shape.size = a.size ∧ v = a.through shape) :
      ∃ shape : Shape, shape.size = a.size ∧ w = a.through shape := by
    obtain ⟨shape, -, same, rfl⟩ := reshape_eq_ok_iff.mp made
    obtain rfl | ⟨old, was, rfl⟩ := before
    · exact ⟨shape, same, rfl⟩
    · exact ⟨shape, same.trans was, rfl⟩
  induction member with
  | root => exact .inl rfl
  | reshape member made ih => exact .inr (next made ih)
  | ravel member made ih => exact .inr (next made ih)

theorem Family.size (member : a.Family v) : v.size = a.size := by
  obtain rfl | ⟨shape, same, rfl⟩ := member.eq_through
  · rfl
  · exact same

theorem Family.storage (member : a.Family v) : v.storage = a.storage := by
  obtain rfl | ⟨shape, -, rfl⟩ := member.eq_through <;> rfl

theorem Family.stream (member : a.Family v) : v.stream = a.stream := by
  obtain rfl | ⟨shape, -, rfl⟩ := member.eq_through <;> rfl

theorem Family.sameEffects (member : a.Family v) : a.SameEffects v := by
  obtain rfl | ⟨shape, same, rfl⟩ := member.eq_through
  · exact ⟨fun _ => rfl, rfl, rfl, fun _ _ _ => rfl, rfl, rfl,
      fun g fits => ⟨g, fits, rfl, rfl, rfl⟩⟩
  · exact sameEffects_through same

theorem Family.byteSize (member : a.Family v) : v.byteSize = a.byteSize := by
  rw [DeviceArray.byteSize, DeviceArray.byteSize, type, type, member.size, member.storage]

theorem base?_through (owner : a.ownership = .owner) (shape : Shape) :
    (a.through shape).base? = some a := by
  obtain ⟨storage, old, stream, ownership⟩ := a
  cases owner
  rfl

/-- A chain of reshapes leads where its last one leads at once. -/
theorem Family.reshape_iff (member : a.Family v) :
    v.reshape extents = .ok w ↔ a.reshape extents = .ok w := by
  rw [reshape_eq_ok_iff, reshape_eq_ok_iff, member.size]
  obtain rfl | ⟨shape, -, rfl⟩ := member.eq_through <;> rfl

end DeviceArray

open DeviceArray

/-- The family of one owner is flat. Whichever member is reshaped, this succeeds exactly if the new
extents are positive and hold as many elements, fails with a shape mismatch otherwise, and gives
what reshaping the owner gives. Every member has the storage, the stream and the size of the owner,
calls through it that change the elements do what they do through the owner, and every member but
the owner is a view with the owner as its base. It cannot be released, and its end queues
nothing. -/
theorem views_share_their_owner {a v : DeviceArray} (owner : a.ownership = .owner)
    (member : a.Family v) :
    (∀ extents, ((∃ w, v.reshape extents = .ok w) ↔
        (∀ d ∈ extents, 0 < d) ∧ volume extents = a.size) ∧
      (∀ e, v.reshape extents = .error e → ∃ cause, e = .shapeMismatch cause) ∧
      ∀ w, (v.reshape extents = .ok w ↔ a.reshape extents = .ok w) ∧
        (v.reshape extents = .ok w → w.shape.extents = extents ∧ w.base? = some a)) ∧
    (∃ w, v.ravel = .ok w ∧ w.shape.extents = [a.size]) ∧
    v.storage = a.storage ∧ v.stream = a.stream ∧ v.size = a.size ∧ v.byteSize = a.byteSize ∧
    a.SameEffects v ∧
    (v = a ∨ v.base? = some a ∧ v.release = throw (.invalidArgument .releaseOfView) ∧
      v.drop = pure ()) := by
  have asked {w : DeviceArray} {extents : List Nat} (made : v.reshape extents = .ok w) :
      w.shape.extents = extents ∧ w.base? = some a := by
    obtain ⟨shape, given, -, rfl⟩ := reshape_eq_ok_iff.mp (member.reshape_iff.mp made)
    exact ⟨given, base?_through owner shape⟩
  refine ⟨fun extents => ⟨?accepted, fun e => shapeMismatch_of_reshape, fun w =>
    ⟨member.reshape_iff, asked⟩⟩, ?flat, member.storage, member.stream, member.size,
    member.byteSize, member.sameEffects, ?views⟩
  case accepted => rw [exists_reshape_iff, member.size]
  case flat =>
    have positive : ∀ d ∈ [v.size], 0 < d := fun d alone =>
      List.mem_singleton.mp alone ▸ v.shape.size_pos
    obtain ⟨w, made⟩ := exists_reshape_iff.mpr ⟨positive, Nat.mul_one v.size⟩
    exact ⟨w, made, member.size ▸ (asked made).1⟩
  case views =>
    obtain rfl | ⟨shape, -, rfl⟩ := member.eq_through
    · exact .inl rfl
    · exact .inr ⟨base?_through owner shape, rfl, rfl⟩

/-- Six elements are laid out flat and then as three rows of two. Reshaping this view to extents
whose product leaves the word is a shape mismatch. -/
theorem views_share_their_owner_six :
    let device : Device := ⟨0, ⟨0⟩, .standard⟩
    let a : DeviceArray := ⟨⟨device, ⟨1⟩, ⟨0, 6⟩, .unsigned .w8, .columnMajor⟩,
      ⟨[2, 3], by decide, by decide⟩, ⟨0, device, ⟨false, none⟩⟩, .owner⟩
    ∃ flat rows cause, a.ownership = .owner ∧ a.ravel = .ok flat ∧ flat.reshape [3, 2] = .ok rows ∧
      rows.base? = some a ∧ rows.release = throw (.invalidArgument .releaseOfView) ∧
      rows.fill ⟨.unsigned .w8, 7#8⟩ = a.fill ⟨.unsigned .w8, 7#8⟩ ∧
      rows.reshape [2 ^ 63, 4] = .error (.shapeMismatch cause) := by
  intro device a
  obtain ⟨flat, level⟩ : ∃ w, a.ravel = .ok w := ⟨_, rfl⟩
  have member : a.Family flat := .ravel .root level
  obtain ⟨rows, made⟩ : ∃ w, flat.reshape [3, 2] = .ok w :=
    ((views_share_their_owner rfl member).1 [3, 2]).1.mpr (by
      cases level
      decide)
  obtain ⟨reshapes, -, -, -, size, -, effects, ends⟩ :=
    views_share_their_owner rfl (member.reshape made)
  obtain same | ⟨base, kept, -⟩ := ends
  · obtain ⟨-, based⟩ := ((views_share_their_owner rfl member).1 [3, 2]).2.2 rows
    cases same ▸ (based made).2
  · obtain ⟨accepted, refused, -⟩ := reshapes [2 ^ 63, 4]
    cases wide : rows.reshape [2 ^ 63, 4] with
    | ok w =>
      have fits := accepted.mp ⟨w, wide⟩
      exact absurd fits.2 (by decide)
    | error e =>
      obtain ⟨cause, rfl⟩ := refused e wide
      exact ⟨flat, rows, cause, rfl, level, made, base, kept, effects.fill _, wide⟩

end DeviceArrays

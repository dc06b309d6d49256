import DeviceArrays.DeviceArray.Basic

/-!
# Views

A view gives the elements of an array another shape of the same size. Its root is always an owner,
also where it was made from a view.
-/
namespace DeviceArrays.DeviceArray

/-- A view with new extents, whose product has to be the array's size. -/
def reshape (a : DeviceArray) (extents : List Nat) : Except Error DeviceArray :=
  match Shape.ofExtents extents with
  | .error problem => .error (.shapeMismatch (.reshapeInvalid problem))
  | .ok shape =>
    if shape.size = a.size then .ok { a with shape, ownership := .view a.root }
    else .error (.shapeMismatch (.reshapeSize a.shape shape))

/-- A view of all elements along one axis. -/
def ravel (a : DeviceArray) : Except Error DeviceArray := a.reshape [a.size]

@[simp] theorem storage_reshape {a b : DeviceArray} {extents : List Nat}
    (h : a.reshape extents = .ok b) : b.storage = a.storage := by
  unfold reshape at h
  split at h
  · cases h
  · split at h
    · cases h
      rfl
    · cases h

end DeviceArrays.DeviceArray

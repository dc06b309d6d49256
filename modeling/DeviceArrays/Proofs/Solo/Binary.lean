import DeviceArrays.Proofs.Client.Operators
import DeviceArrays.Proofs.Solo.Arrays
import DeviceArrays.Proofs.Solo.Success

/-!
# Binary operators, element by element

Each of the three ways in which a right operand gets to the device ends with the kernel finding the
operand's element at a multi-index in the place where it finds the left operand's. So the result has
at every multi-index what the operation makes of the two, and which way was taken cannot be told.
-/
namespace DeviceArrays

variable {n : Nat} {s : Surroundings} {a : DeviceArray} {L : Ledger} {w : World} {index : List Nat}

/-- The element that an array's buffer holds at a multi-index. -/
def DeviceArray.at? (a : DeviceArray) (m : Memory) (index : List Nat) : Option (Element a.type) :=
  (m.contents? a.buffer).bind fun bytes =>
    (Element.listOfBytes a.type a.size bytes)[offset (a.layout.strides a.shape.extents) index]?

/-- The element that an operand has at a multi-index, with its type. -/
def Operand.at? (operand : Operand) (m : Memory) (index : List Nat) : Option Scalar :=
  match operand with
  | .array b => (b.at? m index).map (Scalar.mk b.type)
  | .grid g => g.values[offset (rowStrides g.extents) index]?.map (Scalar.mk g.type)
  | .scalar value => some value

namespace ElementwiseKernel

theorem getElem?_eq_at {t : ElementType} {values : List (Element t)} {k : Nat}
    (inside : k < values.length) :
    values[k]? = some ((Source.elements values.toArray).at (k * 1)) := by
  simp [Source.at, inside]

theorem getElem?_combined {t : ElementType} (operation : BinaryOperation) {n k : Nat}
    (left right : Source t) (stride : Nat) (inside : k < n) :
    (combined operation n left right stride)[k]? =
      some (operation.apply (left.at (k * 1)) (right.at (k * stride))) := by
  simp [combined, inside]

end ElementwiseKernel

open ElementwiseKernel

namespace DeviceArray

theorem offset_lt_size (a : DeviceArray) (inside : List.Forall₂ (· < ·) index a.shape.extents) :
    offset (a.layout.strides a.shape.extents) index < a.size :=
  a.layout.offset_strides_lt inside

/-- Bytes are read alike as elements of two types that are the same. -/
theorem map_scalar_congr {t u : ElementType} (same : t = u) (n k : Nat) (bytes : Bytes) :
    (Element.listOfBytes t n bytes)[k]?.map (Scalar.mk t) =
      (Element.listOfBytes u n bytes)[k]?.map (Scalar.mk u) := by
  subst same
  rfl

/-- What the kernel was given for an operand has at every place of storage the operand's element. -/
def Finds (a : DeviceArray) (operand : Operand) (m : Memory) (y : KernelOperand)
    (right : ElementwiseKernel.Source a.type) : Prop :=
  ∀ index, List.Forall₂ (· < ·) index a.shape.extents → operand.at? m index =
    some ⟨a.type, right.at (offset (a.layout.strides a.shape.extents) index * y.stride)⟩

/-- The elements in some bytes, as the kernel reads them from a buffer. -/
def read (a : DeviceArray) (bytes : Bytes) : ElementwiseKernel.Source a.type :=
  .elements (Element.listOfBytes a.type a.size bytes).toArray

theorem loadOperand_eq_ok {m : Memory} {b : BufferId} {bytes : Bytes}
    (live : m.contents? b = some bytes) (length : bytes.length = a.byteSize)
    (small : a.byteSize ≤ largestAllocation) :
    loadOperand m a.type a.size (KernelOperand.buffer b).stride (.buffer b) =
      .ok (a.read bytes) := by
  have bound := wordBound_of_largestAllocation small
  exact loadBuffer_eq_ok live length (by omega)

theorem finds_of_bytes {operand : Operand} {m : Memory} {b : BufferId} {bytes : Bytes}
    (found : ∀ index, List.Forall₂ (· < ·) index a.shape.extents → operand.at? m index =
      (Element.listOfBytes a.type a.size bytes)[
        offset (a.layout.strides a.shape.extents) index]?.map (Scalar.mk a.type)) :
    a.Finds operand m (.buffer b) (a.read bytes) := by
  intro index inside
  have reached := a.offset_lt_size inside
  rw [found index inside, getElem?_eq_at (by simpa using reached)]
  rfl

theorem finds_array {b : DeviceArray} {m : Memory} {c : BufferId} {bytes : Bytes}
    (fitting : a.Matches (.array b)) (live : m.contents? b.buffer = some bytes) :
    a.Finds (.array b) m (.buffer c) (a.read bytes) := by
  refine finds_of_bytes fun index _ => ?_
  obtain ⟨type, _, shape, layout⟩ := fitting
  have same : b.type = a.type := type
  have size : b.size = a.size := by rw [DeviceArray.size, shape]; rfl
  rw [← map_scalar_congr same]
  simp only [Operand.at?, DeviceArray.at?, live, Option.bind_some, shape, layout, size]

theorem length_toBytes_of_matches {g : Grid} (fitting : a.Matches (.grid g)) :
    (g.toBytes a.layout).length = a.byteSize := by
  have same : g.type = a.type := fitting.1
  rw [g.length_toBytes, size_of_matches fitting, same]
  rfl

theorem finds_grid {g : Grid} {m : Memory} {b : BufferId} (fitting : a.Matches (.grid g)) :
    a.Finds (.grid g) m (.buffer b) (a.read (g.toBytes a.layout)) := by
  obtain ⟨type, extents⟩ := fitting
  have same : g.type = a.type := type
  refine finds_of_bytes fun index inside => ?_
  have arranged : (a.layout.arrange g.extents g.values).length = a.size := by
    rw [a.layout.length_arrange g.filled, extents]
    rfl
  have all := Element.listOfBytes_listToBytes (a.layout.arrange g.extents g.values) []
  rw [List.append_nil, arranged] at all
  rw [← map_scalar_congr same, Grid.toBytes, all, ← extents,
    a.layout.getElem?_arrange g.filled (extents ▸ inside)]
  rfl

/-- A scalar is found at every place, since the kernel does not move on to another. -/
theorem finds_scalar {value : Scalar} (fitting : a.Matches (.scalar value)) :
    ∃ right, (∀ m, loadOperand m a.type a.size (KernelOperand.scalar value).stride (.scalar value) =
      .ok right) ∧ ∀ m, a.Finds (.scalar value) m (.scalar value) right := by
  obtain ⟨same, _⟩ := fitting
  obtain ⟨type, v⟩ := value
  have type_eq : type = a.type := same
  subst type_eq
  refine ⟨.constant v, fun m => ?_, fun m index _ => rfl⟩
  rw [loadOperand, loadScalar_eq_ok (Scalar.get?_self v)]
  rfl

/-- What a binary operator needs of the device: both operands lie there. -/
structure Usable (a : DeviceArray) (operand : Operand) (m : Memory) : Prop where
  alone : a.Alone
  near : a.stream.device.number = a.device.number
  small : a.byteSize ≤ largestAllocation
  left : ∃ bytes, m.contents? a.buffer = some bytes ∧ bytes.length = a.byteSize
  right : ∀ b, operand = .array b →
    ∃ bytes, m.contents? b.buffer = some bytes ∧ bytes.length = b.byteSize

/-- The owner that an operator on an array makes. -/
def result (a : DeviceArray) (s : Surroundings) : DeviceArray :=
  made s a.shape a.type a.layout a.device a.stream

/-- The elements that a binary operator leaves in storage. -/
def combination (a : DeviceArray) (operation : BinaryOperation) (bytes : Bytes) (y : KernelOperand)
    (right : ElementwiseKernel.Source a.type) : List (Element a.type) :=
  combined operation a.size (a.read bytes) right y.stride

@[simp] theorem length_combination (operation : BinaryOperation) (bytes : Bytes) (y : KernelOperand)
    (right : ElementwiseKernel.Source a.type) :
    (a.combination operation bytes y right).length = a.size := by simp [combination, combined]

/-- Once the right operand can be read, the launch fills the buffer of the result. -/
theorem does_launch_result {u : Surroundings} {operand : Operand} {y : KernelOperand}
    {right : ElementwiseKernel.Source a.type} {bytes : Bytes}
    (usable : a.Usable operand s.memory) (left : s.memory.contents? a.buffer = some bytes)
    (length : bytes.length = a.byteSize) (later : (s.extend a.byteSize).Extends u)
    (loaded : loadOperand u.memory a.type a.size y.stride y = .ok right)
    (operation : BinaryOperation) :
    Call.Does (a.stream.launch (ElementwiseKernel.binary operation).toKernel
      (BinaryLaunch.arguments ⟨a.type, a.size, a.buffer, y, (a.result s).buffer⟩)) n u () (n + 1)
      { u with
        memory := u.memory.put s.memory.next
          (some (Element.listToBytes (a.combination operation bytes y right))) } := by
  have there := later.kept _ _ ((s.extends_extend a.byteSize).kept _ _ left)
  have zeros := later.kept _ _ (s.contents?_next_extend a.byteSize)
  exact does_launch_binary usable.alone.stream there length usable.small loaded zeros
    (Bytes.length_zeros _)

/-- A grid is bound for the launch and dropped again, and the buffer of the result stays. -/
theorem does_launch_grid {g : Grid} {bytes : Bytes} (usable : a.Usable (.grid g) s.memory)
    (fitting : a.Matches (.grid g)) (left : s.memory.contents? a.buffer = some bytes)
    (length : bytes.length = a.byteSize) (operation : BinaryOperation) :
    ∃ y right k t, a.Finds (.grid g) s.memory y right ∧
      Call.Does (withBound a.stream g a.layout fun bound =>
        a.stream.launch (ElementwiseKernel.binary operation).toKernel (BinaryLaunch.arguments
          ⟨a.type, a.size, a.buffer, .buffer bound.buffer, (a.result s).buffer⟩))
        n (s.extend a.byteSize) () k t ∧
        t.memory.contents? s.memory.next =
          some (Element.listToBytes (a.combination operation bytes y right)) ∧
        s.stores.length < t.stores.length := by
  have zeros := s.contents?_next_extend a.byteSize
  have type : g.type = a.type := fitting.1
  have small : a.shape.size * g.type.width < wordBound := by
    rw [type]
    exact wordBound_of_largestAllocation usable.small
  have other : s.memory.next ≠ (s.extend a.byteSize).memory.next :=
    (Memory.issued_of_size? (Memory.size?_of_contents? zeros)).ne_next
  -- The bound grid comes after the result, so dropping it leaves what was written there.
  obtain ⟨z, done, live, kept, contents, stores⟩ := ends_withBound
    (x := ⟨n, none, s.extend a.byteSize⟩)
    (P := fun z => z.failure = none ∧ z.around.memory.contents? s.memory.next =
      some (Element.listToBytes (a.combination operation bytes
        (.buffer (s.extend a.byteSize).memory.next) (a.read (g.toBytes a.layout)))) ∧
      s.stores.length < z.around.stores.length)
    a.layout (fun bound => a.stream.launch (ElementwiseKernel.binary operation).toKernel
      (BinaryLaunch.arguments
        ⟨a.type, a.size, a.buffer, .buffer bound.buffer, (a.result s).buffer⟩))
    fitting.2 usable.alone.stream usable.alone.home small
    (fun y kept later there => by
      obtain ⟨k, _, u⟩ := y
      cases kept
      have loaded := loadOperand_eq_ok there (length_toBytes_of_matches fitting) usable.small
      have more := later.stores
      rw [Surroundings.length_stores_extend] at more
      have launched := does_launch_result (n := k) usable left length later loaded operation
      refine ⟨_, Call.does_iff_ends.mp launched, ?_, rfl, later.contents?_put_next _, more⟩
      rw [Memory.contents?_put _ (by simp [later.kept _ _ zeros]), if_neg other.symm, there]
      rfl)
  rw [kept] at done
  refine ⟨.buffer (s.extend a.byteSize).memory.next, a.read (g.toBytes a.layout), _, _,
    finds_grid fitting, Call.does_iff_ends.mpr done, ?_, stores⟩
  rw [Memory.contents?_put _ live, if_neg other, contents]

/-- The launch of a binary operator, for each kind of right operand. -/
def launchWith (a : DeviceArray) (kernel : Kernel) (result : BufferId) (operand : Operand) :
    Call Unit :=
  let launch (right : KernelOperand) : Call Unit :=
    a.stream.launch kernel (BinaryLaunch.arguments ⟨a.type, a.size, a.buffer, right, result⟩)
  match operand with
  | .array b => launch (.buffer b.buffer)
  | .grid g => withBound a.stream g a.layout fun bound => launch (.buffer bound.buffer)
  | .scalar value => launch (.scalar value)

/-- However the right operand gets to the device, the buffer of the result is filled. -/
theorem does_launchWith {operand : Operand} {bytes : Bytes} (usable : a.Usable operand s.memory)
    (fitting : a.Matches operand) (left : s.memory.contents? a.buffer = some bytes)
    (length : bytes.length = a.byteSize) (operation : BinaryOperation) :
    ∃ y right k t, a.Finds operand s.memory y right ∧
      Call.Does (a.launchWith (ElementwiseKernel.binary operation).toKernel (a.result s).buffer
        operand) n (s.extend a.byteSize) () k t ∧
        t.memory.contents? s.memory.next =
          some (Element.listToBytes (a.combination operation bytes y right)) ∧
        s.stores.length < t.stores.length := by
  have now := Surroundings.Extends.refl (s.extend a.byteSize)
  have more : s.stores.length < (s.extend a.byteSize).stores.length := by simp
  cases operand with
  | array b =>
    obtain ⟨other, there, size⟩ := usable.right b rfl
    have loaded := loadOperand_eq_ok ((s.extends_extend a.byteSize).kept _ _ there)
      (size.trans (byteSize_of_matches fitting)) usable.small
    exact ⟨.buffer b.buffer, a.read other, _, _, finds_array fitting there,
      does_launch_result usable left length now loaded operation, now.contents?_put_next _, more⟩
  | scalar value =>
    obtain ⟨right, loaded, found⟩ := finds_scalar fitting
    exact ⟨_, _, _, _, found _,
      does_launch_result usable left length now (loaded _) operation, now.contents?_put_next _,
      more⟩
  | grid g => exact does_launch_grid usable fitting left length operation

/-- A binary operator makes its result, whose buffer then holds the combined elements. -/
theorem does_binary {operand : Operand} {bytes : Bytes} (usable : a.Usable operand s.memory)
    (accepted : a.checkOperand operand = .ok ()) (operation : BinaryOperation)
    (left : s.memory.contents? a.buffer = some bytes) (length : bytes.length = a.byteSize) :
    ∃ y right k t, a.Finds operand s.memory y right ∧
      Call.Does (a.binary operation operand) n s (a.result s) k t ∧
        t.memory.contents? s.memory.next =
          some (Element.listToBytes (a.combination operation bytes y right)) ∧
        s.stores.length < t.stores.length := by
  have fitting : a.Matches operand := by
    obtain ⟨_, fitting⟩ | ⟨_, refused, _⟩ := a.checkOperand_cases operand
    · exact fitting
    · simp [accepted] at refused
  have bound := wordBound_of_largestAllocation usable.small
  have allocated : Call.Ends (a.allocateLike a.type) ⟨n, none, s⟩ (.ok (a.result s))
      ⟨n, none, s.extend a.byteSize⟩ := ends_allocate usable.near usable.alone.home bound
  obtain ⟨y, right, k, t, found, launched, contents, stores⟩ :=
    does_launchWith (n := n) usable fitting left length operation
  refine ⟨y, right, k, t, found, ?_, contents, stores⟩
  refine Call.does_iff_ends.mpr
    ((Call.ends_check accepted).bind ((ends_kernel usable.alone _).bind ?_))
  exact allocated.bind ((Call.ends_onError (Call.does_iff_ends.mp launched)).bind
    (Call.ends_pure (a.result s)))

end DeviceArray

end DeviceArrays

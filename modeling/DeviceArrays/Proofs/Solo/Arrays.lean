import DeviceArrays.Proofs.Client.Building
import DeviceArrays.Proofs.Grid.Indices
import DeviceArrays.Proofs.Solo.Calls

/-!
# What array calls do to a settled world

New arrays come after all that is there: their buffer and their store are new, and what lies in
older buffers stays. A binary operator leaves its result in the buffer of the array it makes,
whichever way its right operand gets to the device.
-/
namespace DeviceArrays

variable {n : Nat} {s t u : Surroundings} {x : Rest} {a : DeviceArray}

namespace Surroundings

/-- What lies in live buffers is the same later, and no store has gone. -/
structure Extends (s t : Surroundings) : Prop where
  kept : ∀ b bytes, s.memory.contents? b = some bytes → t.memory.contents? b = some bytes
  stores : s.stores.length ≤ t.stores.length

theorem Extends.refl (s : Surroundings) : s.Extends s := ⟨fun _ _ => id, Nat.le_refl _⟩

/-- A buffer that was not live before makes no difference to what lay in live ones. -/
theorem Extends.put {b : BufferId} (h : s.Extends t) (new : s.memory.contents? b = none)
    (live : (t.memory.contents? b).isSome) (bytes : Option Bytes) :
    s.Extends { t with memory := t.memory.put b bytes } where
  kept c old there := by
    have other : c ≠ b := by
      rintro rfl
      rw [new] at there
      cases there
    rw [Memory.contents?_put _ live, if_neg other]
    exact h.kept c old there
  stores := h.stores

/-- Surroundings with one more store and one more buffer, both of zero bytes. -/
def extend (s : Surroundings) (size : Nat) : Surroundings :=
  (s.restore (· ++ [.zeros size])).grow size

theorem contents?_next_extend (s : Surroundings) (size : Nat) :
    (s.extend size).memory.contents? s.memory.next = some (.zeros size) := by
  have grown := Memory.contents?_allocate s.memory size s.memory.next
  rwa [if_pos rfl] at grown

theorem extends_extend (s : Surroundings) (size : Nat) : s.Extends (s.extend size) where
  kept b bytes live := by
    have issued := Memory.issued_of_size? (Memory.size?_of_contents? live)
    exact (Memory.contents?_grow issued size).trans live
  stores := by simp [extend, restore, grow]

@[simp] theorem length_stores_extend (s : Surroundings) (size : Nat) :
    (s.extend size).stores.length = s.stores.length + 1 := by
  simp [extend, restore, grow]

/-- The buffer that was made can be written later. -/
theorem Extends.contents?_put_next {size : Nat} (later : (s.extend size).Extends t)
    (bytes : Bytes) :
    (t.memory.put s.memory.next (some bytes)).contents? s.memory.next = some bytes := by
  have zeros := later.kept _ _ (s.contents?_next_extend size)
  rw [Memory.contents?_put _ (by simp [zeros]), if_pos rfl]

end Surroundings

namespace DeviceArray

/-- The array that an allocation makes. -/
def made (s : Surroundings) (shape : Shape) (type : ElementType) (layout : Layout) (d : Device)
    (stream : Stream) : DeviceArray :=
  ⟨⟨d, s.memory.next, ⟨s.stores.length, shape.size * type.width⟩, type, layout⟩, shape, stream,
    .owner⟩

theorem ends_allocate {shape : Shape} {type : ElementType} {layout : Layout} {d : Device}
    {stream : Stream} (near : stream.device.number = d.number) (home : stream.device.number = 0)
    (fits : shape.size * type.width < wordBound) :
    Call.Ends (allocate shape type layout d stream) x
      (.ok (made x.around shape type layout d stream))
      (x.adjust (·.extend (shape.size * type.width))) := by
  unfold allocate
  refine Call.ends_guard (by simp [Device.same, near]) ?_
  refine Call.ends_guard (by omega) ?_
  refine (HostStore.ends_create _).bind ?_
  exact (Stream.ends_allocate _ home).bind (Call.ends_pure _)

/-- The array is on the only device, and works on the only stream. -/
structure Alone (a : DeviceArray) : Prop where
  device : a.device.number = 0
  library : a.device.library = .standard
  stream : a.stream.number = 0
  home : a.stream.device.number = 0

theorem run_drop (only : a.stream.number = 0) (owner : a.ownership = .owner) :
    a.drop.run x.world = ((), (x.run (.release a.buffer)).world) := by
  have released : Client.run (a.stream.release a.buffer).run x.world =
      (.ok (), (x.run (.release a.buffer)).world) := Stream.ends_release _ only
  unfold drop
  rw [owner]
  refine (Client.run_bind _ _ _).trans ?_
  rw [released]
  rfl

theorem ends_kernel (alone : a.Alone) (k : ElementwiseKernel) :
    Call.Ends (a.kernel k) x (.ok k.toKernel) x := by
  refine Call.ends_check ?_
  rw [alone.library, Library.get_standard]
  rfl

/-- The store and the buffer of an array hold the same bytes. -/
structure Carries (a : DeviceArray) (data : Bytes) (s : Surroundings) : Prop where
  store : s.stores[a.store.number]? = some data
  buffer : s.memory.contents? a.buffer = some data

/-- Bytes that fill the store of an array are written to it and then copied to the buffer. -/
theorem ends_refill {data old bytes : Bytes} (only : a.stream.number = 0)
    (stored : x.around.stores[a.store.number]? = some old) (sized : old.length = data.length)
    (live : x.around.memory.contents? a.buffer = some bytes) (full : bytes.length = data.length) :
    ∃ y, Call.Ends (do a.store.write data; a.updateDevice) x (.ok ()) y ∧
      y.failure = x.failure ∧ a.Carries data y.around ∧
        y.around.memory = x.around.memory.put a.buffer (some data) ∧
          y.around.stores.length = x.around.stores.length := by
  obtain ⟨y, same, stores⟩ : ∃ y : Rest,
      y = x.adjust (·.restore (·.modify a.store.number (·.splice 0 data))) ∧
      y.around.stores[a.store.number]? = some data := by
    refine ⟨_, rfl, ?_⟩
    simp [Rest.adjust, Surroundings.restore, stored, Bytes.splice_all sized.symm]
  have memory : y.around.memory = x.around.memory := by
    rw [same]
    rfl
  have there : y.around.memory.contents? a.buffer = some bytes := memory ▸ live
  have copied : (Command.copyToDevice a.buffer data).perform y.around =
      .ok { y.around with memory := y.around.memory.put a.buffer (some data) } := by
    simp only [Command.perform, Memory.copyIn_eq_ok there (Nat.le_of_eq full.symm),
      Bytes.splice_all full.symm]
  have written : Call.Ends (a.store.write data) x (.ok ()) y := by
    rw [same]
    exact HostStore.ends_write _ _
  have updated : Call.Ends a.updateDevice y (.ok ()) (y.run (.copyToDevice a.buffer data)) :=
    Stream.ends_copyToDevice only stores
  rw [Rest.run_of_perform copied] at updated
  refine ⟨_, written.bind updated, ?_, ⟨stores, ?_⟩, ?_, ?_⟩
  · rw [same]
    rfl
  · rw [Memory.contents?_put _ (by simp [there]), if_pos rfl]
  · rw [memory]
  · simp [same, Rest.adjust, Surroundings.restore]

/-- A grid that is bound lies in a new buffer, in the storage order of its layout. -/
theorem ends_bindWith {stream : Stream} {g : Grid} (layout : Layout) {shape : Shape}
    (extents : g.extents = shape.extents) (only : stream.number = 0)
    (home : stream.device.number = 0) (fits : shape.size * g.type.width < wordBound) :
    ∃ y, Call.Ends (stream.bindWith g layout) x
        (.ok (made x.around shape g.type layout stream.device stream)) y ∧
      y.failure = x.failure ∧ x.around.Extends y.around ∧
        (made x.around shape g.type layout stream.device stream).Carries (g.toBytes layout)
          y.around := by
  have shaped : Shape.ofExtents g.extents = .ok shape := by
    rw [extents, Shape.ofExtents, dif_pos shape.positive, dif_pos shape.bounded]
  have length : (Bytes.zeros (shape.size * g.type.width)).length = (g.toBytes layout).length := by
    rw [Bytes.length_zeros, g.length_toBytes, Grid.size, g.filled, extents]
    rfl
  have extended := x.around.extends_extend (shape.size * g.type.width)
  have zeros := x.around.contents?_next_extend (shape.size * g.type.width)
  have built : Call.Ends (DeviceArray.build ⟨g.extents, g.type, layout, some stream.device,
      some stream⟩) x (.ok (made x.around shape g.type layout stream.device stream))
      (x.adjust (·.extend (shape.size * g.type.width))) := by
    refine (Call.ends_check (a := shape) (by rw [shaped]; rfl)).bind ?_
    exact ends_allocate rfl home fits
  have blank : (x.adjust (·.extend (shape.size * g.type.width))).around.stores[
      (made x.around shape g.type layout stream.device stream).store.number]? =
        some (.zeros (shape.size * g.type.width)) := by
    simp [made, store, Rest.adjust, Surroundings.extend, Surroundings.restore, Surroundings.grow]
  obtain ⟨y, filled, kept, carries, memory, stores⟩ := ends_refill only blank length zeros length
  refine ⟨y, built.bind ((Call.ends_onError filled).bind (Call.ends_pure _)), kept, ?_, carries⟩
  have later : x.around.Extends { y.around with
      memory := (x.around.extend (shape.size * g.type.width)).memory } :=
    ⟨extended.kept, stores ▸ extended.stores⟩
  have put := later.put x.around.memory.contents?_next (by simp [zeros]) (some (g.toBytes layout))
  refine ⟨fun b bytes live => ?_, put.stores⟩
  rw [memory]
  exact put.kept b bytes live

/-- A bound grid is dropped again, after what was done with it and whatever came of that. -/
theorem ends_withBound {α : Type} {P : Rest → Prop} {stream : Stream} {g : Grid}
    (layout : Layout) {shape : Shape} (body : DeviceArray → Call α) {answer : Except Error α}
    (extents : g.extents = shape.extents) (only : stream.number = 0)
    (home : stream.device.number = 0) (fits : shape.size * g.type.width < wordBound)
    (runs : ∀ y : Rest, y.failure = x.failure → x.around.Extends y.around →
      y.around.memory.contents? x.around.memory.next = some (g.toBytes layout) →
      ∃ z, Call.Ends (body (made x.around shape g.type layout stream.device stream)) y answer z ∧
        (z.around.memory.contents? x.around.memory.next).isSome ∧ P z) :
    ∃ z, Call.Ends (withBound stream g layout body) x answer
      ⟨z.submitted + 1, z.failure,
        { z.around with memory := z.around.memory.put x.around.memory.next none }⟩ ∧
        (z.around.memory.contents? x.around.memory.next).isSome ∧ P z := by
  obtain ⟨y, bound, kept, later, carries⟩ := ends_bindWith layout extents only home fits
  obtain ⟨z, done, live, after⟩ := runs y kept later carries.buffer
  obtain ⟨bytes, found⟩ := Option.isSome_iff_exists.mp live
  have dropped : (made x.around shape g.type layout stream.device stream).drop.run z.world =
      ((), (z.run (.release x.around.memory.next)).world) := run_drop only rfl
  have released := Command.perform_release (Memory.size?_of_contents? found)
  rw [Rest.run_of_perform released] at dropped
  refine ⟨z, bound.bind ?_, live, after⟩
  cases answer with
  | ok result =>
    exact (Call.ends_onError done).bind ((Call.ends_lift dropped).bind (Call.ends_pure result))
  | error e => exact (Call.ends_onError_error done dropped).bind_error

/-- The bytes of a buffer are copied to the host store of the same size. -/
theorem does_updateHost {bytes : Bytes} (only : a.stream.number = 0)
    (live : s.memory.contents? a.buffer = some bytes) (size : bytes.length = a.store.size)
    (inside : a.store.number < s.stores.length) :
    ∃ k t, Call.Does a.updateHost n s () k t ∧ t.stores[a.store.number]? = some bytes := by
  have whole : bytes.take a.store.size = bytes := List.take_of_length_le (Nat.le_of_eq size)
  have copied : (Command.copyToHost a.buffer a.store).perform s =
      .ok (s.restore (·.set a.store.number bytes)) := by
    simp only [Command.perform, Memory.copyOut_eq_ok live (Nat.le_of_eq size.symm), whole,
      Surroundings.restore]
  have queued := Stream.ends_copyToHost (x := ⟨n, none, s⟩) a.buffer a.store only
  rw [Rest.run_of_perform copied] at queued
  refine ⟨_, _, Call.does_iff_ends.mpr (queued.bind (Stream.ends_synchronize only)), ?_⟩
  simp [Surroundings.restore, inside]

/-- What is read from a host store are the elements that were written to it. -/
theorem ends_gridElements {t : ElementType} {values : List (Element t)} (type : a.type = t)
    (found : x.around.stores[a.store.number]? = some (Element.listToBytes values)) :
    Call.Ends (a.gridElements t) x (.ok (a.layout.gather a.shape.extents values)) x := by
  have read : Element.allOfBytes t (Element.listToBytes values) = values := by
    have positive := t.width_pos
    have count : (values.length * t.width + (t.width - 1)) / t.width = values.length := by
      rw [Nat.mul_comm, Nat.mul_add_div positive, Nat.div_eq_of_lt (by omega), Nat.add_zero]
    have all := Element.listOfBytes_listToBytes values []
    rw [List.append_nil] at all
    rw [Element.allOfBytes, Element.length_listToBytes, count, all]
  have elements : Call.Ends (a.elements t) x (.ok values) x := by
    unfold elements
    refine Call.ends_guard (by simp [type]) ?_
    refine (HostStore.ends_bytes found).bind ?_
    rw [read]
    exact Call.ends_pure _
  exact elements.bind (Call.ends_pure _)

/-- A binary kernel writes the combined elements to the buffer of its result. -/
theorem does_launch_binary {operation : BinaryOperation} {y : KernelOperand} {result : BufferId}
    {bytes old : Bytes} {right : ElementwiseKernel.Source a.type} (only : a.stream.number = 0)
    (left : s.memory.contents? a.buffer = some bytes) (length : bytes.length = a.byteSize)
    (small : a.byteSize ≤ largestAllocation)
    (loaded : ElementwiseKernel.loadOperand s.memory a.type a.size y.stride y = .ok right)
    (live : s.memory.contents? result = some old) (same : old.length = a.byteSize) :
    Call.Does (a.stream.launch (ElementwiseKernel.binary operation).toKernel
      (BinaryLaunch.arguments ⟨a.type, a.size, a.buffer, y, result⟩)) n s () (n + 1)
      { s with memory := s.memory.put result (some (Element.listToBytes
        (ElementwiseKernel.combined operation a.size
          (.elements (Element.listOfBytes a.type a.size bytes).toArray) right y.stride))) } := by
  have written : BinaryLaunch.arguments ⟨a.type, a.size, a.buffer, y, result⟩ =
      Contract.write (ElementwiseKernel.binary operation).parameters
        (a.type, a.size, a.buffer, (1 : Nat), y, y.stride, result, (1 : Nat), ()) := by
    cases y <;> rfl
  refine Stream.does_launch only ?_
  rw [written]
  refine (ElementwiseKernel.run_write (.binary operation) s.memory _).trans ?_
  exact ElementwiseKernel.runBinary_eq_ok left length loaded live same small

end DeviceArray

end DeviceArrays

import DeviceArrays.Proofs.Solo.Binary
import DeviceArrays.Proofs.Solo.Endings

/-!
# Results of binary operators

On one stream a binary operator returns a new owner whatever the worker has got to. What is read
from it has at every multi-index what the operation makes of the two elements there, as they are
once the worker has done what was submitted before the call.
-/
namespace DeviceArrays

variable {α : Type} {n : Nat} {s : Surroundings} {a b : DeviceArray} {L : Ledger} {w : World}
  {operation : BinaryOperation} {operand other : Operand} {m : Memory}

/-- In whatever turns client and worker move, the call can go on to its end: it is this result. -/
def Call.Returns (c : Call α) (w : World) (a : α) : Prop :=
  ∀ t, Reaches ⟨[c.run], w⟩ t →
    (∃ u, Reaches t ⟨[.done (.ok a)], u⟩) ∧ ∀ result, t.clients = [.done result] → result = .ok a

/-- A careful call returns what it returns where the worker rests after every action. -/
theorem Tied.returns {r : Regime} {c : Call α} {a : α} {k : Nat} {t : Surroundings}
    {Q : α → Ledger → Prop} {E : Error → Ledger → Prop} (tied : Tied r L w)
    (careful : Call.Follows r c L Q E) (settled : w.settle = .solo (.calm n) s)
    (done : c.Does n s a k t) : c.Returns w a := by
  intro u h
  have settles := tied.settles (x := ⟨n, none, s⟩) careful settled (Call.does_iff_ends.mp done)
  exact ⟨(settles u h).1, fun result ended => ((settles u h).2 result ended).1⟩

/-- Where nothing was too large, everything that was submitted gets done and the memory is then as
the client knows it. -/
theorem Tied.settle_eq_calm (tied : Tied .managed L w) (small : w.Allocatable) :
    ∃ n s, w.settle = .solo (.calm n) s ∧ Keeps L s ∧ s.memory.next = (w.memory 0).next ∧
      s.stores.length = w.stores.length := by
  obtain ⟨⟨n, _, s⟩, settled, kept, next, stores, well⟩ := tied.settle_eq_world
  cases well (tied.sound small)
  exact ⟨n, s, settled, kept, next, stores⟩

open ElementwiseKernel

namespace DeviceArray

theorem usable_of_holds (tied : Tied .managed L w) (small : w.Allocatable) (kept : Keeps L s)
    (holds : L.Holds .managed a) (right : L.HoldsOperand .managed operand) :
    a.Usable operand s.memory where
  alone := alone_of_holds tied holds
  near := holds.same
  small := (tied.sound small).2 _ (List.mem_of_getElem? holds.store)
  left := contents_of_holds kept (alone_of_holds tied holds) holds
  right := by
    rintro b rfl
    exact contents_of_holds kept (alone_of_holds tied right) right

/-- The operation was applied to the elements of an array and an operand at every multi-index. -/
structure Combines (a : DeviceArray) (operation : BinaryOperation) (operand : Operand) (m : Memory)
    (values : List (Element a.type)) : Prop where
  length : values.length = volume a.shape.extents
  elements : ∀ index, List.Forall₂ (· < ·) index a.shape.extents →
    ∃ u v, a.at? m index = some u ∧ operand.at? m index = some ⟨a.type, v⟩ ∧
      values[offset (rowStrides a.shape.extents) index]? = some (operation.apply u v)

/-- Operands with the same elements are combined to the same values. -/
theorem Combines.unique {values others : List (Element a.type)}
    (left : a.Combines operation operand m values) (right : a.Combines operation other m others)
    (same : ∀ index, List.Forall₂ (· < ·) index a.shape.extents →
      other.at? m index = operand.at? m index) : values = others := by
  refine List.ext_getElem (left.length.trans right.length.symm) fun k below _ => ?_
  rw [left.length] at below
  obtain ⟨index, inside, rfl⟩ := exists_index_of_lt below
  obtain ⟨u, v, here, there, value⟩ := left.elements index inside
  obtain ⟨x, y, again, beside, found⟩ := right.elements index inside
  rw [here] at again
  rw [same index inside, there] at beside
  cases again
  cases beside
  apply Option.some.inj
  rw [← List.getElem?_eq_getElem, ← List.getElem?_eq_getElem, value, found]

/-- Combines an array with an operand, and reads what has come of it. -/
def binaryElements (a : DeviceArray) (operation : BinaryOperation) (operand : Operand) :
    Call (DeviceArray × List (Element a.type)) := do
  let result ← a.binary operation operand
  result.updateHost
  let values ← result.gridElements a.type
  return (result, values)

theorem follows_binaryElements (holds : L.Holds .managed a)
    (right : L.HoldsOperand .managed operand) (still : L.copying = false) :
    Call.Follows .managed (a.binaryElements operation operand) L (fun _ _ => True)
      fun _ _ => True := by
  refine Call.Follows.bind (follows_binary holds right still (fun b K made => ?_)
    fun _ _ _ => trivial)
  refine Call.Follows.bind (follows_updateHost made.holds (fun M yields _ => ?_)
    fun _ _ _ _ _ => trivial)
  have kept := made.of_yields yields
  exact Call.Follows.bind (follows_gridElements kept.holds yields.copying (fun _ => trivial)
    fun _ _ => trivial)

/-- What the kernel has left in storage are the combined elements. -/
theorem combines_gather {bytes : Bytes} {y : KernelOperand}
    {right : ElementwiseKernel.Source a.type} (left : m.contents? a.buffer = some bytes)
    (found : a.Finds operand m y right) :
    a.Combines operation operand m
      (a.layout.gather a.shape.extents (a.combination operation bytes y right)) := by
  have full : (a.combination operation bytes y right).length = volume a.shape.extents := by
    simp [DeviceArray.size, Shape.size]
  refine ⟨a.layout.length_gather full, fun index inside => ?_⟩
  have reached := a.offset_lt_size inside
  have here : a.at? m index =
      some ((a.read bytes).at (offset (a.layout.strides a.shape.extents) index * 1)) := by
    simp only [at?, left, Option.bind_some]
    exact getElem?_eq_at (by simpa using reached)
  have value := a.layout.getElem?_gather full inside
  rw [combination, getElem?_combined operation _ _ _ reached] at value
  exact ⟨_, _, here, found index inside, value⟩

theorem does_binaryElements (usable : a.Usable operand s.memory)
    (accepted : a.checkOperand operand = .ok ()) (operation : BinaryOperation) :
    ∃ values k t, a.Combines operation operand s.memory values ∧
      Call.Does (a.binaryElements operation operand) n s (a.result s, values) k t := by
  obtain ⟨bytes, left, length⟩ := usable.left
  obtain ⟨y, right, k, t, found, made, contents, stores⟩ :=
    does_binary (n := n) usable accepted operation left length
  have sized : (Element.listToBytes (a.combination operation bytes y right)).length =
      (a.result s).store.size := by
    rw [Element.length_listToBytes, length_combination]
    rfl
  obtain ⟨l, u, copied, stored⟩ := does_updateHost (n := k) (a := a.result s) usable.alone.stream
    contents sized stores
  have read := ends_gridElements (x := ⟨l, none, u⟩) (a := a.result s) (t := a.type) rfl stored
  refine ⟨_, l, u, combines_gather left found, Call.does_iff_ends.mpr ?_⟩
  exact (Call.does_iff_ends.mp made).bind
    ((Call.does_iff_ends.mp copied).bind (read.bind (Call.ends_pure _)))

/-- An owner that is like an array, with a buffer and a store that nothing had in some world. -/
structure NewLike (result a : DeviceArray) (w : World) : Prop where
  owner : result.ownership = .owner
  shape : result.shape = a.shape
  type : result.type = a.type
  layout : result.layout = a.layout
  device : result.device = a.device
  stream : result.stream = a.stream
  buffer : ¬ (w.memory a.device.number).Issued result.buffer
  store : w.stores.length ≤ result.store.number

end DeviceArray

/-- After any program of array calls on one stream, whatever the worker has got to, a binary
operator with an operand that its check accepts returns a new owner like the array it is applied to.
What is then read from it are the results of the operation on the elements that array and operand
have at each multi-index, in the memory in which everything submitted before the call is done. All
operands with those elements give the same result, be they arrays, grids or scalars. -/
theorem binary_operators_combine_elements {p : Program} {id : DeviceId} {options : StreamOptions}
    (within : p.Within .managed) {outcome : Outcome} {w : World}
    (h : Reaches ⟨[p.onOneStream id options], .opened⟩ ⟨[.done outcome], w⟩)
    (small : w.Allocatable) {name : Nat} {a : DeviceArray}
    (found : outcome.workspace.array? name = some a) {source : Source} {operand : Operand}
    (right : outcome.workspace.operand? source = some operand)
    (accepted : a.checkOperand operand = .ok ()) (operation : BinaryOperation) :
    let m := w.settle.memory a.device.number
    ∃ result values, result.NewLike a w ∧
      (a.binaryElements operation operand).Returns w (result, values) ∧
        a.Combines operation operand m values ∧
          ∀ source other, outcome.workspace.operand? source = some other →
            a.checkOperand other = .ok () →
            (∀ index, List.Forall₂ (· < ·) index a.shape.extents →
              other.at? m index = operand.at? m index) →
            (a.binaryElements operation other).Returns w (result, values) := by
  obtain ⟨c, L, rest, careful, tied, _⟩ :=
    reaches_run h rfl (p.careful (r := .managed) nofun within) (tied_opened nofun)
  cases rest
  obtain ⟨covered, _, _⟩ := careful
  have holds := covered.arrays name a found
  have alone := DeviceArray.alone_of_holds tied holds
  obtain ⟨n, s, settled, kept, next, stores⟩ := tied.settle_eq_calm small
  have memory : w.settle.memory a.device.number = s.memory := by
    rw [settled, alone.device]
    rfl
  -- The same for each operand: the call ends with the owner that the settled world makes.
  have returns : ∀ source other, outcome.workspace.operand? source = some other →
      a.checkOperand other = .ok () → ∃ values, a.Combines operation other s.memory values ∧
        (a.binaryElements operation other).Returns w (a.result s, values) := by
    intro source other there passed
    have usable := covered.operand there
    obtain ⟨values, k, t, combined, done⟩ := DeviceArray.does_binaryElements (n := n)
      (DeviceArray.usable_of_holds tied small kept holds usable) passed operation
    exact ⟨values, combined,
      tied.returns (DeviceArray.follows_binaryElements holds usable covered.still) settled done⟩
  obtain ⟨values, combined, returned⟩ := returns source operand right accepted
  dsimp only
  rw [memory]
  refine ⟨a.result s, values, ?_, returned, combined, fun source other there passed same => ?_⟩
  · refine ⟨rfl, rfl, rfl, rfl, rfl, rfl, ?_, Nat.le_of_eq stores.symm⟩
    intro issued
    rw [alone.device] at issued
    exact issued.ne_next next
  · obtain ⟨others, alike, again⟩ := returns source other there passed
    rwa [combined.unique alike same]

/-- A grid is added to an array of another storage order that the worker has not filled yet. -/
theorem binary_operators_combine_elements_grid :
    let p : Program := .call (.empty 0 [2, 3] (.signed .w32) .columnMajor false) fun _ =>
      .call (.one 0) fun _ => .done
    let g : Grid := ⟨.signed .w32, [2, 3], [1, 2, 3, 4, 5, 6], rfl⟩
    ∃ outcome w a result values,
      Reaches ⟨[p.onOneStream ⟨0⟩ ⟨false, none⟩], .opened⟩ ⟨[.done outcome], w⟩ ∧
        w.busy = [0] ∧ outcome.workspace.array? 0 = some a ∧ a.layout = .columnMajor ∧
        (a.binaryElements .add (.grid g)).Returns w (result, values) ∧
        a.Combines .add (.grid g) (w.settle.memory 0) values := by
  intro p g
  have within : p.Within .managed := ⟨trivial, fun _ => ⟨trivial, fun _ => trivial⟩⟩
  obtain ⟨outcome, w, a, h, busy, stores, found, device, layout, accepted⟩ : ∃ outcome w a,
      Reaches ⟨[p.onOneStream ⟨0⟩ ⟨false, none⟩], .opened⟩ ⟨[.done outcome], w⟩ ∧
        w.busy = [0] ∧ w.stores = [.zeros 24] ∧ outcome.workspace.array? 0 = some a ∧
        a.device.number = 0 ∧ a.layout = .columnMajor ∧ a.checkOperand (.grid g) = .ok () :=
    ⟨_, _, _, .step (.client 0 rfl rfl) (.step (.client 0 rfl rfl) (.step (.client 0 rfl rfl)
      (.here _))), rfl, rfl, rfl, rfl, rfl, rfl⟩
  have small : w.Allocatable := by
    intro bytes member
    rw [stores] at member
    cases List.mem_singleton.mp member
    decide
  have right : outcome.workspace.operand? (.grid g) = some (.grid g) := rfl
  obtain ⟨result, values, _, returned, combined, _⟩ :=
    binary_operators_combine_elements within h small found right accepted .add
  rw [device] at combined
  exact ⟨outcome, w, a, result, values, h, busy, found, layout, returned, combined⟩

end DeviceArrays

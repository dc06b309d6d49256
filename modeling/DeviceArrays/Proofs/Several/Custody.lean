import DeviceArrays.Proofs.Client.Ledger
import DeviceArrays.Proofs.Effect
import DeviceArrays.Proofs.Queue.Outstanding

/-!
# Who has to release what

Every live buffer is in exactly one place: a client holds it, or one release of it is outstanding on
a stream of its device. An allocation puts a buffer into the first place, submitting a release moves
it to the second, and the worker that does the release takes it from there.
-/
namespace DeviceArrays

variable {w after : World} {stream : Nat} {state next : StreamState} {s : Surroundings}

/-- The buffers whose release a stream has not done yet. -/
def StreamState.releasing (state : StreamState) : List Holding :=
  (state.queue.outstanding.filterMap Command.released?).map (⟨state.device, ·⟩)

theorem StreamState.releasing_push (state : StreamState) (c : Command) :
    StreamState.releasing { state with queue := state.queue.push c } =
      state.releasing ++ c.released?.toList.map (⟨state.device, ·⟩) := by
  cases released : c.released? <;>
    simp [StreamState.releasing, Queue.outstanding_push, released]

namespace World

/-- The buffers whose release is outstanding on some stream. -/
def releasing (w : World) : List Holding := w.streams.flatMap StreamState.releasing

/-- The size of a live buffer. -/
def size? (w : World) (x : Holding) : Option Nat := (w.memory x.device).size? x.buffer

theorem size?_congr (same : ∀ device, (after.memory device).sizes = (w.memory device).sizes)
    (x : Holding) : after.size? x = w.size? x :=
  Memory.size?_congr (same x.device) x.buffer

/-- Every live buffer is held or has one outstanding release, and not both. -/
structure Custody (w : World) (held : List Holding) : Prop where
  distinct : (held ++ w.releasing).Nodup
  live : ∀ x, (w.size? x).isSome ↔ x ∈ held ++ w.releasing

/-! ### One stream among several -/

theorem memory_set {memories : List Memory} {device : Nat} (inside : device < memories.length)
    (m : Memory) {streams : List StreamState} {stores : List Bytes} (other : Nat) :
    (World.mk (memories.set device m) streams stores).memory other =
      if other = device then m else (World.mk memories streams stores).memory other := by
  unfold memory
  by_cases same : other = device
  · subst same
    simp [inside]
  · rw [if_neg same, List.getElem?_set_ne (Ne.symm same)]

/-- A worker's move is a turn of its queue, with the memory of its device. -/
theorem serve_cases (served : w.serve stream = some after) :
    ∃ state queue s, w.streams[stream]? = some state ∧
      Queue.Turn Command.run state.queue (w.surroundings state.device) queue s ∧
        after = w.putStream stream { state with queue } s := by
  unfold serve at served
  obtain ⟨state, found, served⟩ := Option.bind_eq_some_iff.mp served
  obtain ⟨⟨queue, s⟩, moved, put⟩ := Option.bind_eq_some_iff.mp served
  refine ⟨state, queue, s, found, Queue.step_eq_some_iff_turn.mp moved, ?_⟩
  cases put
  rfl

/-- What is outstanding on the other streams stays outstanding. -/
theorem perm_releasing_putStream (found : w.streams[stream]? = some state) (next : StreamState)
    (s : Surroundings) :
    (next.releasing ++ w.releasing).Perm
      (state.releasing ++ (w.putStream stream next s).releasing) :=
  (Ledger.perm_cons_set found next).flatMap_right StreamState.releasing

theorem memory_putStream (inside : next.device < w.memories.length) (device : Nat) :
    (w.putStream stream next s).memory device =
      if device = next.device then s.memory else w.memory device := by
  unfold putStream
  exact memory_set inside s.memory device

theorem sizes_putStream (inside : next.device < w.memories.length)
    (kept : s.memory.sizes = (w.memory next.device).sizes) (device : Nat) :
    ((w.putStream stream next s).memory device).sizes = (w.memory device).sizes := by
  rw [memory_putStream inside]
  split
  case isTrue same => rw [same, kept]
  case isFalse => rfl

theorem issued_putStream_put {b c : BufferId} {bytes : Option Bytes} {stores : List Bytes}
    (inside : next.device < w.memories.length) (device : Nat) :
    ((w.putStream stream next
      ⟨(w.memory next.device).put b bytes, stores⟩).memory device).Issued c ↔
        (w.memory device).Issued c := by
  rw [memory_putStream inside]
  split
  case isTrue same => rw [same, Memory.issued_put]
  case isFalse => rfl

theorem size?_putStream_put {b : BufferId} {bytes : Option Bytes} {stores : List Bytes}
    (inside : next.device < w.memories.length) (live : (w.size? ⟨next.device, b⟩).isSome)
    (x : Holding) :
    (w.putStream stream next ⟨(w.memory next.device).put b bytes, stores⟩).size? x =
      if x = ⟨next.device, b⟩ then bytes.map List.length else w.size? x := by
  obtain ⟨n, there⟩ := Option.isSome_iff_exists.mp live
  obtain ⟨device, c⟩ := x
  unfold size?
  rw [memory_putStream inside]
  by_cases near : device = next.device
  · rw [if_pos near, Memory.size?_put there]
    simp [near]
  · simp [near]

theorem modify_eq_set {β : Type} {l : List β} {i : Nat} {x : β} (found : l[i]? = some x)
    (f : β → β) : l.modify i f = l.set i (f x) := by
  obtain ⟨inside, there⟩ := List.getElem?_eq_some_iff.mp found
  apply List.ext_getElem?
  intro j
  rw [List.getElem?_modify, List.getElem?_set]
  by_cases same : i = j
  · subst same
    simp [inside, there]
  · simp [same]

/-- A change of one queue is a stream's worker changing nothing else. -/
theorem onQueue_eq_putStream (found : w.streams[stream]? = some state)
    (inside : state.device < w.memories.length)
    (f : Queue Command Error → Queue Command Error) :
    Action.onQueue w stream f =
      w.putStream stream { state with queue := f state.queue } (w.surroundings state.device) := by
  have memories : w.memories.set state.device (w.memory state.device) = w.memories := by
    simp [memory, inside]
  simp only [Action.onQueue, putStream, surroundings, memories, modify_eq_set found]

/-! ### What happens to a buffer -/

namespace Custody

variable {held kept : List Holding}

theorem of_perm (custody : w.Custody held)
    (perm : (kept ++ after.releasing).Perm (held ++ w.releasing))
    (same : ∀ device, (after.memory device).sizes = (w.memory device).sizes) :
    after.Custody kept where
  distinct := perm.nodup_iff.mpr custody.distinct
  live x := by rw [size?_congr same, perm.mem_iff, custody.live]

/-- A buffer that is held is not being released, and the other way round. -/
theorem not_releasing (custody : w.Custody held) {x : Holding} (mine : x ∈ held) :
    x ∉ w.releasing := fun given =>
  (List.nodup_append.mp custody.distinct).2.2 x mine x given rfl

/-- A buffer that is still to be released is live. -/
theorem size?_of_releasing (custody : w.Custody held) {x : Holding} (waits : x ∈ w.releasing) :
    ∃ n, w.size? x = some n :=
  Option.isSome_iff_exists.mp ((custody.live x).mpr (List.mem_append_right held waits))

/-- The release of a buffer ends its being outstanding. -/
theorem of_freed {x : Holding} (custody : w.Custody held)
    (perm : w.releasing.Perm (x :: after.releasing))
    (freed : ∀ y, after.size? y = if y = x then none else w.size? y) : after.Custody held := by
  have whole : (held ++ w.releasing).Perm (x :: (held ++ after.releasing)) :=
    ((List.perm_append_left_iff held).mpr perm).trans List.perm_middle
  obtain ⟨gone, distinct⟩ := List.nodup_cons.mp (whole.nodup_iff.mp custody.distinct)
  refine ⟨distinct, fun y => ?_⟩
  rw [freed y]
  by_cases same : y = x
  · subst same
    simpa using gone
  · rw [if_neg same, custody.live, whole.mem_iff, List.mem_cons]
    simp [same]

/-- A new buffer is held by whom it was allocated for. -/
theorem of_allocated {x : Holding} {size : Nat} (custody : w.Custody held)
    (fresh : w.size? x = none) (same : after.releasing = w.releasing)
    (grown : ∀ y, after.size? y = if y = x then some size else w.size? y) :
    after.Custody (x :: held) := by
  have unknown : x ∉ held ++ w.releasing := by
    rw [← custody.live, fresh]
    simp
  constructor
  case distinct =>
    rw [same]
    exact List.nodup_cons.mpr ⟨unknown, custody.distinct⟩
  case live =>
    intro y
    rw [grown, same, List.cons_append, List.mem_cons, ← custody.live]
    by_cases new : y = x <;> simp [new]

end Custody

end World

end DeviceArrays

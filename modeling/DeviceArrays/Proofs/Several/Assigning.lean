import DeviceArrays.Proofs.Kernel.Elements
import DeviceArrays.Proofs.Several.Ensures
import DeviceArrays.Proofs.Several.Supplies
import DeviceArrays.Proofs.Solo.Slices

/-!
# Slices that are to be assigned

The launch that assigns a slice waits in the queue of the array's stream. Whatever the workers do
before it is done, it will find the array and the source in place. Once it is done, nothing that is
left in the queue has to do with the array, so its elements stay as they are.
-/
namespace DeviceArrays

variable {w after v : World} {j size : Nat} {q : Queue Command Error} {c : Command}
  {data? old? : Option Bytes} {tail post : List Command} {a : DeviceArray} {start stop : Nat}
  {source : BufferId} {action : Action}

/-- The kernel for slices succeeds where both buffers reach far enough, and assigns the slice. -/
theorem ElementwiseKernel.run_setSlice_eq_ok {m : Memory} {t : ElementType} {lower upper n : Nat}
    {x y : BufferId} (ordered : lower ≤ upper) (target : m.size? x = some n)
    (inside : upper * t.width ≤ n) (bounded : n < wordBound)
    (source : m.size? y = some ((upper - lower) * t.width)) :
    ∃ after, setSlice.run m [.ofType t, .count lower, .count upper, .buffer x, .buffer y] =
      .ok after ∧ ∀ i, after.element? t x i =
        if lower ≤ i ∧ i < upper then m.element? t y (i - lower) else m.element? t x i := by
  obtain ⟨old, live, rfl⟩ := Memory.contents?_of_size? target
  obtain ⟨data, given, length⟩ := Memory.contents?_of_size? source
  have less : (upper - lower) * t.width ≤ upper * t.width :=
    Nat.mul_le_mul_right _ (Nat.sub_le upper lower)
  have enough : (upper - lower) * t.width ≤ data.length := Nat.le_of_eq length.symm
  have read := Memory.readElements_eq_ok given enough (by omega)
  have count := Element.length_listOfBytes t (upper - lower) data
  have whole : lower + (Element.listOfBytes t (upper - lower) data).length = upper := by omega
  have written := Memory.writeElements_eq_ok live (whole.symm ▸ inside) bounded
  have ran : setSlice.execute m (t, lower, upper, x, y, ()) =
      m.writeElements x lower (Element.listOfBytes t (upper - lower) data) := by
    simp only [execute, runSetSlice, if_neg (Nat.not_lt.mpr ordered), read, bind, Except.bind]
  refine ⟨_, (run_write .setSlice m (t, lower, upper, x, y, ())).trans (ran.trans written),
    fun i => ?_⟩
  rw [Memory.element?, Memory.contents?_put m (by simp [live]), if_pos rfl, Option.bind_some]
  split
  case isTrue within =>
    obtain ⟨k, rfl⟩ := Nat.exists_eq_add_of_le within.1
    rw [Element.at?_splice (whole.symm ▸ inside) (by omega), Nat.add_sub_cancel_left,
      Memory.element?, given, Option.bind_some, Element.at?_eq_getElem? enough (by omega)]
  case isFalse apart =>
    rw [Element.at?_splice_of_apart (by omega), Memory.element?, live, Option.bind_some]

/-- A worker that is about to do a command has nothing to report. -/
theorem Queue.reported_of_running {κ ε σ : Type} {run : κ → σ → σ × Option ε} {q : Queue κ ε}
    {s : σ} (busy : q.running run s ≠ []) : q.reported = q.failure := by
  unfold running at busy
  unfold reported
  split at busy
  case h_1 sequence command holding => rw [holding]
  case h_2 => exact absurd rfl busy

namespace DeviceArray

/-- The command that assigns what lies in a buffer to a slice. -/
def sliceLaunch (a : DeviceArray) (start stop : Nat) (source : BufferId) : Command :=
  .launch ElementwiseKernel.setSlice.toKernel (a.sliceArguments start stop source)

/-- The bytes of the elements of a slice. -/
def sliceBytes (a : DeviceArray) (start stop : Nat) : Nat :=
  (min stop a.size - min start a.size) * a.type.width

/-- There are places in the slice, and the array was small enough to be made. -/
structure HasSlice (a : DeviceArray) (start stop : Nat) : Prop where
  nonempty : min start a.size < min stop a.size
  bounded : a.byteSize < wordBound

theorem mem_buffers_sliceLaunch {y : BufferId} :
    y ∈ (a.sliceLaunch start stop source).buffers ↔ y = a.buffer ∨ y = source := by
  simp [sliceLaunch, sliceArguments, Command.buffers, Argument.buffer?, Argument.ofType, eq_comm]

end DeviceArray

namespace World

/-- The failure that a stream keeps. -/
def failure? (w : World) (i : Nat) : Option Error := w.streams[i]?.bind (·.queue.failure)

/-- An element of an array's buffer, by its place in storage. -/
def element? (w : World) (t : ElementType) (a : DeviceArray) (k : Nat) : Option (Element t) :=
  (w.memory a.device.number).element? t a.buffer k

/-- Only the array's own stream has work for its buffer. The last commands of the stream are `tail`,
and the buffer stands ready for them. -/
structure Awaits (w : World) (a : DeviceArray) (old? : Option Bytes) (tail : List Command) :
    Prop where
  elementwise : w.Elementwise a.device.number
  reserved : w.Reserved a.device.number a.stream.number a.buffer
  queue : ∃ q before, w.Lane a.device.number a.stream.number q ∧ q.outstanding = before ++ tail
  target : w.Supplies a.device.number a.stream.number a.buffer a.byteSize old? tail

/-- What the worker of the array's stream does when it comes to the first command of `tail`. -/
structure Begins (w after : World) (a : DeviceArray) (c : Command) (post : List Command) : Prop
    where
  queue : ∃ q next, w.Lane a.device.number a.stream.number q ∧ q.outstanding = c :: post ∧
    after.Lane a.device.number a.stream.number next ∧ next.outstanding = post ∧
      next.submitted = q.submitted ∧ next.reported = (w.failure? a.stream.number).or
        (c.run (w.surroundings a.device.number)).2
  running : w.running a.stream.number = [(c, (c.run (w.surroundings a.device.number)).2)]
  memory : after.memory a.device.number = (c.run (w.surroundings a.device.number)).1.memory

theorem Awaits.serve (awaits : w.Awaits a old? tail) (served : w.serve j = some after) :
    after.Awaits a old? tail ∨
      ∃ c post, tail = c :: post ∧ j = a.stream.number ∧ w.Begins after a c post := by
  obtain ⟨elementwise, reserved, ⟨q, before, lane, queued⟩, target⟩ := awaits
  have kept := elementwise.serve served
  have mine := reserved.serve served
  obtain ⟨next, lane', submitted, moved⟩ := lane.serve elementwise served
  have still : ∀ rest, next.outstanding = rest ++ tail → after.Awaits a old? tail := by
    intro rest left
    refine ⟨kept, mine, ⟨next, rest, lane', left⟩, ?_⟩
    obtain ready | ⟨c, p, there, rfl⟩ := target.serve elementwise served
    · exact ready
    · cases lane'.eq there
      have length := congrArg List.length left
      simp only [List.length_append, List.length_cons] at length
      omega
  obtain ⟨same, _⟩ | ⟨c, own, first, running, ran, reported⟩ := moved
  · exact .inl (still before (same.trans queued))
  · rw [queued] at first
    cases before with
    | cons head before => exact .inl (still before (List.cons.inj first).2.symm)
    | nil =>
      refine .inr ⟨c, next.outstanding, first, own, ⟨q, next, lane, queued.trans first, lane', rfl,
        submitted, ?_⟩, running, ran⟩
      have busy : q.running Command.run (w.surroundings a.device.number) ≠ [] := by
        have same : w.running a.stream.number = q.running Command.run
            (w.surroundings a.device.number) := by simp only [World.running, lane.found]
        rw [← same, running]
        exact List.cons_ne_nil _ _
      rw [reported, Queue.reported_of_running busy, failure?, lane.found, Option.bind_some]

/-- An array for which there is nothing queued goes on standing ready. -/
theorem Awaits.stay (awaits : w.Awaits a old? []) (served : w.serve j = some after) :
    after.Awaits a old? [] := by
  obtain still | ⟨_, _, none_left, _⟩ := awaits.serve served
  · exact still
  · cases none_left

/-- The array's stream may be given any elementwise command but the release of the array. -/
theorem Awaits.submit (awaits : w.Awaits a old? tail) (elementwise : c.IsElementwise)
    (stays : c.released? ≠ some a.buffer) :
    ((Action.submit a.stream.number c).perform w).2.Awaits a old? (tail ++ [c]) := by
  obtain ⟨q, before, lane, queued⟩ := awaits.queue
  obtain ⟨after, performed, lane', _, _⟩ := lane.submit c
  refine ⟨awaits.elementwise.act fun stream e submits _ _ _ => ?_,
    awaits.reserved.act fun stream e submits _ _ _ other => ?_,
    ⟨q.push c, before, performed ▸ lane', ?_⟩, awaits.target.submit c fun _ => stays⟩
  · cases submits
    exact elementwise
  · cases submits
    exact absurd rfl other
  · rw [Queue.outstanding_push, queued, List.append_assoc]

theorem Awaits.pass (awaits : w.Awaits a old? (c :: tail)) (other : a.buffer ∉ c.buffers) :
    w.Awaits a old? tail := by
  obtain ⟨q, before, lane, queued⟩ := awaits.queue
  refine ⟨awaits.elementwise, awaits.reserved, ⟨q, before ++ [c], lane, ?_⟩,
    awaits.target.pass other⟩
  rw [queued, List.append_assoc, List.singleton_append]

theorem Awaits.idle (awaits : w.Awaits a old? tail) (idle : action.Idle)
    (same : ((action.perform w).2.memory a.device.number).contents? a.buffer =
      (w.memory a.device.number).contents? a.buffer) :
    (action.perform w).2.Awaits a old? tail := by
  obtain ⟨q, before, lane, queued⟩ := awaits.queue
  obtain ⟨p, lane', left⟩ := lane.idle idle
  exact ⟨awaits.elementwise.idle idle, awaits.reserved.idle idle,
    ⟨p, before, lane', left.trans queued⟩, awaits.target.idle idle same⟩

/-- The launch was done in the world `v`, and its array is as that has left it: the slice has the
elements that were in the source, and all others are what they were. -/
structure Assigned (v w : World) (a : DeviceArray) (start stop : Nat) (source : BufferId)
    (data? old? : Option Bytes) : Prop where
  running : v.running a.stream.number = [(a.sliceLaunch start stop source, none)]
  given : ∀ data, data? = some data → (v.memory a.device.number).contents? source = some data
  found : ∀ old, old? = some old → (v.memory a.device.number).contents? a.buffer = some old
  elements : ∀ k, w.element? a.type a k = if min start a.size ≤ k ∧ k < min stop a.size then
      (v.memory a.device.number).element? a.type source (k - min start a.size)
    else v.element? a.type a k
  sized : w.size? a.holding = some a.byteSize
  elementwise : w.Elementwise a.device.number
  settled : ∃ before, w.Ahead a.device.number a.stream.number a.buffer before []

/-- When the worker comes to the launch, it succeeds. -/
theorem Awaits.assigned (awaits : w.Awaits a old? (a.sliceLaunch start stop source :: post))
    (slice : a.HasSlice start stop)
    (supplies : w.Supplies a.device.number a.stream.number source (a.sliceBytes start stop) data?
      (a.sliceLaunch start stop source :: post))
    (later : ∀ c ∈ post, a.buffer ∉ c.buffers)
    (begins : w.Begins after a (a.sliceLaunch start stop source) post)
    (served : w.serve a.stream.number = some after) :
    w.Assigned after a start stop source data? old? ∧ ∃ q next,
      w.Lane a.device.number a.stream.number q ∧ after.Lane a.device.number a.stream.number next ∧
        next.outstanding = post ∧ next.submitted = q.submitted ∧
          next.reported = w.failure? a.stream.number := by
  obtain ⟨⟨q, next, lane, queued, lane', left, submitted, reported⟩, running, memory⟩ := begins
  have other : ∀ y data, a.sliceLaunch start stop source ≠ .copyToDevice y data := nofun
  obtain ⟨sized, found⟩ := awaits.target.holds lane queued
    (DeviceArray.mem_buffers_sliceLaunch.mpr (.inl rfl)) (other _)
  obtain ⟨filled, given⟩ := supplies.holds lane queued
    (DeviceArray.mem_buffers_sliceLaunch.mpr (.inr rfl)) (other _)
  obtain ⟨m, ran, elements⟩ := ElementwiseKernel.run_setSlice_eq_ok (Nat.le_of_lt slice.nonempty)
    sized (Nat.mul_le_mul_right _ (Nat.min_le_right _ _)) slice.bounded filled
  have still : after.size? a.holding = some a.byteSize := by
    have kept : (a.sliceLaunch start stop source).released? ≠ some a.buffer := nofun
    have elementwise : (a.sliceLaunch start stop source).IsElementwise := ⟨_, rfl⟩
    rw [size?, DeviceArray.holding, memory, Command.size?_run elementwise kept]
    exact sized
  have done : (a.sliceLaunch start stop source).perform (w.surroundings a.device.number) =
      .ok { w.surroundings a.device.number with memory := m } := by
    simp only [DeviceArray.sliceLaunch, Command.perform]
    rw [show ElementwiseKernel.setSlice.toKernel.run (w.surroundings a.device.number).memory
      (a.sliceArguments start stop source) = .ok m from ran]
  rw [Command.run_of_perform done] at running memory reported
  refine ⟨⟨running, given, found, fun k => ?_, still, awaits.elementwise.serve served, post,
    ⟨next, lane', by rw [left, List.append_nil]⟩, awaits.reserved.serve served, later⟩,
    q, next, lane, lane', left, submitted, by rw [reported, Option.or_none]⟩
  rw [element?, memory]
  exact elements k

/-- What was assigned stays where the contents of the buffer do. -/
theorem Assigned.mono (assigned : v.Assigned w a start stop source data? old?)
    (same : (after.memory a.device.number).contents? a.buffer =
      (w.memory a.device.number).contents? a.buffer)
    (elementwise : after.Elementwise a.device.number)
    (settled : ∃ before, after.Ahead a.device.number a.stream.number a.buffer before []) :
    v.Assigned after a start stop source data? old? where
  running := assigned.running
  given := assigned.given
  found := assigned.found
  elements k := by
    rw [← assigned.elements k, element?, element?, Memory.element?, Memory.element?, same]
  sized := (size?_of_contents?_eq same).trans assigned.sized
  elementwise := elementwise
  settled := settled

/-- Nothing that is left to do has to do with the array. -/
theorem Assigned.serve (assigned : v.Assigned w a start stop source data? old?)
    (served : w.serve j = some after) : v.Assigned after a start stop source data? old? := by
  obtain ⟨before, ahead⟩ := assigned.settled
  obtain ⟨rest, ahead, same⟩ | ⟨_, _, none_left, _⟩ := ahead.serve assigned.elementwise served
  · exact assigned.mono same (assigned.elementwise.serve served) ⟨rest, ahead⟩
  · cases none_left

theorem Assigned.submit (assigned : v.Assigned w a start stop source data? old?)
    (elementwise : c.IsElementwise) (other : a.buffer ∉ c.buffers) :
    v.Assigned ((Action.submit a.stream.number c).perform w).2 a start stop source data? old? := by
  obtain ⟨before, ahead⟩ := assigned.settled
  refine assigned.mono (contents?_submit c) (assigned.elementwise.act ?_) ⟨before ++ [c], ?_⟩
  · intro stream e submits _ _ _
    cases submits
    exact elementwise
  · have last : ((Action.submit a.stream.number c).perform w).2.Ahead a.device.number
        a.stream.number a.buffer before ([c] ++ []) := ahead.submit c
    exact last.shift fun e member => List.mem_singleton.mp member ▸ other

theorem Assigned.idle (assigned : v.Assigned w a start stop source data? old?)
    (idle : action.Idle)
    (same : ((action.perform w).2.memory a.device.number).contents? a.buffer =
      (w.memory a.device.number).contents? a.buffer) :
    v.Assigned (action.perform w).2 a start stop source data? old? := by
  obtain ⟨before, ahead⟩ := assigned.settled
  exact assigned.mono same (assigned.elementwise.idle idle) ⟨before, ahead.idle idle⟩

end World

end DeviceArrays

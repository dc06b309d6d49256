import DeviceArrays.Proofs.Several.Lanes
import DeviceArrays.Proofs.Solo.Commands

/-!
# What a command will find

A command waits in the queue of its stream, behind others. As long as only this stream has work for
a buffer, what the command will find there is settled by the commands before it: bytes that are in
place and that none of these touches stay, and bytes that the last of them copies there arrive.
-/
namespace DeviceArrays

variable {w after : World} {d i j size : Nat} {y : BufferId} {q : Queue Command Error}
  {c : Command} {data? : Option Bytes} {before tail : List Command} {action : Action}

namespace World

/-- The commands of the stream that come before `tail` leave the buffer alone, and so does every
other stream of the device. -/
structure Ahead (w : World) (d i : Nat) (y : BufferId) (before tail : List Command) : Prop where
  queue : ∃ q, w.Lane d i q ∧ q.outstanding = before ++ tail
  reserved : w.Reserved d i y
  unnamed : ∀ c ∈ before, y ∉ c.buffers

namespace Ahead

/-- A worker's move leaves the buffer as it is, or it does the first command of `tail`. -/
theorem serve (ahead : w.Ahead d i y before tail) (elementwise : w.Elementwise d)
    (served : w.serve j = some after) :
    (∃ rest, after.Ahead d i y rest tail ∧
        (after.memory d).contents? y = (w.memory d).contents? y) ∨
      ∃ c more, tail = c :: more ∧ after.Ahead d i y [] more ∧
        after.memory d = (c.run (w.surroundings d)).1.memory := by
  obtain ⟨⟨q, lane, queued⟩, reserved, unnamed⟩ := ahead
  have kept := reserved.serve served
  obtain ⟨next, lane', _, ⟨same, _, _, still⟩ | ⟨c, _, first, _, ran, _⟩⟩ :=
    lane.serve elementwise served
  · exact .inl ⟨before, ⟨⟨next, lane', same.trans queued⟩, kept, unnamed⟩, still y reserved⟩
  · rw [queued] at first
    cases before with
    | nil => exact .inr ⟨c, _, first, ⟨⟨next, lane', rfl⟩, kept, nofun⟩, ran⟩
    | cons head before =>
      obtain ⟨rfl, rest⟩ := List.cons.inj first
      have waiting : head ∈ q.outstanding := queued ▸ .head _
      refine .inl ⟨before, ⟨⟨next, lane', rest.symm⟩, kept,
        fun c later => unnamed c (.tail _ later)⟩, ?_⟩
      rw [ran, Command.contents?_run (elementwise _ _ lane.found head waiting rfl)
        (unnamed head (.head _))]
      rfl

/-- One more command comes after `tail`. -/
theorem submit (ahead : w.Ahead d i y before tail) (c : Command) :
    ((Action.submit i c).perform w).2.Ahead d i y before (tail ++ [c]) := by
  obtain ⟨⟨q, lane, queued⟩, reserved, unnamed⟩ := ahead
  obtain ⟨after, performed, lane', _, _⟩ := lane.submit c
  refine ⟨⟨q.push c, performed ▸ lane', ?_⟩, reserved.act ?_, unnamed⟩
  · rw [Queue.outstanding_push, queued, List.append_assoc]
  · intro stream c' submits _ _ _ other
    cases submits
    exact absurd rfl other

theorem idle (ahead : w.Ahead d i y before tail) (idle : action.Idle) :
    (action.perform w).2.Ahead d i y before tail := by
  obtain ⟨⟨q, lane, queued⟩, reserved, unnamed⟩ := ahead
  obtain ⟨p, lane', same⟩ := lane.idle idle
  exact ⟨⟨p, lane', same.trans queued⟩, reserved.idle idle, unnamed⟩

/-- Commands that leave the buffer alone may count among those before. -/
theorem shift {more : List Command} (ahead : w.Ahead d i y before (more ++ tail))
    (others : ∀ c ∈ more, y ∉ c.buffers) : w.Ahead d i y (before ++ more) tail := by
  obtain ⟨⟨q, lane, queued⟩, reserved, unnamed⟩ := ahead
  refine ⟨⟨q, lane, queued.trans (List.append_assoc _ _ _).symm⟩, reserved, fun c member => ?_⟩
  exact (List.mem_append.mp member).elim (unnamed c) (others c)

/-- A command that names the buffer and is next is the first one of `tail`. -/
theorem tail_eq {more : List Command} (ahead : w.Ahead d i y before tail) (lane : w.Lane d i q)
    (next : q.outstanding = c :: more) (named : y ∈ c.buffers) : tail = c :: more := by
  obtain ⟨⟨p, lane', queued⟩, _, unnamed⟩ := ahead
  cases lane.eq lane'
  rw [next] at queued
  cases before with
  | nil => exact queued.symm
  | cons head before =>
    cases queued
    exact absurd named (unnamed c (.head _))

end Ahead

/-- A buffer of some size stands ready for the first command of `tail`: either with whatever it
holds then, or with certain bytes, which are there or are still to be copied there. -/
inductive Supplies (w : World) (d i : Nat) (y : BufferId) (size : Nat) :
    Option Bytes → List Command → Prop
  | kept {tail : List Command} (kept : w.Kept d y size) : Supplies w d i y size none tail
  | held {before tail : List Command} {data : Bytes} (ahead : w.Ahead d i y before tail)
      (there : (w.memory d).contents? y = some data) (length : data.length = size) :
      Supplies w d i y size (some data) tail
  | shipping {before between tail : List Command} {data : Bytes}
      (ahead : w.Ahead d i y before (.copyToDevice y data :: (between ++ tail)))
      (others : ∀ c ∈ between, y ∉ c.buffers) (sized : w.size? ⟨d, y⟩ = some size)
      (length : data.length = size) : Supplies w d i y size (some data) tail

end World

/-- A copy that is as long as the buffer replaces its bytes. -/
theorem Command.contents?_copyToDevice {s : Surroundings} {data : Bytes}
    (sized : s.memory.size? y = some data.length) :
    ((copyToDevice y data).run s).1.memory.contents? y = some data := by
  obtain ⟨old, live, length⟩ := Memory.contents?_of_size? sized
  have copied := Memory.copyIn_eq_ok live (Nat.le_of_eq length.symm)
  have whole : old.splice 0 data = data := Bytes.splice_all length.symm
  have done : (copyToDevice y data).perform s =
      .ok { s with memory := s.memory.put y (some data) } := by
    simp only [perform, copied, whole]
  rw [run_of_perform done, Memory.contents?_put _ (by simp [live]), if_pos rfl]

namespace World

theorem size?_of_contents?_eq (same : (after.memory d).contents? y = (w.memory d).contents? y) :
    after.size? ⟨d, y⟩ = w.size? ⟨d, y⟩ := by
  rw [size?, size?, Memory.size?, Memory.size?, same]

theorem contents?_submit (c : Command) :
    (((Action.submit i c).perform w).2.memory d).contents? y = (w.memory d).contents? y := by
  simp only [memory, (Action.perform_submit_cases w i c).1]

namespace Supplies

/-- It stays ready until the first command of `tail` is done. -/
theorem serve (supplies : w.Supplies d i y size data? tail) (elementwise : w.Elementwise d)
    (served : w.serve j = some after) :
    after.Supplies d i y size data? tail ∨
      ∃ c q, after.Lane d i q ∧ tail = c :: q.outstanding := by
  cases supplies with
  | kept kept => exact .inl (.kept (kept.serve elementwise served))
  | held ahead there length =>
    obtain ⟨rest, ahead, same⟩ | ⟨c, more, rfl, ⟨⟨q, lane, rfl⟩, _, _⟩, _⟩ :=
      ahead.serve elementwise served
    · exact .inl (.held ahead (same.trans there) length)
    · exact .inr ⟨c, q, lane, rfl⟩
  | shipping ahead others sized length =>
    obtain ⟨rest, ahead, same⟩ | ⟨c, more, first, ahead, ran⟩ := ahead.serve elementwise served
    · exact .inl (.shipping ahead others ((size?_of_contents?_eq same).trans sized) length)
    · cases first
      refine .inl (.held (ahead.shift others) ?_ length)
      rw [ran]
      exact Command.contents?_copyToDevice (length ▸ sized)

/-- When a command is next that reads the buffer, it finds what it was promised. -/
theorem holds {more : List Command} (supplies : w.Supplies d i y size data? (c :: tail))
    (lane : w.Lane d i q) (next : q.outstanding = c :: more) (named : y ∈ c.buffers)
    (other : ∀ data, c ≠ .copyToDevice y data) :
    w.size? ⟨d, y⟩ = some size ∧
      ∀ data, data? = some data → (w.memory d).contents? y = some data := by
  cases supplies with
  | kept kept => exact ⟨kept.size, nofun⟩
  | held ahead there length =>
    refine ⟨(Memory.size?_of_contents? there).trans (congrArg some length), fun _ same => ?_⟩
    cases same
    exact there
  | shipping ahead others sized length =>
    cases ahead.tail_eq lane next named
    exact absurd rfl (other _)

/-- One more command comes after `tail`. -/
theorem submit (supplies : w.Supplies d i y size data? tail) (c : Command)
    (stays : data? = none → c.released? ≠ some y) :
    ((Action.submit i c).perform w).2.Supplies d i y size data? (tail ++ [c]) := by
  have same := contents?_submit (w := w) (d := d) (i := i) (y := y) c
  cases supplies with
  | kept kept =>
    refine .kept ⟨(size?_of_contents?_eq same).trans kept.size,
      kept.unreleased.act fun stream c' submits _ _ _ => ?_⟩
    cases submits
    exact stays rfl
  | held ahead there length => exact .held (ahead.submit c) (same.trans there) length
  | shipping ahead others sized length =>
    have more := ahead.submit c
    rw [List.cons_append, List.append_assoc] at more
    exact .shipping more others ((size?_of_contents?_eq same).trans sized) length

/-- Other actions may do anything but change the buffer. -/
theorem idle (supplies : w.Supplies d i y size data? tail) (idle : action.Idle)
    (same : ((action.perform w).2.memory d).contents? y = (w.memory d).contents? y) :
    (action.perform w).2.Supplies d i y size data? tail := by
  cases supplies with
  | kept kept => exact .kept ⟨(size?_of_contents?_eq same).trans kept.size,
      kept.unreleased.idle idle⟩
  | held ahead there length => exact .held (ahead.idle idle) (same.trans there) length
  | shipping ahead others sized length =>
    exact .shipping (ahead.idle idle) others ((size?_of_contents?_eq same).trans sized) length

/-- A command that leaves the buffer alone may come before `tail`. -/
theorem pass (supplies : w.Supplies d i y size data? (c :: tail)) (other : y ∉ c.buffers) :
    w.Supplies d i y size data? tail := by
  have apart : ∀ e ∈ [c], y ∉ e.buffers := fun e member => List.mem_singleton.mp member ▸ other
  cases supplies with
  | kept kept => exact .kept kept
  | @held before _ _ ahead there length =>
    have shifted : w.Ahead d i y (before ++ [c]) tail := ahead.shift apart
    exact .held shifted there length
  | @shipping before between _ data ahead others sized length =>
    have later : ∀ e ∈ between ++ [c], y ∉ e.buffers := fun e member =>
      (List.mem_append.mp member).elim (others e) (apart e)
    have moved : w.Ahead d i y before (.copyToDevice y data :: ((between ++ [c]) ++ tail)) := by
      rwa [List.append_assoc]
    exact .shipping moved later sized length

end Supplies

end World

end DeviceArrays

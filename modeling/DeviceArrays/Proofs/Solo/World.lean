import DeviceArrays.Client
import DeviceArrays.Proofs.Queue.Drain

/-!
# One stream on one device

A world with a single device and a single stream is a queue and what its commands act on. It settles
by draining the queue.
-/
namespace DeviceArrays

namespace World

variable {q : Queue Command Error} {s : Surroundings}

/-- One device with one stream. -/
def solo (q : Queue Command Error) (s : Surroundings) : World := ⟨[s.memory], [⟨0, q⟩], s.stores⟩

/-- A stream has been opened on a device, and nothing has been done. -/
def opened : World := solo .empty ⟨.empty, []⟩

theorem serve_zero_solo : (solo q s).serve 0 =
    (q.step Command.run s).map fun (after, t) => solo after t := by
  have served : (solo q s).serve 0 = (q.step Command.run s).bind fun (after, t) =>
      some ((solo q s).putStream 0 ⟨0, after⟩ t) := rfl
  rw [served]
  cases q.step Command.run s <;> rfl

theorem serve_solo_of_turn {after : Queue Command Error} {t : Surroundings}
    (h : Queue.Turn Command.run q s after t) : (solo q s).serve 0 = some (solo after t) := by
  rw [serve_zero_solo, Queue.step_eq_some_iff_turn.mpr h]
  rfl

theorem serve_solo {w : World} {stream : Nat} (h : (solo q s).serve stream = some w) :
    ∃ after t, Queue.Turn Command.run q s after t ∧ w = solo after t := by
  cases stream with
  | zero =>
    rw [serve_zero_solo] at h
    obtain ⟨⟨after, t⟩, moved, same⟩ := Option.map_eq_some_iff.mp h
    exact ⟨after, t, Queue.step_eq_some_iff_turn.mp moved, same.symm⟩
  | succ stream => simp [serve, solo] at h

/-- A single stream settles by draining its queue. -/
theorem settle_solo : (solo q s).settle =
    solo (q.drain Command.run s).1 (q.drain Command.run s).2 := by
  have busy : (solo q s).busy = if q.rests then [] else [0] := by
    cases resting : q.rests <;> simp [World.busy, solo, resting]
  unfold settle
  rw [busy]
  split
  case isTrue resting =>
    rw [Queue.drain_of_rests resting]
    rfl
  case isFalse => rfl

end World

end DeviceArrays

import DeviceArrays.Proofs.Solo.Arrays
import DeviceArrays.Proofs.Solo.Settled

/-!
# How calls end

On one stream the end of a careful call can be told from the settled world it starts in: it is the
end it comes to where the worker rests after every action. There every array that can be worked with
is on the one device, and its buffer holds its elements.
-/
namespace DeviceArrays

variable {α : Type} {s : Surroundings} {a : DeviceArray} {L : Ledger} {w : World}

/-- In whatever turns client and worker move, the call can go on to its end. There it has this
answer, and once every command is done, memory and stores are these. -/
def Call.Settles (c : Call α) (w : World) (answer : Except Error α) (s : Surroundings) : Prop :=
  ∀ t, Reaches ⟨[c.run], w⟩ t →
    (∃ u, Reaches t ⟨[.done answer], u⟩) ∧
      ∀ result, t.clients = [.done result] → result = answer ∧ t.world.settled = s

/-- A careful call ends as it does where the worker rests after every action. -/
theorem Tied.settles {r : Regime} {c : Call α} {answer : Except Error α} {x y : Rest}
    {Q : α → Ledger → Prop} {E : Error → Ledger → Prop} (tied : Tied r L w)
    (careful : Call.Follows r c L Q E) (settled : w.settle = x.world) (ends : c.Ends x answer y) :
    c.Settles w answer y.around := by
  intro u h
  obtain ⟨d, K, rest, followed, ties, same⟩ := reaches_run h rfl careful tied
  rw [settled] at same
  have ended : d.run u.world.settle = (answer, y.world) := same.trans ends
  constructor
  · obtain ⟨w, later, _⟩ := reaches_done followed ties
    rw [ended] at later
    obtain ⟨clients, world⟩ := u
    cases rest
    exact ⟨w, later⟩
  · intro result finished
    cases rest.symm.trans finished
    refine ⟨congrArg Prod.fst ended, ?_⟩
    have world : u.world.settle = y.world := congrArg Prod.snd ended
    rw [World.settled, world]
    rfl

/-- The settled world is a worker at rest, and the memory is as the client knows it. -/
theorem Tied.settle_eq_world (tied : Tied .managed L w) :
    ∃ x : Rest, w.settle = x.world ∧ Keeps L x.around ∧
      x.around.memory.next = (w.memory 0).next ∧ x.around.stores.length = w.stores.length ∧
        (L.Sound .managed → x.failure = none) := by
  obtain ⟨q, s, rfl, tracks⟩ := tied
  have counted : (q.drain Command.run s).2.stores.length = s.stores.length := by
    simpa using congrArg List.length (tracks.drain.stores.trans tracks.stores.symm)
  have rested := tracks.quiet_drain.eq_rested (tracks.numbered.drain s) tracks.opened_drain
  exact ⟨⟨_, _, _⟩, World.settle_solo.trans (congrArg (World.solo · _) rested), tracks.kept rfl,
    tracks.next_drain, counted, tracks.well⟩

namespace DeviceArray

/-- With one device and one stream, every array is on them. -/
theorem alone_of_holds (tied : Tied .managed L w) (holds : L.Holds .managed a) : a.Alone := by
  obtain ⟨q, s, rfl, tracks⟩ := tied
  obtain ⟨first, home⟩ := tracks.alone holds.stream.opened
  exact ⟨holds.same.symm.trans home, holds.device.library, first, home⟩

/-- The buffer of an array that can be worked with holds its elements. -/
theorem contents_of_holds (kept : Keeps L s) (alone : a.Alone) (holds : L.Holds .managed a) :
    ∃ bytes, s.memory.contents? a.buffer = some bytes ∧ bytes.length = a.byteSize := by
  have has := holds.buffer
  rw [alone.device] at has
  obtain ⟨size, _⟩ := kept.size_of_has has
  exact Memory.contents?_of_size? size

end DeviceArray

end DeviceArrays

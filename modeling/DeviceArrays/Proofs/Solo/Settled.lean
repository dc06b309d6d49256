import DeviceArrays.Proofs.Solo.Eager

/-!
# What actions do to a settled world

Whatever the worker of the only stream is at, an action of a careful client comes to a change of the
memory and the stores that are left once every command is done.
-/
namespace DeviceArrays

variable {r : Regime} {L : Ledger} {w : World} {q : Queue Command Error} {s : Surroundings}

/-- What commands act on, once every command of the only stream is done. -/
def World.settled (w : World) : Surroundings := w.settle.surroundings 0

theorem World.settled_solo : (solo q s).settled = (q.drain Command.run s).2 := by
  rw [settled, settle_solo]
  rfl

/-- What an action comes to when every command is done. -/
def Action.effect (s : Surroundings) : Action → Surroundings
  | .createStore size => s.restore (· ++ [.zeros size])
  | .patchStore store offset bytes => s.restore (·.modify store (·.splice offset bytes))
  | .allocate _ size => s.grow size
  | .submit _ c => (c.run s).1
  | _ => s

theorem Tied.settled_act {action : Action} (tied : Tied r L w) (allowed : L.Allows r action) :
    (action.perform w).2.settled = action.effect w.settled := by
  obtain ⟨q, s, rfl, tracks⟩ := tied
  rw [World.settled_solo]
  cases action with
  | openDevice => exact absurd allowed tracks.solo
  | openStream device => exact absurd allowed.1 tracks.solo
  | close stream => exact absurd allowed tracks.solo
  | join stream => exact absurd allowed.1 tracks.solo
  | createStore size =>
    rw [(tracks.leads_createStore allowed size).performed, World.settled_solo,
      tracks.drain_restore allowed]
    rfl
  | patchStore store offset bytes =>
    rw [(tracks.leads_patchStore allowed store offset bytes).performed, World.settled_solo,
      tracks.drain_restore allowed]
    rfl
  | readStore store => exact World.settled_solo
  | liveBuffers device => exact World.settled_solo
  | await stream sequence => exact World.settled_solo
  | allocate device size =>
    obtain ⟨device_lt, stored⟩ := allowed
    obtain rfl : device = 0 := by
      rw [tracks.devices] at device_lt
      omega
    rw [(tracks.leads_allocate stored).performed, World.settled_solo, tracks.drain_grow]
    rfl
  | submit stream c =>
    obtain ⟨device, found, allowed⟩ := allowed
    obtain ⟨rfl, rfl⟩ := tracks.alone found
    rw [(tracks.leads_submit allowed).performed, World.settled_solo, tracks.drain_push]
    rfl
  | takeFailure stream =>
    have settled : L.settled = some stream := allowed
    obtain ⟨rfl, _⟩ := tracks.settled stream settled
    rw [(tracks.leads_takeFailure settled).performed, World.settled_solo,
      (tracks.taken settled).drain_of_settled settled, tracks.drain_of_settled settled]
    rfl

/-- Where no copy to a host store is outstanding, the stores are settled. -/
theorem Tied.settled_stores (tied : Tied r L w) (still : L.copying = false) :
    w.settled.stores = w.stores := by
  obtain ⟨q, s, rfl, tracks⟩ := tied
  rw [World.settled_solo, tracks.stores_drain still]
  rfl

end DeviceArrays

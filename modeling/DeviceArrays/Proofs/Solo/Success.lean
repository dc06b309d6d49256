import DeviceArrays.Proofs.Solo.Eager

/-!
# Array programs do not fail on the device

What arrays check before they submit a command is all that the command needs later, whatever has
been released in the meantime. The only thing that can go wrong is an allocation that is too large
to be made at all.
-/
namespace DeviceArrays

/-- Every host store that was asked for could be allocated. -/
def World.Allocatable (w : World) : Prop := ∀ bytes ∈ w.stores, bytes.length ≤ largestAllocation

/-- Nothing the worker of a stream has done, is doing or is about to do has failed. -/
structure World.Unfailing (w : World) (state : StreamState) : Prop where
  kept : state.queue.failure = none
  finished : ∀ sequence failure, state.queue.worker = .finished sequence failure → failure = none
  holding : ∀ sequence c, state.queue.worker = .holding sequence c →
    ∃ after, c.perform (w.surroundings state.device) = .ok after

theorem Tied.sound {L : Ledger} {w : World} (tied : Tied .managed L w) (small : w.Allocatable) :
    L.Sound .managed := by
  obtain ⟨q, s, rfl, tracks⟩ := tied
  refine ⟨rfl, fun size member => ?_⟩
  rw [← tracks.stores] at member
  obtain ⟨bytes, stored, rfl⟩ := List.mem_map.mp member
  exact small bytes stored

theorem perform_of_run {c : Command} {s : Surroundings} (h : (c.run s).2 = none) :
    ∃ after, c.perform s = .ok after := by
  unfold Command.run at h
  cases performed : c.perform s with
  | ok after => exact ⟨after, rfl⟩
  | error e => simp [performed] at h

theorem Tied.unfailing {L : Ledger} {w : World} (tied : Tied .managed L w) (small : w.Allocatable)
    {state : StreamState} (member : state ∈ w.streams) : w.Unfailing state := by
  have sound := tied.sound small
  obtain ⟨q, s, rfl, tracks⟩ := tied
  cases List.mem_singleton.mp member
  have well := tracks.well sound
  constructor
  case kept => exact Queue.failure_eq_none_of_drain well
  case finished => exact fun sequence failure => Queue.finished_well_of_drain well
  case holding =>
    intro sequence c holding
    exact perform_of_run (Queue.performs_well_of_drain well holding)

/-- In every state that a program of array calls on one stream can reach, whatever the worker has
got to, no command has failed and the one that the worker is about to run will succeed, as long as
everything that was asked for could be allocated. No call waits for ever, and at the end of the
program every error it was told is that of a check, made before anything was submitted; a call that
only waits has had none. -/
theorem array_programs_succeed_on_the_device {p : Program} {id : DeviceId}
    {options : StreamOptions} (within : p.Within .managed) {t : Situation Outcome}
    (h : Reaches ⟨[p.onOneStream id options], .opened⟩ t) (small : t.world.Allocatable) :
    (∀ state ∈ t.world.streams, t.world.Unfailing state) ∧
      (∃ outcome w, Reaches t ⟨[.done outcome], w⟩) ∧
        ∀ outcome, t.clients = [.done outcome] → Admitted outcome.log := by
  obtain ⟨c, K, rest, careful, tied, _⟩ :=
    reaches_run h rfl (p.careful (r := .managed) nofun within) (tied_opened nofun)
  refine ⟨fun state member => tied.unfailing small member, ?_, fun outcome ended => ?_⟩
  · obtain ⟨w, later, _⟩ := reaches_done careful tied
    obtain ⟨clients, world⟩ := t
    cases rest
    exact ⟨_, w, later⟩
  · cases rest.symm.trans ended
    obtain ⟨_, admitted, _⟩ := careful
    exact admitted (tied.sound small)

/-- A fill that the worker has fetched while the program has gone on. -/
theorem array_programs_succeed_on_the_device_zeros :
    let p : Program := .call (.zeros 0 [2] (.signed .w32)) fun _ =>
      .call (.updateHost 0) fun _ => .done
    ∃ t, Reaches ⟨[p.onOneStream ⟨0⟩ ⟨false, none⟩], .opened⟩ t ∧ t.world.stores = [.zeros 8] ∧
      ∀ state ∈ t.world.streams, t.world.Unfailing state := by
  intro p
  have within : p.Within .managed := ⟨trivial, fun _ => ⟨trivial, fun _ => trivial⟩⟩
  have fetched : ∃ t, Reaches ⟨[p.onOneStream ⟨0⟩ ⟨false, none⟩], .opened⟩ t ∧
      t.world.stores = [.zeros 8] :=
    ⟨_, .step (.client 0 rfl rfl) (.step (.client 0 rfl rfl) (.step (.client 0 rfl rfl)
      (.step (.worker 0 rfl) (.here _)))), rfl⟩
  obtain ⟨t, h, stores⟩ := fetched
  have small : t.world.Allocatable := by
    intro bytes member
    rw [stores] at member
    cases List.mem_singleton.mp member
    decide
  exact ⟨t, h, stores, (array_programs_succeed_on_the_device within h small).1⟩

end DeviceArrays

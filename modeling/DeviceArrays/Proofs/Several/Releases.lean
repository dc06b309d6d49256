import DeviceArrays.Proofs.Several.Progress

/-!
# Storage is released exactly once

At the end of a program the buffers that it holds are those of the owners in its scope, so nothing
is lost by a call that ends with an error, and nothing is released twice. A stream that was dropped
has done every release that was submitted to it, because the drop waits for its worker. So nothing
is left on any device once all arrays and then all streams were dropped.
-/
namespace DeviceArrays

/-- In every state that a program of array calls can reach, with any number of devices and streams,
whatever the workers have got to and whatever steady kernels do, each live buffer is either held by
the program or has one release outstanding on a stream of its device, and not both. Every release
that a worker comes to succeeds. At the end of the program, which it can always get to, and so
between any two calls of a longer one, the buffers that are held are those of the owners in scope,
one each; every array has a buffer and a host store of as many bytes as its elements take, and a
view has those of its owner; and the worker of every stream that was dropped has ended, with no
release outstanding. So where no owner is left and every stream was dropped, no device has a live
buffer. -/
theorem storage_is_released_exactly_once {p : Program} (within : p.Within .several)
    {t : Situation Outcome} (h : Reaches ⟨[p.fromNothing], .empty⟩ t) :
    (∃ held, ReachesHolding ⟨[p.fromNothing], .empty⟩ t held ∧ t.world.Custody held ∧
      ∀ outcome, t.clients = [.done outcome] →
        let ws := outcome.workspace
        held.Perm ws.holdings ∧ t.world.Backs ws ∧
          (∀ n state, t.world.streams[n]? = some state →
            (∀ i s, ws.stream? i = some s → s.number ≠ n) →
              state.queue.worker = .stopped ∧ state.releasing = []) ∧
          (ws.holdings = [] → (∀ i, ws.stream? i = none) →
            ∀ m ∈ t.world.memories, m.liveCount = 0)) ∧
      t.world.Releasable ∧
        ∃ outcome w, Reaches t ⟨[.done outcome], w⟩ := by
  obtain ⟨held, holding⟩ := ReachesHolding.here.of_reaches h
  have careful := Program.follows_client (p := p) (r := .several) Workspace.covered_empty within
    (fun _ => admitted_nil) rested_nil
  obtain ⟨c, K, rest, followed, accounts, rfl⟩ :=
    holding.accounts rfl careful rfl accounts_empty
  refine ⟨⟨K.owned, holding, accounts.custody, fun outcome ended => ?_⟩, accounts.releasable, ?_⟩
  · cases rest.symm.trans ended
    obtain ⟨covered, _⟩ := followed
    have perm : K.owned.Perm outcome.workspace.holdings := covered.owned nofun
    refine ⟨perm, accounts.backs covered, fun n state found unnamed => ?_, fun bare closed => ?_⟩
    · have stopped := accounts.stopped_of_unnamed covered found unnamed
      exact ⟨stopped, accounts.releasing_of_stopped (List.mem_of_getElem? found) stopped⟩
    · have released : t.world.releasing = [] := by
        refine List.flatMap_eq_nil_iff.mpr fun state member => ?_
        obtain ⟨n, found⟩ := List.getElem?_of_mem member
        refine accounts.releasing_of_stopped member
          (accounts.stopped_of_unnamed covered found fun i s there => ?_)
        cases (closed i).symm.trans there
      exact fun m member => accounts.liveCount_eq_zero (by simpa [bare] using perm) released member
  · have begun : Situation.Sensible True _ ⟨[p.fromNothing], .empty⟩ :=
      ⟨_, .empty, rfl, Program.orderly_client Workspace.Known.empty, .of_none rfl rfl rfl,
        World.numbered_empty⟩
    obtain ⟨outcome, w, later, _⟩ := (h.sensible begun).reaches_end
    exact ⟨outcome, w, later⟩

/-- An array is dropped while its release is still to be done, and then the stream is. -/
theorem storage_is_released_exactly_once_drop :
    let p : Program := .call (.openDevice ⟨0⟩ .standard) fun _ =>
      .call (.openStream 0 ⟨false, none⟩) fun _ =>
        .call (.build [2] (.signed .w32) .rowMajor (some 0) (some 0)) fun _ =>
          .call (.drop 0) fun _ => .call (.closeStream 0) fun _ => .done
    ∃ s t, Reaches ⟨[p.fromNothing], .empty⟩ s ∧ s.world.releasing = [⟨0, ⟨1⟩⟩] ∧ Reaches s t ∧
      t.world.memories.length = 1 ∧ ∀ m ∈ t.world.memories, m.liveCount = 0 := by
  intro p
  have within : p.Within .several :=
    ⟨⟨rfl, Library.steady_standard⟩,
      fun _ => ⟨rfl, fun _ => ⟨trivial, fun _ => ⟨trivial, fun _ => ⟨rfl, fun _ => trivial⟩⟩⟩⟩⟩
  have dropped : ∃ s t, Reaches ⟨[p.fromNothing], .empty⟩ s ∧ s.world.releasing = [⟨0, ⟨1⟩⟩] ∧
      Reaches s t ∧ t.world.memories.length = 1 ∧ ∃ outcome, t.clients = [.done outcome] ∧
        outcome.workspace.holdings = [] ∧ outcome.workspace.streams = [none] :=
    ⟨_, _, .step (.client 0 rfl rfl) (.step (.client 0 rfl rfl) (.step (.client 0 rfl rfl)
      (.step (.client 0 rfl rfl) (.step (.client 0 rfl rfl) (.here _))))), rfl,
      .step (.client 0 rfl rfl) (.step (.worker 0 rfl) (.step (.worker 0 rfl)
        (.step (.worker 0 rfl) (.step (.worker 0 rfl) (.step (.client 0 rfl rfl) (.here _)))))),
      rfl, _, rfl, rfl, rfl⟩
  obtain ⟨s, t, first, releasing, later, alone, outcome, ended, bare, closed⟩ := dropped
  obtain ⟨⟨held, _, _, final⟩, _⟩ := storage_is_released_exactly_once within (first.trans later)
  obtain ⟨_, _, _, empty⟩ := final outcome ended
  refine ⟨s, t, first, releasing, later, alone, empty bare fun i => ?_⟩
  simp only [Workspace.stream?, closed]
  cases i <;> simp

end DeviceArrays

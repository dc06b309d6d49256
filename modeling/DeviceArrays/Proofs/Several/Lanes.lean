import DeviceArrays.Proofs.Several.Independent

/-!
# One stream of a device

What a command changes is settled by the buffers and stores it names. So the buffers that no other
stream of a device has work for change only as the commands of one stream are done, one after the
other, and what nobody has work for does not change at all.
-/
namespace DeviceArrays

variable {w after : World} {d i j : Nat} {x : BufferId} {action : Action}

/-- Nothing is submitted and no queue is closed. -/
def Action.Idle : Action → Prop
  | .submit .. | .close _ => False
  | _ => True

namespace World

/-- Every outstanding command is as `P` says, which is told the device and the stream. -/
def Queued (w : World) (P : (device stream : Nat) → Command → Prop) : Prop :=
  ∀ (i : Nat) (state : StreamState), w.streams[i]? = some state →
    ∀ c ∈ state.queue.outstanding, P state.device i c

namespace Queued

variable {P R : (device stream : Nat) → Command → Prop}

theorem mono (h : w.Queued P) (weaker : ∀ d i c, P d i c → R d i c) : w.Queued R :=
  fun i state found c waiting => weaker _ _ _ (h i state found c waiting)

theorem serve (h : w.Queued P) (served : w.serve j = some after) : after.Queued P := by
  intro i state there c waiting
  obtain ⟨_, same⟩ | ⟨old, queue, s, _, found, turn, rfl⟩ := stream_serve_cases served there
  · exact h i state same c waiting
  · exact h i old found c (turn.outstanding_sublist.subset waiting)

/-- Only what is submitted has to be looked at. -/
theorem act (h : w.Queued P)
    (submits : ∀ stream c, action = .submit stream c →
      ∀ state, w.streams[stream]? = some state → P state.device stream c) :
    (action.perform w).2.Queued P := by
  intro i state there c waiting
  obtain same | ⟨_, device, _, rfl⟩ | ⟨old, queue, found, touched, rfl⟩ := stream_cases there
  · exact h i state same c waiting
  · cases waiting
  · cases touched with
    | submit opened =>
      rw [Queue.outstanding_push] at waiting
      obtain before | new := List.mem_append.mp waiting
      · exact h i old found c before
      · cases List.mem_singleton.mp new
        exact submits i c rfl old found
    | takeFailure => exact h i old found c waiting
    | close => exact h i old found c waiting

/-- Where nothing is submitted, nothing has to be looked at. -/
theorem idle (h : w.Queued P) (idle : action.Idle) : (action.perform w).2.Queued P :=
  h.act fun stream c same _ _ => by
    subst same
    exact idle.elim

end Queued

/-- Commands of the device launch elementwise kernels only. -/
abbrev Elementwise (w : World) (d : Nat) : Prop := w.Queued fun e _ c => e = d → c.IsElementwise

/-- No other stream of the device has work for the buffer. -/
abbrev Reserved (w : World) (d i : Nat) (x : BufferId) : Prop :=
  w.Queued fun e j c => e = d → j ≠ i → x ∉ c.buffers

/-- Nobody has work for the host store. -/
abbrev Unsent (w : World) (store : Nat) : Prop := w.Queued fun _ _ c => store ∉ c.stores

/-- The buffer has this size, and its release is not outstanding. -/
structure Kept (w : World) (d : Nat) (x : BufferId) (n : Nat) : Prop where
  size : w.size? ⟨d, x⟩ = some n
  unreleased : w.Queued fun e _ c => e = d → c.released? ≠ some x

end World

/-! ### What one command leaves alone -/

namespace Command

variable {c : Command} {s : Surroundings}

theorem mem_buffers_of_released? (h : c.released? = some x) : x ∈ c.buffers := by
  cases eq_release_of_released? h
  exact .head _

/-- An elementwise command leaves the buffers alone that it does not name. -/
theorem contents?_run (elementwise : c.IsElementwise) (apart : x ∉ c.buffers) :
    (c.run s).1.memory.contents? x = s.memory.contents? x := by
  obtain ⟨change, e, within, same⟩ := determined elementwise s
  rw [same s fun _ _ => rfl]
  cases change with
  | keep => rfl
  | send store bytes => rfl
  | put b bytes =>
    rw [Change.apply, Memory.contents?_put _ within.2, if_neg]
    rintro rfl
    exact apart within.1

/-- An elementwise command leaves the sizes of all buffers alone but that of one it releases. -/
theorem size?_run (elementwise : c.IsElementwise) (kept : c.released? ≠ some x) :
    (c.run s).1.memory.size? x = s.memory.size? x := by
  by_cases release : ∃ b, c = .release b
  · obtain ⟨b, rfl⟩ := release
    have other : x ∉ (Command.release b).buffers := fun named => kept (by
      cases List.mem_singleton.mp named
      rfl)
    rw [Memory.size?, contents?_run elementwise other, Memory.size?]
  refine Memory.size?_congr ?_ x
  refine run_preserves (P := fun t => t.memory.sizes = s.memory.sizes)
    (by rw [left_of_isElementwise elementwise]) fun after effect => ?_
  cases effect with
  | copyToDevice copied => exact Memory.sizes_copyIn copied
  | copyToHost copied => rfl
  | launch ran =>
    obtain ⟨k, rfl⟩ := elementwise
    exact ElementwiseKernel.sizes_run ran
  | release freed => exact absurd ⟨_, rfl⟩ release
  | fence => rfl

/-- A command leaves the host stores alone that it does not name. -/
theorem getElem?_stores_run {store : Nat} (apart : store ∉ c.stores) :
    (c.run s).1.stores[store]? = s.stores[store]? := by
  refine run_preserves (P := fun t => t.stores[store]? = s.stores[store]?) (by rw [stores_left])
    fun after effect => ?_
  cases effect with
  | copyToHost copied =>
    refine List.getElem?_set_ne fun same => apart ?_
    exact List.mem_singleton.mpr same.symm
  | _ => rfl

end Command

/-- A submission changes nothing but a queue. -/
theorem Action.perform_submit_cases (w : World) (i : Nat) (c : Command) :
    ((submit i c).perform w).2.memories = w.memories ∧
      ((submit i c).perform w).2.stores = w.stores := by
  simp only [perform]
  split
  case h_1 => exact ⟨rfl, rfl⟩
  case h_2 state found => split <;> exact ⟨rfl, rfl⟩

namespace World

/-- There is no action that takes a device away. -/
theorem length_memories_perform (w : World) (action : Action) :
    w.memories.length ≤ (action.perform w).2.memories.length := by
  cases action with
  | submit stream c => exact Nat.le_of_eq (by rw [(Action.perform_submit_cases w stream c).1])
  | takeFailure stream =>
    simp only [Action.perform]
    split <;> exact Nat.le_refl _
  | _ => simp [Action.perform, Action.onQueue]

/-! ### What the workers leave alone -/

theorem length_memories_serve (served : w.serve j = some after) :
    after.memories.length = w.memories.length := by
  obtain ⟨state, queue, s, _, _, rfl⟩ := serve_cases served
  simp [putStream]

/-- A worker of another device leaves a device as it is, and one of the device does at most the
first command of its stream. -/
theorem memory_serve_cases (served : w.serve j = some after) (d : Nat) :
    after.memory d = w.memory d ∨
      ∃ state c, w.streams[j]? = some state ∧ state.device = d ∧ c ∈ state.queue.outstanding ∧
        after.memory d = (c.run (w.surroundings d)).1.memory := by
  obtain ⟨state, queue, s, found, turn, rfl⟩ := serve_cases served
  by_cases inside : state.device < w.memories.length
  case neg =>
    have outside := List.set_eq_of_length_le (Nat.le_of_not_lt inside) (a := s.memory)
    exact .inl (by simp only [putStream, memory, outside])
  case pos =>
    have memory := @memory_putStream w j { state with queue } s inside d
    by_cases near : d = state.device
    · subst near
      rw [memory, if_pos rfl]
      obtain ⟨_, rfl⟩ | ⟨c, first, rfl⟩ := turn.outstanding_cases
      · exact .inl rfl
      · exact .inr ⟨state, c, found, rfl, first ▸ .head _, rfl⟩
    · rw [memory, if_neg near]
      exact .inl rfl

theorem contents?_serve (elementwise : w.Elementwise d) (served : w.serve j = some after)
    (apart : ∀ state, w.streams[j]? = some state → state.device = d →
      ∀ c ∈ state.queue.outstanding, x ∉ c.buffers) :
    (after.memory d).contents? x = (w.memory d).contents? x := by
  obtain same | ⟨state, c, found, near, waiting, ran⟩ := memory_serve_cases served d
  · rw [same]
  · rw [ran]
    exact Command.contents?_run (elementwise j state found c waiting near)
      (apart state found near c waiting)

theorem Kept.serve {n : Nat} (kept : w.Kept d x n) (elementwise : w.Elementwise d)
    (served : w.serve j = some after) : after.Kept d x n := by
  refine ⟨?_, kept.unreleased.serve served⟩
  obtain same | ⟨state, c, found, near, waiting, ran⟩ := memory_serve_cases served d
  · rw [size?, same]
    exact kept.size
  · rw [size?, ran, Command.size?_run (elementwise j state found c waiting near)
      (kept.unreleased j state found c waiting near)]
    exact kept.size

theorem getElem?_stores_serve {store : Nat} (unsent : w.Unsent store)
    (served : w.serve j = some after) : after.stores[store]? = w.stores[store]? := by
  obtain ⟨state, queue, s, found, turn, rfl⟩ := serve_cases served
  obtain ⟨_, rfl⟩ | ⟨c, first, rfl⟩ := turn.outstanding_cases
  · rfl
  · exact Command.getElem?_stores_run (unsent j state found c (first ▸ .head _))

/-! ### The worker of one stream -/

/-- The queue of an open stream of the device. -/
structure Lane (w : World) (d i : Nat) (q : Queue Command Error) : Prop where
  found : w.streams[i]? = some ⟨d, q⟩
  inside : d < w.memories.length
  numbered : q.Numbered
  opened : q.closing = false

namespace Lane

variable {q : Queue Command Error}

/-- A worker's move is idle for a stream, or it does the first command of the stream. -/
theorem serve (lane : w.Lane d i q) (elementwise : w.Elementwise d)
    (served : w.serve j = some after) :
    ∃ next, after.Lane d i next ∧ next.submitted = q.submitted ∧
      ((next.outstanding = q.outstanding ∧ (j = i → w.running i = []) ∧
          next.reported = q.reported ∧
            ∀ x, w.Reserved d i x → (after.memory d).contents? x = (w.memory d).contents? x) ∨
        ∃ c, j = i ∧ q.outstanding = c :: next.outstanding ∧
          w.running i = [(c, (c.run (w.surroundings d)).2)] ∧
            after.memory d = (c.run (w.surroundings d)).1.memory ∧
              next.reported = q.reported.or (c.run (w.surroundings d)).2) := by
  have inside : d < after.memories.length := length_memories_serve served ▸ lane.inside
  by_cases own : j = i
  case neg =>
    obtain ⟨_, there⟩ | ⟨_, _, same, _⟩ := stream_of_serve lane.found served
    · refine ⟨q, ⟨there, inside, lane.numbered, lane.opened⟩, rfl,
        .inl ⟨rfl, fun same => absurd same own, rfl, ?_⟩⟩
      exact fun x reserved => contents?_serve elementwise served fun state found near c waiting =>
        reserved j state found c waiting near own
    · exact absurd same own
  case pos =>
    subst own
    obtain ⟨state, queue, s, found, turn, rfl⟩ := serve_cases served
    cases lane.found.symm.trans found
    have bound := (List.getElem?_eq_some_iff.mp found).1
    have there : (w.putStream j ⟨d, queue⟩ s).streams[j]? = some ⟨d, queue⟩ := by
      simp [putStream, bound]
    have memory : (w.putStream j ⟨d, queue⟩ s).memory d = s.memory := by
      rw [memory_putStream lane.inside, if_pos rfl]
    refine ⟨queue, ⟨there, inside, lane.numbered.turn turn, turn.closing_eq.trans lane.opened⟩,
      turn.submitted_eq, ?_⟩
    have ran : w.running j = q.running Command.run (w.surroundings d) := by
      simp only [World.running, found]
    rw [memory, ran]
    obtain ⟨same, none_ran, rfl, reported⟩ | ⟨c, first, running, rfl, reported⟩ :=
      turn.reported_cases
    · exact .inl ⟨same, fun _ => none_ran, reported, fun _ _ => rfl⟩
    · exact .inr ⟨c, rfl, first, running, rfl, reported⟩

/-- An action that does not name the stream leaves its queue alone. -/
theorem act (lane : w.Lane d i q) (avoids : action.stream? ≠ some i) :
    (action.perform w).2.Lane d i q :=
  ⟨stream_of_avoids lane.found avoids,
    Nat.lt_of_lt_of_le lane.inside (w.length_memories_perform action), lane.numbered, lane.opened⟩

theorem submit (lane : w.Lane d i q) (c : Command) :
    ∃ after, (Action.submit i c).perform w = (some (q.submitted + 1), after) ∧
      after.Lane d i (q.push c) ∧ after.memories = w.memories ∧ after.stores = w.stores := by
  rw [perform_submit lane.found lane.opened]
  exact ⟨_, rfl, ⟨stream_onQueue lane.found _, lane.inside, lane.numbered.push lane.opened c,
    lane.opened⟩, rfl, rfl⟩

theorem takeFailure (lane : w.Lane d i q) :
    ∃ after, (Action.takeFailure i).perform w = (q.failure, after) ∧
      after.Lane d i q.takeFailure.2 ∧ after.memories = w.memories ∧ after.stores = w.stores := by
  rw [perform_takeFailure lane.found]
  exact ⟨_, rfl, ⟨stream_onQueue lane.found _, lane.inside, lane.numbered.takeFailure,
    lane.opened⟩, rfl, rfl⟩

/-- Only a failure may be taken. -/
theorem idle (lane : w.Lane d i q) (idle : action.Idle) :
    ∃ p, (action.perform w).2.Lane d i p ∧ p.outstanding = q.outstanding := by
  by_cases named : action.stream? = some i
  case neg => exact ⟨q, lane.act named, rfl⟩
  case pos =>
    cases action with
    | takeFailure stream =>
      cases named
      obtain ⟨after, performed, lane', _⟩ := lane.takeFailure
      refine ⟨q.takeFailure.2, ?_, rfl⟩
      rwa [performed]
    | submit stream c => exact idle.elim
    | close stream => exact idle.elim
    | _ => cases named

theorem eq {p : Queue Command Error} (lane : w.Lane d i q) (same : w.Lane d i p) : p = q := by
  cases lane.found.symm.trans same.found
  rfl

/-- Waiting for the newest command ends when everything is done. -/
theorem quiet_of_enabled (lane : w.Lane d i q)
    (enabled : (Action.await i q.submitted).enabled w = true) : q.Quiet := by
  refine lane.numbered.quiet_of_done ?_
  simpa [Action.enabled, lane.found, Queue.isDone] using enabled

/-- While everything is done, the workers leave the queue alone. -/
theorem serve_of_quiet (lane : w.Lane d i q) (quiet : q.Quiet) (served : w.serve j = some after) :
    after.Lane d i q := by
  obtain ⟨_, same⟩ | ⟨queue, s, _, turn, _⟩ := stream_of_serve lane.found served
  · exact ⟨same, length_memories_serve served ▸ lane.inside, lane.numbered, lane.opened⟩
  · cases (Queue.step_eq_some_iff_turn.mpr turn).symm.trans (quiet.step_eq_none lane.opened _)

/-- Once everything is done, the failure is kept. -/
theorem reported_of_quiet (lane : w.Lane d i q) (quiet : q.Quiet) : q.reported = q.failure := by
  simp only [Queue.reported, quiet.worker_eq_idle lane.numbered lane.opened]

end Lane

end World

end DeviceArrays

import DeviceArrays.Proofs.Queue.Ran
import DeviceArrays.Proofs.Several.Custody
import DeviceArrays.Schedule
import Mathlib.Algebra.GroupWithZero.Nat

/-!
# What moves do to the queues

An action of a client reaches at most the queue of the stream it names: it appends a command, takes
the failure that is kept, or closes the queue. A worker's move is a turn of its own queue. So what
holds of an empty queue and is kept by these four holds of every queue along every schedule.
-/
namespace DeviceArrays

variable {α : Type} {w after : World} {action : Action} {i stream : Nat} {state : StreamState}

/-- What an action does to the queue of stream `i`, where it does anything. -/
inductive Action.Touches (i : Nat) (q : Queue Command Error) : Action → Queue Command Error → Prop
  | submit {c : Command} (opened : q.closing = false) : Touches i q (.submit i c) (q.push c)
  | takeFailure : Touches i q (.takeFailure i) q.takeFailure.2
  | close : Touches i q (.close i) q.close

/-- The stream whose queue an action may change. -/
def Action.stream? : Action → Option Nat
  | .submit stream _ | .takeFailure stream | .close stream => some stream
  | _ => none

namespace World

/-- A change of one queue. -/
theorem stream_onQueue_cases {f : Queue Command Error → Queue Command Error}
    (there : (Action.onQueue w stream f).streams[i]? = some state) :
    (i ≠ stream ∧ w.streams[i]? = some state) ∨
      ∃ old, i = stream ∧ w.streams[i]? = some old ∧ state = { old with queue := f old.queue } := by
  simp only [Action.onQueue, List.getElem?_modify] at there
  obtain ⟨old, found, same⟩ := Option.map_eq_some_iff.mp there
  by_cases here : stream = i
  · rw [if_pos here] at same
    exact .inr ⟨old, here.symm, found, same.symm⟩
  · rw [if_neg here] at same
    exact .inl ⟨Ne.symm here, same ▸ found⟩

/-- A stream after an action was the same before, or it was opened, or the action names it. -/
theorem stream_cases (there : (action.perform w).2.streams[i]? = some state) :
    w.streams[i]? = some state ∨
      (i = w.streams.length ∧ ∃ device, action = .openStream device ∧ state = ⟨device, .empty⟩) ∨
        ∃ old queue, w.streams[i]? = some old ∧ Action.Touches i old.queue action queue ∧
          state = { old with queue } := by
  cases action with
  | openStream device =>
    simp only [Action.perform] at there
    rcases Nat.lt_trichotomy i w.streams.length with before | rfl | behind
    · rw [List.getElem?_append_left before] at there
      exact .inl there
    · rw [List.getElem?_concat_length] at there
      exact .inr (.inl ⟨rfl, device, rfl, (Option.some.inj there).symm⟩)
    · rw [List.getElem?_eq_none (by simp; omega)] at there
      cases there
  | submit stream c =>
    cases found : w.streams[stream]? with
    | none =>
      simp only [Action.perform, found] at there
      exact .inl there
    | some old =>
      cases closing : old.queue.closing with
      | true =>
        simp only [Action.perform, found, Queue.submit, closing, if_true] at there
        exact .inl there
      | false =>
        simp only [Action.perform, found, Queue.submit_of_open closing] at there
        obtain ⟨_, same⟩ | ⟨other, rfl, again, same⟩ := stream_onQueue_cases there
        · exact .inl same
        · cases found.symm.trans again
          exact .inr (.inr ⟨old, _, found, .submit closing, same⟩)
  | takeFailure stream =>
    cases found : w.streams[stream]? with
    | none =>
      simp only [Action.perform, found] at there
      exact .inl there
    | some old =>
      simp only [Action.perform, found] at there
      obtain ⟨_, same⟩ | ⟨other, rfl, again, same⟩ := stream_onQueue_cases there
      · exact .inl same
      · cases found.symm.trans again
        exact .inr (.inr ⟨old, _, found, .takeFailure, same⟩)
  | close stream =>
    obtain ⟨_, same⟩ | ⟨old, rfl, found, same⟩ := stream_onQueue_cases there
    · exact .inl same
    · exact .inr (.inr ⟨old, _, found, .close, same⟩)
  | _ => exact .inl there

theorem length_streams_perform (w : World) (action : Action) :
    w.streams.length ≤ (action.perform w).2.streams.length := by
  cases action with
  | openStream device => simp [Action.perform]
  | submit stream c =>
    simp only [Action.perform]
    split
    case h_1 => exact Nat.le_refl _
    case h_2 state found =>
      split
      case h_1 => exact Nat.le_refl _
      case h_2 => simp [Action.onQueue]
  | takeFailure stream =>
    simp only [Action.perform]
    split
    case h_1 => exact Nat.le_refl _
    case h_2 => simp [Action.onQueue]
  | close stream => simp [Action.perform, Action.onQueue]
  | _ => exact Nat.le_refl _

/-- A stream stays as it is, unless the action touches its queue. -/
theorem stream_of_perform (found : w.streams[stream]? = some state) (action : Action) :
    (action.perform w).2.streams[stream]? = some state ∨
      ∃ queue, Action.Touches stream state.queue action queue ∧
        (action.perform w).2.streams[stream]? = some { state with queue } := by
  have inside := (List.getElem?_eq_some_iff.mp found).1
  have still := Nat.lt_of_lt_of_le inside (w.length_streams_perform action)
  have there := List.getElem?_eq_getElem still
  obtain same | ⟨new, _⟩ | ⟨old, queue, before, touched, same⟩ := stream_cases there
  · rw [there, ← same, found]
    exact .inl rfl
  · omega
  · cases found.symm.trans before
    exact .inr ⟨queue, touched, there.trans (congrArg some same)⟩

theorem stream_of_avoids {action : Action} (found : w.streams[stream]? = some state)
    (avoids : action.stream? ≠ some stream) :
    (action.perform w).2.streams[stream]? = some state := by
  obtain same | ⟨queue, touched, _⟩ := stream_of_perform found action
  · exact same
  · cases touched <;> exact absurd rfl avoids

/-- What a submission to an open queue comes to. -/
theorem perform_submit (found : w.streams[stream]? = some state)
    (opened : state.queue.closing = false) (c : Command) :
    (Action.submit stream c).perform w =
      (some (state.queue.submitted + 1), Action.onQueue w stream fun _ => state.queue.push c) := by
  simp only [Action.perform, found, Queue.submit_of_open opened]
  rfl

theorem perform_takeFailure (found : w.streams[stream]? = some state) :
    (Action.takeFailure stream).perform w =
      (state.queue.failure, Action.onQueue w stream fun _ => state.queue.takeFailure.2) := by
  simp only [Action.perform, found]
  rfl

theorem stream_onQueue (found : w.streams[stream]? = some state)
    (f : Queue Command Error → Queue Command Error) :
    (Action.onQueue w stream f).streams[stream]? = some { state with queue := f state.queue } := by
  simp [Action.onQueue, found]

/-- A stream after a worker's move was the same before, unless it is that worker's. -/
theorem stream_serve_cases (served : w.serve stream = some after)
    (there : after.streams[i]? = some state) :
    (i ≠ stream ∧ w.streams[i]? = some state) ∨
      ∃ old queue s, i = stream ∧ w.streams[i]? = some old ∧
        Queue.Turn Command.run old.queue (w.surroundings old.device) queue s ∧
          state = { old with queue } := by
  obtain ⟨old, queue, s, found, turn, rfl⟩ := serve_cases served
  simp only [putStream, List.getElem?_set] at there
  by_cases here : stream = i
  · subst here
    rw [if_pos rfl, if_pos (List.getElem?_eq_some_iff.mp found).1] at there
    exact .inr ⟨old, queue, s, rfl, found, turn, (Option.some.inj there).symm⟩
  · rw [if_neg here] at there
    exact .inl ⟨Ne.symm here, there⟩

theorem stream_of_serve {other : Nat} (found : w.streams[stream]? = some state)
    (served : w.serve other = some after) :
    (other ≠ stream ∧ after.streams[stream]? = some state) ∨
      ∃ queue s, other = stream ∧
        Queue.Turn Command.run state.queue (w.surroundings state.device) queue s ∧
          after.streams[stream]? = some { state with queue } := by
  obtain ⟨old, queue, s, there, turn, rfl⟩ := serve_cases served
  have inside := (List.getElem?_eq_some_iff.mp found).1
  by_cases same : other = stream
  · subst same
    cases found.symm.trans there
    exact .inr ⟨queue, s, rfl, turn, by simp [putStream, inside]⟩
  · exact .inl ⟨same, by rw [putStream, List.getElem?_set_ne same, found]⟩

/-- A stream stays on its device. -/
theorem device_perform (found : w.streams[stream]? = some state) (action : Action) :
    ∃ next, (action.perform w).2.streams[stream]? = some next ∧ next.device = state.device := by
  obtain same | ⟨queue, _, there⟩ := stream_of_perform found action
  · exact ⟨state, same, rfl⟩
  · exact ⟨_, there, rfl⟩

theorem device_serve {stream other : Nat} (found : w.streams[stream]? = some state)
    (served : w.serve other = some after) :
    ∃ next, after.streams[stream]? = some next ∧ next.device = state.device := by
  obtain ⟨_, same⟩ | ⟨queue, s, _, _, there⟩ := stream_of_serve found served
  · exact ⟨state, same, rfl⟩
  · exact ⟨_, there, rfl⟩

/-- A worker that has no move rests. -/
theorem rests_of_serve_eq_none (still : w.serve stream = none)
    (found : w.streams[stream]? = some state) : state.queue.rests = true := by
  simp only [serve, found, Option.bind_eq_bind, Option.bind_some] at still
  suffices stuck : state.queue.step Command.run (w.surroundings state.device) = none from
    Queue.rests_iff_step_eq_none.mpr stuck
  cases moved : state.queue.step Command.run (w.surroundings state.device) with
  | none => rfl
  | some next => simp [moved] at still

/-- Where no worker has a move, every queue rests. -/
theorem rests_of_still (still : ∀ stream, w.serve stream = none)
    (found : w.streams[stream]? = some state) : state.queue.rests = true :=
  rests_of_serve_eq_none (still stream) found

/-- The worker of a stream has ended. -/
def Ended (w : World) (stream : Nat) : Prop :=
  ∃ state, w.streams[stream]? = some state ∧ state.queue.worker = .stopped

theorem Ended.act (ended : w.Ended stream) (action : Action) :
    (action.perform w).2.Ended stream := by
  obtain ⟨state, found, stopped⟩ := ended
  obtain same | ⟨queue, touched, there⟩ := stream_of_perform found action
  · exact ⟨state, same, stopped⟩
  · refine ⟨_, there, ?_⟩
    cases touched <;> exact stopped

theorem Ended.serve {other : Nat} (ended : w.Ended stream)
    (served : w.serve other = some after) : after.Ended stream := by
  obtain ⟨state, found, stopped⟩ := ended
  obtain ⟨_, same⟩ | ⟨queue, s, _, turn, _⟩ := stream_of_serve found served
  · exact ⟨state, same, stopped⟩
  · exact absurd stopped turn.not_stopped

/-- A worker that can be joined has ended. -/
theorem ended_of_joins (found : w.streams[stream]? = some state)
    (joins : (Action.join stream).enabled w = true) : w.Ended stream := by
  refine ⟨state, found, Queue.hasStopped_iff.mp ?_⟩
  simpa [Action.enabled, found] using joins

/-- The worker of a closed stream can be joined once it has no move. -/
theorem joins_of_rests (found : w.streams[stream]? = some state)
    (closing : state.queue.closing = true) (rests : state.queue.rests = true) :
    (Action.join stream).enabled w = true := by
  simp [Action.enabled, found, Queue.hasStopped_iff.mpr (Queue.stopped_of_rests rests closing)]

/-- The number of moves that all workers together have left at most. -/
def remaining (w : World) : Nat := (w.streams.map (·.queue.remaining)).sum

theorem remaining_serve {after : World} {stream : Nat} (served : w.serve stream = some after) :
    after.remaining < w.remaining := by
  obtain ⟨state, queue, s, found, turn, rfl⟩ := serve_cases served
  have fewer : queue.remaining < state.queue.remaining :=
    Queue.remaining_step (Queue.step_eq_some_iff_turn.mpr turn)
  -- One stream is exchanged, and the others count the same.
  have both := ((Ledger.perm_cons_set found { state with queue }).map (·.queue.remaining)).sum_nat
  simp only [List.map_cons, List.sum_cons] at both
  simp only [remaining, putStream]
  omega

/-- Whatever the workers are at, they can go on until none of them has a move. -/
theorem reaches_rest (clients : List (Client α)) (w : World) :
    ∃ u, Reaches ⟨clients, w⟩ ⟨clients, u⟩ ∧ ∀ stream, u.serve stream = none := by
  by_cases moves : ∃ stream after, w.serve stream = some after
  · obtain ⟨stream, after, served⟩ := moves
    have fewer := remaining_serve served
    obtain ⟨u, later, rest⟩ := reaches_rest clients after
    exact ⟨u, .step (.worker stream served) later, rest⟩
  · refine ⟨w, .here _, fun stream => ?_⟩
    cases served : w.serve stream with
    | none => rfl
    | some after => exact absurd ⟨stream, after, served⟩ moves
  termination_by w.remaining

/-- The numbers of every queue fit together. -/
def Numbered (w : World) : Prop :=
  ∀ (i : Nat) (state : StreamState), w.streams[i]? = some state → state.queue.Numbered

theorem numbered_empty : World.empty.Numbered := fun _ _ found => by cases found

theorem Numbered.act (numbered : w.Numbered) : (action.perform w).2.Numbered := by
  intro i state there
  obtain same | ⟨_, _, _, rfl⟩ | ⟨old, queue, found, touched, rfl⟩ := stream_cases there
  · exact numbered i state same
  · exact Queue.numbered_empty
  · have before := numbered i old found
    cases touched with
    | submit opened => exact before.push opened _
    | takeFailure => exact before.takeFailure
    | close => exact before.close

theorem Numbered.serve (numbered : w.Numbered) (served : w.serve stream = some after) :
    after.Numbered := by
  intro i state there
  obtain ⟨_, same⟩ | ⟨old, queue, s, _, found, turn, rfl⟩ := stream_serve_cases served there
  · exact numbered i state same
  · exact (numbered i old found).turn turn

end World

/-- Along every schedule the numbers of every queue fit together. -/
theorem Reaches.numbered {start t : Situation α} (h : Reaches start t)
    (numbered : start.world.Numbered) : t.world.Numbered := by
  induction h with
  | here => exact numbered
  | step move later ih =>
    cases move with
    | client i turn enabled => exact ih numbered.act
    | worker stream served => exact ih (numbered.serve served)

/-- Where whatever happens leaves the first client somewhere it is not held up once all workers
rest, it can go on to its end. -/
theorem reaches_end_of_free {P : Situation α → Prop}
    (kept : ∀ {t u}, P t → Reaches t u → P u)
    (free : ∀ {action : Action} {next : action.Reply → Client α} {others : List (Client α)}
      {w : World}, P ⟨.act action next :: others, w⟩ → (∀ stream, w.serve stream = none) →
        action.enabled w = true)
    {c : Client α} {others : List (Client α)} {w : World} (here : P ⟨c :: others, w⟩) :
    ∃ u result, Reaches ⟨c :: others, w⟩ u ∧ u.clients[0]? = some (.done result) := by
  induction c generalizing w with
  | done result => exact ⟨_, result, .here _, rfl⟩
  | act action next ih =>
    -- The workers are let finish first, so that the client is not held up.
    obtain ⟨v, rest, still⟩ := World.reaches_rest (.act action next :: others) w
    have enabled := free (kept here rest) still
    have goes : Reaches ⟨.act action next :: others, w⟩
        ⟨next (action.perform v).1 :: others, (action.perform v).2⟩ :=
      rest.trans (.step (.client 0 rfl enabled) (.here _))
    obtain ⟨u, result, later, ended⟩ := ih _ (kept here goes)
    exact ⟨u, result, goes.trans later, ended⟩

/-- The command that the worker of a stream is about to do, with what comes of it. -/
def World.running (w : World) (stream : Nat) : List (Command × Option Error) :=
  match w.streams[stream]? with
  | some state => state.queue.running Command.run (w.surroundings state.device)
  | none => []

/-- What some moves lead to, and the commands that the worker of a stream has done in them, each
with what came of it. -/
inductive ReachesRunning (stream : Nat) (start : Situation α) :
    Situation α → List (Command × Option Error) → Prop
  | here : ReachesRunning stream start start []
  | client {clients : List (Client α)} {w : World} {ran : List (Command × Option Error)}
      {action : Action} {next : action.Reply → Client α}
      (earlier : ReachesRunning stream start ⟨clients, w⟩ ran) (i : Nat)
      (turn : clients[i]? = some (.act action next)) (enabled : action.enabled w) :
      ReachesRunning stream start
        ⟨clients.set i (next (action.perform w).1), (action.perform w).2⟩ ran
  | worker {clients : List (Client α)} {w after : World} {ran : List (Command × Option Error)}
      (earlier : ReachesRunning stream start ⟨clients, w⟩ ran) (other : Nat)
      (served : w.serve other = some after) :
      ReachesRunning stream start ⟨clients, after⟩
        (ran ++ if other = stream then w.running stream else [])

theorem ReachesRunning.of_reaches {stream : Nat} {start s t : Situation α}
    {ran : List (Command × Option Error)} (earlier : ReachesRunning stream start s ran)
    (h : Reaches s t) : ∃ more, ReachesRunning stream start t (ran ++ more) := by
  induction h generalizing ran with
  | here => exact ⟨[], (List.append_nil ran).symm ▸ earlier⟩
  | step move later ih =>
    cases move with
    | client i turn enabled => exact ih (earlier.client i turn enabled)
    | worker other served =>
      obtain ⟨more, further⟩ := ih (earlier.worker other served)
      exact ⟨_, List.append_assoc ran _ more ▸ further⟩

end DeviceArrays

import DeviceArrays.Proofs.Several.Traces

/-!
# Commands are done in order

However the clients of a stream and its worker take turns, the commands that were submitted are done
in that order and each of them once. Waiting for a command ends when it is done and all before it.
The worker ends after the stream was closed, and only when every command is done.
-/
namespace DeviceArrays

open Queue (submissions executed reports)

variable {α : Type} {i : Nat} {w : World} {state : StreamState}

def Mover.isWorker (i : Nat) : Mover → Bool
  | .worker stream => stream = i
  | .client .. => false

/-- The number of moves that the worker of stream `i` has made. -/
def turns (i : Nat) (trace : List Moment) : Nat := trace.countP (·.mover.isWorker i)

/-! ### Closed streams -/

/-- What has become of a stream that was closed after `before`: nothing was submitted to it since,
and each turn has brought the worker closer to its end. -/
structure Closed (i : Nat) (before : Queue Command Error) (w : World) (trace : List Moment)
    (state : StreamState) : Prop where
  found : w.streams[i]? = some state
  closing : state.queue.closing = true
  silent : submissions (history i trace) = []
  remaining : turns i trace + state.queue.remaining ≤ before.remaining

namespace Closed

variable {before : Queue Command Error} {trace : List Moment}

theorem of_action (h : Closed i before w trace state) {j : Nat} {action : Action}
    {queue : Queue Command Error}
    (found : (action.perform w).2.streams[i]? = some { state with queue })
    (closing : queue.closing = true) (same : queue.remaining = state.queue.remaining)
    (silent : submissions (action.noted i j state.queue) = []) :
    Closed i before (action.perform w).2 (trace ++ [⟨w, .client j action⟩])
      { state with queue } where
  found := found
  closing := closing
  silent := by
    rw [history_append, history_singleton, Moment.events_of_found h.found,
      Queue.submissions_append, h.silent, silent]
    rfl
  remaining := by
    have bound := h.remaining
    simpa [turns, List.countP_append, Mover.isWorker, same] using bound

/-- No action gives a closed stream more to do. -/
theorem act (h : Closed i before w trace state) (j : Nat) (action : Action) :
    ∃ next, Closed i before (action.perform w).2 (trace ++ [⟨w, .client j action⟩]) next := by
  have found := h.found
  by_cases named : action.stream? = some i
  case neg =>
    refine ⟨_, h.of_action (World.stream_of_avoids found named) h.closing rfl ?_⟩
    rw [Action.noted_of_avoids named]
    rfl
  case pos =>
    cases action with
    | submit stream c =>
      cases named
      have refused : state.queue.submit c = none := by simp [Queue.submit, h.closing]
      refine ⟨state, h.of_action ?_ h.closing rfl ?_⟩
      · simp only [Action.perform, found, refused]
      · simp [Action.noted, refused, Queue.submissions]
    | takeFailure stream =>
      cases named
      refine ⟨{ state with queue := state.queue.takeFailure.2 }, h.of_action ?_ h.closing rfl ?_⟩
      · rw [World.perform_takeFailure found]
        exact World.stream_onQueue found _
      · simp [Action.noted, Queue.Event.submission?]
    | close stream =>
      cases named
      refine ⟨{ state with queue := state.queue.close }, h.of_action ?_ rfl rfl ?_⟩
      · exact World.stream_onQueue found Queue.close
      · simp [Action.noted, Queue.Event.submission?]
    | _ => cases named

theorem serve {after : World} {stream : Nat} (h : Closed i before w trace state)
    (served : w.serve stream = some after) :
    ∃ next, Closed i before after (trace ++ [⟨w, .worker stream⟩]) next := by
  obtain ⟨other, same⟩ | ⟨queue, s, rfl, turn, there⟩ := World.stream_of_serve h.found served
  · refine ⟨state, same, h.closing, ?_, ?_⟩
    · rw [history_append, history_singleton, Moment.events_other_worker other, List.append_nil]
      exact h.silent
    · simpa [turns, List.countP_append, Mover.isWorker, other] using h.remaining
  · refine ⟨_, there, turn.closing_eq.trans h.closing, ?_, ?_⟩
    · rw [history_append, history_singleton, Moment.events_worker h.found,
        Queue.submissions_append, h.silent, Queue.submissions_marks]
      rfl
    · have fewer := Queue.remaining_step (Queue.step_eq_some_iff_turn.mpr turn)
      have bound := h.remaining
      simp only [turns, List.countP_append, List.countP_singleton, Mover.isWorker] at bound ⊢
      simp only [decide_true, if_true]
      omega

end Closed

/-- Whatever follows, a closed stream stays closed and its worker comes closer to its end. -/
theorem ReachesBy.closed {t u : Situation α} {more : List Moment} (h : ReachesBy t u more)
    (found : t.world.streams[i]? = some state) (closing : state.queue.closing = true) :
    ∃ next, Closed i state.queue u.world more next := by
  induction h with
  | here => exact ⟨state, found, closing, rfl, by simp [turns]⟩
  | client earlier j turn enabled ih =>
    obtain ⟨_, closed⟩ := ih
    exact closed.act j _
  | worker earlier stream served ih =>
    obtain ⟨_, closed⟩ := ih
    exact closed.serve served

/-- The worker of a closed stream has a move until it has ended. -/
theorem World.serve_of_closing (found : w.streams[i]? = some state)
    (closing : state.queue.closing = true) :
    state.queue.worker = .stopped ∨ ∃ after, w.serve i = some after := by
  cases served : w.serve i with
  | some after => exact .inr ⟨after, rfl⟩
  | none =>
    have resting := rests_of_serve_eq_none served found
    exact .inl (Queue.stopped_of_rests resting closing)

/-! ### The last handle -/

/-- How far the first client is that drops the last handle of stream `i`: it has the stream still to
close, or the worker still to join, or it has joined it. -/
inductive Dropping (i : Nat) (q : Queue Command Error) : Client (Except Error Unit) → Prop
  | closing : Dropping i q (.act (.close i) fun _ => .act (.join i) fun _ => .done (.ok ()))
  | joining (closed : q.closing = true) : Dropping i q (.act (.join i) fun _ => .done (.ok ()))
  | joined (stopped : q.worker = .stopped) : Dropping i q (.done (.ok ()))

theorem Stream.dropping_close (s : Stream) (q : Queue Command Error) :
    Dropping s.number q s.close.run :=
  .closing

namespace Dropping

variable {q after : Queue Command Error} {d : Client (Except Error Unit)}

/-- Whatever others do, a closed stream stays closed, and a worker that has ended stays so. -/
theorem mono (dropping : Dropping i q d) (closed : q.closing = true → after.closing = true)
    (stopped : q.worker = .stopped → after.worker = .stopped) : Dropping i after d := by
  cases dropping with
  | closing => exact .closing
  | joining shut => exact .joining (closed shut)
  | joined ended => exact .joined (stopped ended)

theorem beside (dropping : Dropping i state.queue d) (found : w.streams[i]? = some state)
    (action : Action) :
    ∃ next, (action.perform w).2.streams[i]? = some next ∧ Dropping i next.queue d := by
  obtain same | ⟨queue, touched, there⟩ := World.stream_of_perform found action
  · exact ⟨state, same, dropping⟩
  · refine ⟨_, there, dropping.mono ?_ ?_⟩ <;> cases touched
    case refine_1.close => exact fun _ => rfl
    all_goals exact id

theorem serve {world : World} {stream : Nat} (dropping : Dropping i state.queue d)
    (found : w.streams[i]? = some state) (served : w.serve stream = some world) :
    ∃ next, world.streams[i]? = some next ∧ Dropping i next.queue d := by
  obtain ⟨_, same⟩ | ⟨queue, s, _, turn, there⟩ := World.stream_of_serve found served
  · exact ⟨state, same, dropping⟩
  · exact ⟨_, there, dropping.mono turn.closing_eq.trans fun ended => absurd ended turn.not_stopped⟩

/-- The client goes on: it closes the stream, or the worker it waits for has ended. -/
theorem act {action : Action} {next : action.Reply → Client (Except Error Unit)}
    (dropping : Dropping i state.queue (.act action next)) (found : w.streams[i]? = some state)
    (enabled : action.enabled w = true) :
    ∃ later, (action.perform w).2.streams[i]? = some later ∧
      Dropping i later.queue (next (action.perform w).1) := by
  cases dropping with
  | closing => exact ⟨_, World.stream_onQueue found Queue.close, .joining rfl⟩
  | joining closed =>
    obtain ⟨ended, there, stopped⟩ := World.ended_of_joins found enabled
    exact ⟨ended, there, .joined stopped⟩

/-- Where the worker rests, the client is not held up. -/
theorem enabled {action : Action} {next : action.Reply → Client (Except Error Unit)}
    (dropping : Dropping i state.queue (.act action next)) (found : w.streams[i]? = some state)
    (rests : state.queue.rests = true) : action.enabled w = true := by
  cases dropping with
  | closing => rfl
  | joining closed => exact World.joins_of_rests found closed rests

theorem of_done {result : Except Error Unit} (dropping : Dropping i q (.done result)) :
    result = .ok () ∧ q.worker = .stopped := by
  cases dropping with
  | joined stopped => exact ⟨rfl, stopped⟩

end Dropping

/-- The first client is on its way to drop the last handle of stream `i`. -/
def Situation.Drops (i : Nat) (t : Situation (Except Error Unit)) : Prop :=
  ∃ d others state, t.clients = d :: others ∧ t.world.streams[i]? = some state ∧
    Dropping i state.queue d

/-- It stays on its way, whatever others do. -/
theorem Reaches.drops {t u : Situation (Except Error Unit)} (h : Reaches t u) (drops : t.Drops i) :
    u.Drops i := by
  induction h with
  | here => exact drops
  | step move later ih =>
    obtain ⟨d, others, state, first, found, dropping⟩ := drops
    cases move with
    | @client _ _ action _ j turn enabled =>
      cases first
      cases j with
      | zero =>
        cases Option.some.inj turn
        obtain ⟨next, there, dropping⟩ := dropping.act found enabled
        exact ih ⟨_, others, next, rfl, there, dropping⟩
      | succ j =>
        obtain ⟨next, there, dropping⟩ := dropping.beside found action
        exact ih ⟨d, _, next, rfl, there, dropping⟩
    | worker stream served =>
      obtain ⟨next, there, dropping⟩ := dropping.serve found served
      exact ih ⟨d, others, next, first, there, dropping⟩

/-- The drop can always go on to its end. -/
theorem Situation.Drops.reaches_end {t : Situation (Except Error Unit)} (drops : t.Drops i) :
    ∃ u result, Reaches t u ∧ u.clients[0]? = some (.done result) := by
  obtain ⟨clients, w⟩ := t
  obtain ⟨d, others, state, first, found, dropping⟩ := id drops
  cases first
  refine reaches_end_of_free (P := Situation.Drops i) (fun drops h => h.drops drops) ?_ drops
  rintro action next others w ⟨d, rest, state, first, found, dropping⟩ still
  cases first
  exact dropping.enabled found (World.rests_of_still still found)

/-- No stream loses, repeats or reorders a command. At every moment what was submitted to it,
numbered from one, is what the worker has reported on, then the command it is at, if any, then what
is pending, and the commands done are those reported on and perhaps the one it is at. Waiting for a
command ends only when it is done and all before it are. The worker ends only after the stream was
closed and with nothing pending. Once a stream is closed nothing more is submitted to it, and its
worker, after no more moves of its own than are `remaining`, has done all that was submitted.

Dropping the last handle can always go on to its end, whatever other clients do meanwhile, and when
it returns the worker has ended and every command that was ever submitted has been done. -/
theorem stream_does_every_command_in_order {clients : List (Client α)} {t : Situation α}
    {trace : List Moment} (reached : ReachesBy ⟨clients, .empty⟩ t trace)
    (found : t.world.streams[i]? = some state) :
    let q := state.queue
    let past := history i trace
    (submissions past).map Prod.fst = List.range' 1 q.submitted ∧
      (∃ finished flight, submissions past = finished ++ flight ++ q.pending ∧
        finished.length = q.completed ∧ finished.map Prod.fst = (reports past).map Prod.fst ∧
        flight.map Prod.fst = q.worker.sequence?.toList ∧
        executed past = finished ++ if q.worker.hasRun then flight else []) ∧
      (∀ n, (Action.await i n).enabled t.world = true →
        n ≤ (executed past).length ∧ (executed past).take n = (submissions past).take n) ∧
      (q.worker = .stopped → (∃ client, .closed client ∈ past) ∧ q.pending = [] ∧
        executed past = submissions past) ∧
      (q.closing = true → ∀ u more, ReachesBy t u more →
        ∃ after, u.world.streams[i]? = some after ∧ submissions (history i more) = [] ∧
          turns i more + after.queue.remaining ≤ q.remaining ∧
          (after.queue.worker = .stopped ∧
              executed (past ++ history i more) = submissions past ∨
            ∃ w, u.world.serve i = some w)) ∧
      (∀ s : Stream, s.number = i → ∀ others u more,
        ReachesBy ⟨s.close.run :: others, t.world⟩ u more →
          (∃ v result, Reaches u v ∧ v.clients[0]? = some (.done result)) ∧
          ∀ result, u.clients[0]? = some (.done result) → result = .ok () ∧
            ∃ after, u.world.streams[i]? = some after ∧ after.queue.worker = .stopped ∧
              after.queue.pending = [] ∧
              executed (past ++ history i more) = submissions (past ++ history i more)) := by
  intro q past
  have recorded := (reached.recorded World.recorded_empty).opened i state found
  have accounted : Queue.Accounted Command.run q past := recorded.toAccounted
  obtain ⟨finished, flight, parts, before, current, done⟩ := accounted.exists_parts
  have count : finished.length = q.completed := by
    simpa [accounted.completed] using congrArg List.length before
  refine ⟨accounted.numbers, ⟨finished, flight, parts, count, before, current, done⟩,
    fun n enabled => ?_, fun stopped => ?_, fun closing u more later => ?_, ?_⟩
  · have enough : n ≤ q.completed := by
      simpa [Action.enabled, found, Queue.isDone] using enabled
    exact accounted.take_executed enough
  · obtain ⟨_, closing⟩ := accounted.numbered.stopped stopped
    exact ⟨accounted.closed closing, accounted.executed_of_stopped stopped⟩
  · obtain ⟨after, closed⟩ := later.closed found closing
    have everywhere := later.recorded (reached.recorded World.recorded_empty)
    have still := everywhere.opened i after closed.found
    refine ⟨after, closed.found, closed.silent, closed.remaining, ?_⟩
    obtain stopped | moves := World.serve_of_closing closed.found closed.closing
    · obtain ⟨_, every⟩ := still.toAccounted.executed_of_stopped stopped
      refine .inl ⟨stopped, ?_⟩
      simpa [closed.silent] using every
    · exact .inr moves
  · rintro s rfl others u more further
    have later := further.recorded (reached.recorded World.recorded_empty)
    have drops : u.Drops s.number :=
      further.reaches.drops ⟨_, others, state, rfl, found, s.dropping_close q⟩
    refine ⟨drops.reaches_end, fun result ended => ?_⟩
    obtain ⟨d, rest, after, first, there, dropping⟩ := drops
    rw [first] at ended
    cases Option.some.inj ended
    obtain ⟨rfl, stopped⟩ := dropping.of_done
    have still := later.opened _ after there
    exact ⟨rfl, after, there, stopped, still.toAccounted.executed_of_stopped stopped⟩

/-- Opens a device and a stream on it, submits a release that has to fail, and drops the stream. -/
def releasesUnknown : Client Unit :=
  .act .openDevice fun _ => .act (.openStream 0) fun _ =>
    .act (.submit 0 (.release ⟨7⟩)) fun _ => .act (.close 0) fun _ => .act (.join 0) fun _ =>
      .done ()

/-- Submits a mark to the same stream and waits for the first command of all. -/
def fences : Client Unit :=
  .act (.submit 0 .fence) fun _ => .act (.await 0 1) fun _ => .done ()

/-- Two clients share a stream that is closed while its worker is at the first command, which fails.
The worker goes on with the second one, for which a drop has to wait. -/
theorem shared_stream_keeps_order :
    let s : Stream := ⟨0, ⟨0, ⟨0⟩, .standard⟩, ⟨false, none⟩⟩
    ∃ t trace state u more, ReachesBy ⟨[releasesUnknown, fences], .empty⟩ t trace ∧
      t.world.streams[0]? = some state ∧ state.queue.worker = .holding 2 .fence ∧
        state.queue.failure = some (.useAfterFree "release" ⟨7⟩) ∧
          (Action.join 0).enabled t.world = false ∧
            executed (history 0 trace) = [(1, .release ⟨7⟩)] ∧
              (executed (history 0 trace)).take 1 = (submissions (history 0 trace)).take 1 ∧
                (∀ v later, ReachesBy t v later → submissions (history 0 later) = []) ∧
                  ReachesBy ⟨[s.close.run], t.world⟩ u more ∧
                    u.clients[0]? = some (.done (.ok ())) ∧
                      executed (history 0 trace ++ history 0 more) =
                        submissions (history 0 trace ++ history 0 more) := by
  intro s
  have moved : ∃ t trace state, ReachesBy ⟨[releasesUnknown, fences], .empty⟩ t trace ∧
      t.world.streams[0]? = some state ∧ state.queue.worker = .holding 2 .fence ∧
        state.queue.failure = some (.useAfterFree "release" ⟨7⟩) ∧ state.queue.closing = true ∧
          (Action.join 0).enabled t.world = false ∧
            executed (history 0 trace) = [(1, .release ⟨7⟩)] ∧
              (Action.await 0 1).enabled t.world = true ∧
                ∃ u more, ReachesBy ⟨[s.close.run], t.world⟩ u more ∧
                  u.clients[0]? = some (.done (.ok ())) :=
    ⟨_, _, _, .worker (.worker (.worker (.client (.worker (.client (.client (.client (.client .here
      0 rfl rfl) 0 rfl rfl) 0 rfl rfl) 1 rfl rfl) 0 rfl) 0 rfl rfl) 0 rfl) 0 rfl) 0 rfl,
      rfl, rfl, rfl, rfl, rfl, rfl, rfl, _, _,
      .client (.worker (.worker (.worker (.client .here 0 rfl rfl) 0 rfl) 0 rfl) 0 rfl) 0 rfl rfl,
      rfl⟩
  obtain ⟨t, trace, state, reached, found, worker, failure, closing, blocked, done, enabled, u,
    more, dropping, dropped⟩ := moved
  obtain ⟨_, _, waited, _, ends, drops⟩ := stream_does_every_command_in_order reached found
  obtain ⟨_, _, _, _, _, every⟩ := (drops s rfl [] u more dropping).2 _ dropped
  refine ⟨t, trace, state, u, more, reached, found, worker, failure, blocked, done,
    (waited 1 enabled).2, fun v later further => ?_, dropping, dropped, every⟩
  obtain ⟨_, _, silent, _⟩ := ends closing v later further
  exact silent

end DeviceArrays

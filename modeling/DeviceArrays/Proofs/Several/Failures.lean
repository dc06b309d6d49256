import DeviceArrays.Proofs.Program.Orderly
import DeviceArrays.Proofs.Queue.Failures
import DeviceArrays.Proofs.Several.Asking

/-!
# Failures surface first and once

Whatever clients share a stream, the failure that it keeps is the first one since somebody last
looked, and nobody is told of a failure that somebody else was told of. A client that has a stream
to itself is told of the first failure among all it submitted since it was last told of one, because
it never looks before everything is done.
-/
namespace DeviceArrays

open Queue (Event Forthright Patient submissions executed performances reports firstFailure
  sinceTaken sinceError earliestFailure)

variable {α : Type} {K : Notes} {w after : World} {i : Nat} {state : StreamState}
  {histories : Nat → List (Event Command Error)} {trace : List Moment}

/-! ### A single client -/

/-- What a client has noted of its newest command and of the stream it has waited for or closed is
so. -/
structure Notes.Timely (K : Notes) (w : World) : Prop where
  newest : ∀ stream n, K.newest = some (stream, n) →
    ∃ state, w.streams[stream]? = some state ∧ state.queue.submitted = n
  settled : ∀ stream, K.settled = some stream →
    ∃ state, w.streams[stream]? = some state ∧ state.queue.Quiet
  closed : ∀ stream, K.closed = some stream →
    ∀ state, w.streams[stream]? = some state → state.queue.closing = true

namespace Notes.Timely

theorem of_none (newest : K.newest = none) (settled : K.settled = none)
    (closed : K.closed = none) : K.Timely w where
  newest stream n noted := by cases newest.symm.trans noted
  settled stream noted := by cases settled.symm.trans noted
  closed stream noted := by cases closed.symm.trans noted

theorem next {action : Action} (timely : K.Timely w) (numbered : w.Numbered)
    (allowed : K.Allows False action) (enabled : action.enabled w = true) :
    (K.next action (action.perform w).1).Timely (action.perform w).2 := by
  cases action with
  | submit stream c =>
    refine ⟨fun other n noted => ?_, (fun _ noted => by cases noted), fun _ noted => by cases noted⟩
    cases found : w.streams[stream]? with
    | none =>
      simp only [Action.perform, found] at noted
      cases noted
    | some state =>
      cases closing : state.queue.closing with
      | true =>
        simp only [Action.perform, found, Queue.submit, closing, if_true] at noted
        cases noted
      | false =>
        rw [World.perform_submit found closing] at noted ⊢
        cases noted
        exact ⟨_, World.stream_onQueue found _, rfl⟩
  | await stream n =>
    refine ⟨fun _ _ noted => (by cases noted), fun other noted => ?_, fun _ noted => by cases noted⟩
    cases noted
    obtain ⟨state, found, same⟩ := timely.newest stream n allowed
    have done : state.queue.submitted ≤ state.queue.completed := by
      simpa [Action.enabled, found, Queue.isDone, same] using enabled
    exact ⟨state, found, (numbered stream state found).quiet_of_done done⟩
  | close stream =>
    refine ⟨fun _ _ noted => (by cases noted), fun _ noted => (by cases noted), fun _ noted => ?_⟩
    cases noted
    intro state there
    obtain ⟨other, _⟩ | ⟨old, _, _, rfl⟩ := World.stream_onQueue_cases there
    · exact absurd rfl other
    · rfl
  | _ => exact .of_none rfl rfl rfl

theorem serve {stream : Nat} (timely : K.Timely w) (served : w.serve stream = some after) :
    K.Timely after where
  newest other n noted := by
    obtain ⟨state, found, same⟩ := timely.newest other n noted
    obtain ⟨next, there, kept, _⟩ := World.advances_serve found served
    exact ⟨next, there, kept.trans same⟩
  settled other noted := by
    obtain ⟨state, found, quiet⟩ := timely.settled other noted
    obtain ⟨_, same⟩ | ⟨queue, s, _, turn, there⟩ := World.stream_of_serve found served
    · exact ⟨state, same, quiet⟩
    · exact ⟨_, there, quiet.turn turn⟩
  closed other noted state there := by
    obtain ⟨_, same⟩ | ⟨old, queue, s, _, found, turn, rfl⟩ :=
      World.stream_serve_cases served there
    · exact timely.closed other noted state same
    · exact turn.closing_eq.trans (timely.closed other noted old found)

end Notes.Timely

/-- A single orderly client goes by notes that are so, and has never looked at a failure before
everything was done. -/
structure Situation.Paced (t : Situation α) (histories : Nat → List (Event Command Error)) : Prop
    where
  recorded : t.world.Recorded histories
  patient : ∀ i, Patient (histories i)
  client : ∃ c K, t.clients = [c] ∧ c.Orderly False K (fun _ _ => True) ∧ K.Timely t.world

theorem World.Recorded.numbered (recorded : w.Recorded histories) : w.Numbered :=
  fun i state found => (recorded.opened i state found).numbered

namespace Situation.Paced

theorem act {action : Action} {next : action.Reply → Client α} {clients : List (Client α)} {j : Nat}
    (paced : Paced ⟨clients, w⟩ histories) (turn : clients[j]? = some (.act action next))
    (enabled : action.enabled w = true) :
    Paced ⟨clients.set j (next (action.perform w).1), (action.perform w).2⟩
      fun i => histories i ++ Moment.events i ⟨w, .client j action⟩ := by
  obtain ⟨recorded, patient, c, K, rfl, orderly, timely⟩ := paced
  cases j with
  | succ j => cases turn
  | zero =>
    cases Option.some.inj turn
    obtain ⟨allowed, later⟩ := orderly
    refine ⟨recorded.act 0 action, fun i => ?_, _, _, rfl, later _,
      timely.next recorded.numbered allowed enabled⟩
    cases found : w.streams[i]? with
    | none => simpa [Moment.events_of_unopened found] using patient i
    | some state =>
      rw [Moment.events_of_found found]
      -- Only a look needs that everything is done, and by the notes it is.
      by_cases looks : action = .takeFailure i
      · subst looks
        obtain ⟨again, there, quiet⟩ := timely.settled i allowed
        cases found.symm.trans there
        have settled := (recorded.opened i state found).toAccounted.settled quiet
        simpa [Action.noted] using (patient i).concat fun _ => settled
      · refine (patient i).append fun e member => Bool.eq_false_iff.mpr fun look => ?_
        exact looks (Action.eq_taken_of_mem_noted member look).1

theorem serve {stream : Nat} {clients : List (Client α)} (paced : Paced ⟨clients, w⟩ histories)
    (served : w.serve stream = some after) :
    Paced ⟨clients, after⟩ fun i => histories i ++ Moment.events i ⟨w, .worker stream⟩ := by
  obtain ⟨recorded, patient, c, K, rfl, orderly, timely⟩ := paced
  refine ⟨recorded.serve served, fun i => ?_, c, K, rfl, orderly, timely.serve served⟩
  exact (patient i).append fun _ member => Moment.isTake_worker member

end Situation.Paced

theorem ReachesBy.paced {start t : Situation α} (h : ReachesBy start t trace)
    (paced : start.Paced histories) : t.Paced fun i => histories i ++ history i trace := by
  induction h with
  | here => simpa [history] using paced
  | client earlier j turn enabled ih => simpa [List.append_assoc] using ih.act turn enabled
  | worker earlier stream served ih => simpa [List.append_assoc] using ih.serve served

theorem Situation.paced_empty {c : Client α} (orderly : c.Orderly False .empty fun _ _ => True) :
    Paced ⟨[c], .empty⟩ fun _ => [] where
  recorded := World.recorded_empty
  patient _ := fun before _ _ _ same => by cases before <;> cases same
  client := ⟨c, .empty, rfl, orderly, .of_none rfl rfl rfl⟩

/-- A client that was let go may be followed by another one. -/
theorem Situation.Paced.follow {β : Type} {t : Situation α} {d : Client β}
    (paced : t.Paced histories) (orderly : d.Orderly False .empty fun _ _ => True) :
    Situation.Paced ⟨[d], t.world⟩ histories where
  recorded := paced.recorded
  patient := paced.patient
  client := ⟨d, .empty, rfl, orderly, .of_none rfl rfl rfl⟩

theorem Stream.Reports.orderly {s : Stream} {call : Call Unit} (reports : s.Reports call) :
    Client.Orderly False call.run K fun _ _ => True := by
  suffices tells : Call.Orderly False call K fun _ _ => True from
    Client.Orderly.mono tells fun _ _ _ _ => trivial
  cases reports with
  | synchronize => exact Stream.orderly_synchronize False.elim
  | launch blocking kernel arguments => exact Stream.orderly_launch False.elim
  | updateHost a bound =>
    exact Call.Orderly.bind (Stream.orderly_copyToHost False.elim) fun _ _ _ _ =>
      Stream.orderly_synchronize False.elim

/-- Every program takes failures only when it has waited for its newest command. -/
theorem Program.orderly_fromNothing (p : Program) :
    p.fromNothing.Orderly False .empty fun _ _ => True :=
  (Client.Orderly.lax (Program.orderly_client Workspace.Known.empty) False.elim).mono
    fun _ _ _ _ => trivial

/-- A kernel that crashes fails its command with an execution error. -/
theorem Command.run_of_crash {kernel : Kernel} {arguments : List Argument} {s : Surroundings}
    {message : Option String} (crashes : kernel.run s.memory arguments = .error (.crash message)) :
    ∃ text, (Command.launch kernel arguments).run s =
      ({ s with memory := kernel.left s.memory arguments },
        some (.device (.execution text))) := by
  refine ⟨s!"launch panicked: {message.getD crashError.defaultCrash}", ?_⟩
  simp only [Command.run, Command.perform, crashes, crashError, Command.left]

/-- Take any state that any clients of a stream can reach. The failure that the stream keeps is that
of the first failing command on which its worker has reported since somebody last looked, and there
is none just if no command was reported to have failed since. Reported is what came of doing the
commands, be it that a kernel has crashed, and at most the one that the worker is at has no report
yet. Looks are `Forthright`: each finds what came of a command that was done, no two find the
failure of the same command, and the first one after a failure finds one.

Let somebody call for a synchronization, for an update of a host store, or for a launch on a stream
that waits for its kernels, next to any others. The call can always go on to its end, where it has
looked once and tells just what it has found, unless the stream was closed and it was refused. If
the caller is the only client and was orderly, as every program is, then everything is done that was
submitted since it was last told of a failure, and it is told of the first failure among that. -/
theorem failures_surface_first_and_once {clients : List (Client α)} {t : Situation α}
    (reached : ReachesBy ⟨clients, .empty⟩ t trace) (found : t.world.streams[i]? = some state) :
    let past := history i trace
    (state.queue.failure = (firstFailure (sinceTaken past)).map Prod.snd ∧
      (state.queue.failure = none ↔ ∀ n e, (n, some e) ∉ reports (sinceTaken past)) ∧
      reports past ++ state.queue.toReport =
        (performances past).map fun (n, _, failure) => (n, failure)) ∧
    (∀ n command failure, (n, command, failure) ∈ performances past →
      ∃ s, (command.run s).2 = failure) ∧
    (∀ kernel arguments message s, kernel.run s.memory arguments = .error (.crash message) →
      ∃ text, (Command.launch kernel arguments).run s =
        ({ s with memory := kernel.left s.memory arguments },
          some (.device (.execution text)))) ∧
    Forthright Command.run past ∧
    (∀ s : Stream, s.number = i → ∀ call, s.Reports call → ∀ others u more,
      ReachesBy ⟨call.run :: others, t.world⟩ u more →
        Forthright Command.run (past ++ history i more) ∧
        (∃ v result, Reaches u v ∧ v.clients[0]? = some (.done result)) ∧
        ∀ result, u.clients[0]? = some (.done result) →
          (result = .error .streamClosed ∧ (∃ client, .closed client ∈ past ++ history i more) ∧
            (others = [] → ∃ client, .closed client ∈ past)) ∨
          ∃ before failure later, history i more = before ++ .taken 0 failure :: later ∧
            Overlooks 0 before ∧ Overlooks 0 later ∧ result = told failure ∧
            ((∃ c, clients = [c] ∧ c.Orderly False .empty fun _ _ => True) → others = [] →
              let since := sinceError (past ++ before)
              executed since = submissions since ∧
                result = told (earliestFailure since))) ∧
    ∀ p : Program, p.fromNothing.Orderly False .empty fun _ _ => True := by
  intro past
  have everywhere := reached.recorded World.recorded_empty
  have recorded : state.queue.Recorded Command.run past := everywhere.opened i state found
  have none_iff : state.queue.failure = none ↔ ∀ n e, (n, some e) ∉ reports (sinceTaken past) := by
    rw [recorded.kept, Option.map_eq_none_iff, Queue.firstFailure_eq_none_iff]
  refine ⟨⟨recorded.kept, none_iff, recorded.reports⟩, recorded.genuine,
    fun _ _ _ _ => Command.run_of_crash, recorded.forthright, ?_, Program.orderly_fromNothing⟩
  rintro s rfl call asked others u more further
  have later := further.recorded everywhere
  have begun : Asking s.number state.queue [] call.run :=
    .underway (asked.asks 0) (Nat.zero_le _) (overlooks_nil 0)
  obtain ⟨d, rest, next, same, there, asking, apart⟩ := further.asking rfl found begun
  have still : Queue.Recorded Command.run next.queue (past ++ history s.number more) :=
    later.opened _ next there
  obtain ⟨left, world⟩ := u
  cases same
  refine ⟨still.forthright, asking.reaches_end there later.numbered, fun result ended => ?_⟩
  cases Option.some.inj ended
  obtain ⟨refused, closing⟩ | ⟨before, failure, rest, looked, first, last, told⟩ := asking.of_done
  · exact .inl ⟨refused, still.closed closing, fun alone =>
      recorded.closed ((apart alone).2 ▸ closing)⟩
  · rw [List.nil_append] at looked
    refine .inr ⟨before, failure, rest, looked, first, last, told, ?_⟩
    rintro ⟨c, rfl, orderly⟩ rfl
    have paced := (reached.paced (Situation.paced_empty orderly)).follow asked.orderly
    have patient : Patient (past ++ history s.number more) :=
      (further.paced paced).patient s.number
    -- The call's own look is one of those that the history has waited for.
    have split : past ++ history s.number more =
        (past ++ before) ++ .taken 0 failure :: rest := by rw [looked, List.append_assoc]
    obtain ⟨done, found⟩ := patient.found still.truthful split
    exact ⟨done, found ▸ told⟩

/-- A kernel that always crashes. -/
def exploding : Kernel := ⟨"exploding", fun _ _ => .error (.crash (some "kernel exploded"))⟩

/-- Opens a device and a stream on it, and submits two commands that have to fail. -/
def failsTwice : Client Unit :=
  .act .openDevice fun _ => .act (.openStream 0) fun _ =>
    .act (.submit 0 (.launch exploding [])) fun _ =>
      .act (.submit 0 (.release ⟨7⟩)) fun _ => .done ()

/-- A synchronization after a kernel has crashed and a release has failed tells of the crash. -/
theorem synchronize_tells_of_crash :
    let s : Stream := ⟨0, ⟨0, ⟨0⟩, .standard⟩, ⟨false, none⟩⟩
    let crash := Command.crashError (some "kernel exploded")
    ∃ t trace u more, ∃ before : List (Event Command Error),
      ReachesBy ⟨[failsTwice], .empty⟩ t trace ∧ ReachesBy ⟨[s.synchronize.run], t.world⟩ u more ∧
        u.clients[0]? = some (.done (.error crash)) ∧
          executed (sinceError before) = submissions (sinceError before) ∧
            earliestFailure (sinceError before) = some crash := by
  intro s crash
  let queue : Queue Command Error :=
    ⟨[(1, .launch exploding []), (2, .release ⟨7⟩)], 2, 0, .idle, none, false⟩
  let w : World := ⟨[.empty], [⟨0, queue⟩], []⟩
  have failed : ∃ t trace, ReachesBy ⟨[failsTwice], .empty⟩ t trace ∧ t.world = w ∧
      history 0 trace = [.submitted 0 1 (.launch exploding []), .submitted 0 2 (.release ⟨7⟩)] :=
    ⟨_, _, .client (.client (.client (.client .here 0 rfl rfl) 0 rfl rfl) 0 rfl rfl) 0 rfl rfl,
      rfl, rfl⟩
  have called : ∃ u more result, ReachesBy ⟨[s.synchronize.run], w⟩ u more ∧
      u.clients[0]? = some (.done result) ∧ result = .error crash :=
    ⟨_, _, _, .client (.client (.worker (.worker (.worker (.worker (.worker (.worker (.worker
      (.worker (.worker (.client .here 0 rfl rfl) 0 rfl) 0 rfl) 0 rfl) 0 rfl) 0 rfl) 0 rfl) 0 rfl)
        0 rfl) 0 rfl) 0 rfl rfl) 0 rfl rfl, rfl, rfl⟩
  obtain ⟨t, trace, reached, there, silent⟩ := failed
  rw [← there] at called
  obtain ⟨u, more, result, further, ended, rfl⟩ := called
  have found : t.world.streams[0]? = some ⟨0, queue⟩ := congrArg (·.streams[0]?) there
  obtain ⟨_, _, _, _, calls, _⟩ := failures_surface_first_and_once reached found
  obtain ⟨_, _, answers⟩ := calls s rfl _ .synchronize [] u more further
  obtain ⟨_, _, closed⟩ | ⟨before, failure, _, _, _, _, _, alone⟩ := answers _ ended
  · obtain ⟨client, member⟩ := closed rfl
    simp [silent] at member
  · have orderly : failsTwice.Orderly False .empty fun _ _ => True :=
      ⟨trivial, fun _ => ⟨trivial, fun _ => ⟨False.elim, fun _ => ⟨False.elim, fun _ => trivial⟩⟩⟩⟩
    obtain ⟨done, told⟩ := alone ⟨failsTwice, rfl, orderly⟩ rfl
    exact ⟨_, trace, u, more, _, reached, further, ended, done, told_eq_error.mp told.symm⟩

end DeviceArrays

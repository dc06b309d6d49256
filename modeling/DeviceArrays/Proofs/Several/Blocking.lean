import DeviceArrays.Proofs.Several.Storage

/-!
# What a blocking launch reports

A launch on a stream that waits for its kernels ends when every command submitted before it is done,
and its own. It then takes the failure that the stream keeps, which is the first one since a failure
was last taken, be it that of the launch or of an earlier command.
-/
namespace DeviceArrays

variable {α : Type}

/-! ### Clients that keep away from a stream -/

/-- Submits nothing to a stream, takes no failure from it and does not close it. -/
def Client.Avoids (stream : Nat) : Client α → Prop
  | .done _ => True
  | .act action next => action.stream? ≠ some stream ∧ ∀ reply, (next reply).Avoids stream

/-! ### One launch -/

/-- Waits until a command is done, and takes the failure that is kept. -/
def awaiting (stream sequence : Nat) : Client (Except Error Unit) :=
  .act (.await stream sequence) fun _ => .act (.takeFailure stream) fun failure =>
    .done (told failure)

/-- Submits a command and waits for it. -/
def submitting (stream : Nat) (c : Command) : Client (Except Error Unit) :=
  .act (.submit stream c) fun
    | some sequence => awaiting stream sequence
    | none => .done (.error .streamClosed)

theorem Stream.run_waitFor (s : Stream) (sequence : Nat) :
    (s.waitFor sequence).run = awaiting s.number sequence := by
  unfold awaiting
  refine congrArg (Client.act _) (funext fun _ => ?_)
  refine congrArg (Client.act _) (funext fun failure => ?_)
  cases failure <;> rfl

theorem Stream.run_launch {s : Stream} (blocking : s.options.blockingLaunches = true)
    (kernel : Kernel) (arguments : List Argument) :
    (s.launch kernel arguments).run = submitting s.number (.launch kernel arguments) := by
  unfold submitting
  refine congrArg (Client.act _) (funext fun reply => ?_)
  cases reply with
  | none => rfl
  | some sequence =>
    have waits : (if s.options.blockingLaunches then s.waitFor sequence else pure ()) =
        s.waitFor sequence := if_pos blocking
    exact (congrArg ExceptT.run waits).trans (s.run_waitFor sequence)

variable {stream : Nat} {c : Command} {start q : Queue Command Error}
  {ran : List (Command × Option Error)}

/-- How far a client is that submits one command and waits for it, on a queue that nobody else
changes: what is left of it, the queue, and the commands that were done meanwhile. -/
inductive Launching (stream : Nat) (c : Command) (start : Queue Command Error) :
    Client (Except Error Unit) → Queue Command Error → List (Command × Option Error) → Prop
  | submitting {q : Queue Command Error} {ran : List (Command × Option Error)}
      (done : start.Ran q ran []) : Launching stream c start (submitting stream c) q ran
  | awaiting {q : Queue Command Error} {ran : List (Command × Option Error)}
      (done : start.Ran q ran [c]) : Launching stream c start (awaiting stream q.submitted) q ran
  | taking {q : Queue Command Error} {ran : List (Command × Option Error)}
      (done : start.Ran q ran [c]) (quiet : q.Quiet) : Launching stream c start
        (.act (.takeFailure stream) fun failure => .done (told failure)) q ran
  | ended {q : Queue Command Error} {ran : List (Command × Option Error)} (quiet : q.Quiet)
      (opened : q.closing = false) (commands : ran.map Prod.fst = start.outstanding ++ [c]) :
      Launching stream c start
        (.done (told (start.reported.or (ran.findSome? Prod.snd)))) q ran

namespace Launching

variable {d : Client (Except Error Unit)} {w : World} {state : StreamState}

/-- The worker goes on with the commands that are left. -/
theorem turn {after : Queue Command Error} {s t : Surroundings}
    (h : Launching stream c start d q ran) (turn : Queue.Turn Command.run q s after t) :
    Launching stream c start d after (ran ++ q.running Command.run s) := by
  have moved := Queue.step_eq_some_iff_turn.mpr turn
  cases h with
  | submitting done => exact .submitting (done.turn turn)
  | awaiting done =>
    rw [← turn.submitted_eq]
    exact .awaiting (done.turn turn)
  | taking done quiet =>
    rw [quiet.step_eq_none done.opened] at moved
    cases moved
  | ended quiet opened commands =>
    rw [quiet.step_eq_none opened] at moved
    cases moved

/-- The client goes on: it submits, it has waited long enough, or it takes the failure. -/
theorem act {action : Action} {next : action.Reply → Client (Except Error Unit)}
    (h : Launching stream c start (.act action next) state.queue ran)
    (found : w.streams[stream]? = some state) (enabled : action.enabled w = true) :
    ∃ queue, (action.perform w).2.streams[stream]? = some { state with queue } ∧
      Launching stream c start (next (action.perform w).1) queue ran := by
  generalize left_eq : Client.act action next = left at h
  generalize queue_eq : state.queue = queue at h
  cases h with
  | submitting done =>
    cases left_eq
    subst queue_eq
    have performed := World.perform_submit found done.opened c
    rw [performed]
    exact ⟨_, World.stream_onQueue found _, .awaiting (done.push c)⟩
  | awaiting done =>
    cases left_eq
    subst queue_eq
    have complete : state.queue.submitted ≤ state.queue.completed := by
      simpa [Action.enabled, found, Queue.isDone] using enabled
    exact ⟨_, found, .taking done (done.numbered.quiet_of_done complete)⟩
  | taking done quiet =>
    cases left_eq
    subst queue_eq
    have performed := World.perform_takeFailure found
    obtain ⟨commands, failure⟩ := done.of_quiet quiet
    rw [performed, failure]
    exact ⟨_, World.stream_onQueue found _, .ended quiet done.opened commands⟩
  | ended quiet opened commands => cases left_eq

/-- At its end the client was told the first failure. -/
theorem of_done {result : Except Error Unit} (h : Launching stream c start (.done result) q ran) :
    ran.map Prod.fst = start.outstanding ++ [c] ∧
      result = told (start.reported.or (ran.findSome? Prod.snd)) := by
  cases h with
  | ended quiet opened commands => exact ⟨commands, rfl⟩

/-- Where the worker rests, the client is not held up. -/
theorem enabled {action : Action} {next : action.Reply → Client (Except Error Unit)}
    (h : Launching stream c start (.act action next) state.queue ran)
    (found : w.streams[stream]? = some state) (rests : state.queue.rests = true) :
    action.enabled w = true := by
  generalize left_eq : Client.act action next = left at h
  generalize queue_eq : state.queue = queue at h
  cases h with
  | submitting done =>
    cases left_eq
    rfl
  | awaiting done =>
    cases left_eq
    subst queue_eq
    have quiet := done.numbered.quiet_of_rests rests
    simp [Action.enabled, found, Queue.isDone, quiet.submitted_eq done.numbered]
  | taking done quiet =>
    cases left_eq
    rfl
  | ended quiet opened commands => cases left_eq

end Launching

/-- Along every schedule in which nobody else changes the queue, the client is somewhere on its way,
and the commands that were done are those of the queue. -/
theorem ReachesRunning.launching {s t : Situation (Except Error Unit)}
    {more : List (Command × Option Error)} (h : ReachesRunning stream s t more)
    {d : Client (Except Error Unit)} {others : List (Client (Except Error Unit))}
    {state : StreamState} (first : s.clients = d :: others)
    (beside : ∀ e ∈ others, e.Avoids stream) (found : s.world.streams[stream]? = some state)
    (phase : Launching stream c start d state.queue ran) :
    ∃ d' others' state', t.clients = d' :: others' ∧ (∀ e ∈ others', e.Avoids stream) ∧
      t.world.streams[stream]? = some state' ∧
        Launching stream c start d' state'.queue (ran ++ more) := by
  induction h with
  | here => exact ⟨d, others, state, first, beside, found, (List.append_nil ran).symm ▸ phase⟩
  | client earlier i turn enabled ih =>
    obtain ⟨d', others', state', rest, beside, found, phase⟩ := ih
    cases rest
    cases i with
    | zero =>
      cases Option.some.inj turn
      obtain ⟨queue, there, phase⟩ := phase.act found enabled
      exact ⟨_, others', _, rfl, beside, there, phase⟩
    | succ i =>
      have turn : others'[i]? = some (.act _ _) := turn
      obtain ⟨avoids, later⟩ := beside _ (List.mem_of_getElem? turn)
      refine ⟨d', _, state', rfl, fun e member => ?_, World.stream_of_avoids found avoids, phase⟩
      obtain old | rfl := List.mem_or_eq_of_mem_set member
      · exact beside e old
      · exact later _
  | @worker clients w after more earlier other served ih =>
    obtain ⟨d', others', state', rest, beside, found, phase⟩ := ih
    obtain ⟨apart, same⟩ | ⟨queue, t, rfl, turn, there⟩ := World.stream_of_serve found served
    · rw [if_neg apart, List.append_nil]
      exact ⟨d', others', state', rest, beside, same, phase⟩
    · have running : w.running other = state'.queue.running Command.run
          (w.surroundings state'.device) := by
        have found : w.streams[other]? = some state' := found
        simp only [World.running, found]
      rw [if_pos rfl, running, ← List.append_assoc]
      exact ⟨d', others', _, rest, beside, there, phase.turn turn⟩

/-- The first client is on its way to launch, and no other changes the queue. -/
def Situation.Launches (stream : Nat) (c : Command) (start : Queue Command Error)
    (t : Situation (Except Error Unit)) : Prop :=
  ∃ d others state ran, t.clients = d :: others ∧ (∀ e ∈ others, e.Avoids stream) ∧
    t.world.streams[stream]? = some state ∧ Launching stream c start d state.queue ran

/-- From every state on its way the client can go on to its end. -/
theorem Launching.reaches_end {d : Client (Except Error Unit)} {w : World} {state : StreamState}
    {others : List (Client (Except Error Unit))}
    (phase : Launching stream c start d state.queue ran)
    (found : w.streams[stream]? = some state) (beside : ∀ e ∈ others, e.Avoids stream) :
    ∃ u result, Reaches ⟨d :: others, w⟩ u ∧ u.clients[0]? = some (.done result) := by
  refine reaches_end_of_free (P := Situation.Launches stream c start) ?_ ?_
    ⟨d, others, state, ran, rfl, beside, found, phase⟩
  · rintro t u ⟨d, others, state, ran, first, beside, found, phase⟩ h
    obtain ⟨more, running⟩ := ReachesRunning.here.of_reaches h
    obtain ⟨d', others', state', rest⟩ := running.launching first beside found phase
    exact ⟨d', others', state', _, rest⟩
  · rintro action next others w ⟨d, rest, state, ran, first, _, found, phase⟩ still
    cases first
    exact phase.enabled found (World.rests_of_still still found)

/-- Take any state that any clients of any streams can reach, and a launch on an open stream that
waits for its kernels, while other clients keep away from that stream. The launch can always go on
to its end. There the worker has done the commands that were outstanding, in order, and then the
launch itself, and the answer is the first failure there is: one that was kept or about to be
reported before, one of an earlier command, or that of the launch. So the launch reports what came
of its own kernel wherever no earlier failure is left to report. -/
theorem blocking_launch_reports_first_failure {clients left : List (Client α)} {w : World}
    (h : Reaches ⟨clients, .empty⟩ ⟨left, w⟩) {s : Stream}
    (blocking : s.options.blockingLaunches = true) {state : StreamState}
    (found : w.streams[s.number]? = some state) (opened : state.queue.closing = false)
    {kernel : Kernel} {arguments : List Argument} {others : List (Client (Except Error Unit))}
    (beside : ∀ d ∈ others, d.Avoids s.number) {t : Situation (Except Error Unit)}
    {ran : List (Command × Option Error)}
    (later : ReachesRunning s.number ⟨(s.launch kernel arguments).run :: others, w⟩ t ran) :
    (∃ u result, Reaches t u ∧ u.clients[0]? = some (.done result)) ∧
      ∀ result, t.clients[0]? = some (.done result) →
        ∃ earlier own, ran = earlier ++ [(.launch kernel arguments, own)] ∧
          earlier.map Prod.fst = state.queue.outstanding ∧
            let first := (state.queue.reported.or (earlier.findSome? Prod.snd)).or own
            (result = .ok () ↔ first = none) ∧ (∀ e, result = .error e ↔ first = some e) ∧
              (state.queue.reported = none → (∀ entry ∈ earlier, entry.2 = none) →
                first = own) := by
  have numbered := h.numbered World.numbered_empty s.number state found
  rw [Stream.run_launch blocking] at later
  obtain ⟨d, rest, state', same, beside, there, phase⟩ := later.launching rfl beside found
    (.submitting (.refl numbered opened))
  obtain ⟨clients, world⟩ := t
  cases same
  refine ⟨phase.reaches_end there beside, fun result ended => ?_⟩
  cases Option.some.inj ended
  rw [List.nil_append] at phase
  obtain ⟨commands, answer⟩ := phase.of_done
  obtain ⟨earlier, last, rfl, before, launched⟩ := List.map_eq_append_iff.mp commands
  obtain ⟨⟨c, own⟩, rfl, rfl⟩ := List.map_eq_singleton_iff.mp launched
  have alone : [(Command.launch kernel arguments, own)].findSome? Prod.snd = own := by
    cases own <;> rfl
  rw [List.findSome?_append, alone, ← Option.or_assoc] at answer
  refine ⟨earlier, own, rfl, before, ?_⟩
  refine ⟨?_, fun e => ?_, fun kept well => ?_⟩
  · rw [answer, told_eq_ok]
  · rw [answer, told_eq_error]
  · rw [kept, List.findSome?_eq_none_iff.mpr well, Option.none_or, Option.none_or]

/-- A client that opens a stream that waits for its kernels, allocates the buffers 1 and 2 of a byte
each, and queues some releases. -/
def queueReleases (buffers : List BufferId) : Call Stream := do
  let device ← Device.create ⟨0⟩ .standard
  let s ← Stream.create device ⟨true, none⟩
  let store ← HostStore.create 1
  let _ ← s.allocate store
  let _ ← s.allocate store
  buffers.forM s.release
  return s

/-- What a kernel is given that fills a buffer of a byte with a one. -/
def oneByte (buffer : BufferId) : List Argument :=
  [.ofType (.signed .w8), .count 1, .buffer buffer, .scalar (.one (.signed .w8))]

/-- A fill of a buffer whose release is still queued reports its own failure. -/
theorem blocking_launch_reports_first_failure_fill :
    let s : Stream := ⟨0, ⟨0, ⟨0⟩, .standard⟩, ⟨true, none⟩⟩
    let fill := ElementwiseKernel.fill.toKernel
    let failure : Error := .useAfterFree "offload_array_fill" ⟨1⟩
    ∃ w t, Reaches ⟨[(queueReleases [⟨1⟩]).run], .empty⟩ ⟨[.done (.ok s)], w⟩ ∧
      ReachesRunning 0 ⟨[(s.launch fill (oneByte ⟨1⟩)).run], w⟩ t
        [(.release ⟨1⟩, none), (.launch fill (oneByte ⟨1⟩), some failure)] ∧
      t.clients[0]? = some (.done (.error failure)) := by
  intro s fill failure
  let queue : Queue Command Error := ⟨[(1, .release ⟨1⟩)], 1, 0, .idle, none, false⟩
  let w : World := ⟨[⟨[some [0], some [0]]⟩], [⟨0, queue⟩], [[0]]⟩
  have queued : Reaches ⟨[(queueReleases [⟨1⟩]).run], .empty⟩ ⟨[.done (.ok s)], w⟩ :=
    .step (.client 0 rfl rfl) (.step (.client 0 rfl rfl) (.step (.client 0 rfl rfl)
      (.step (.client 0 rfl rfl) (.step (.client 0 rfl rfl) (.step (.client 0 rfl rfl)
        (.here _))))))
  have launched : ∃ t ran result,
      ReachesRunning 0 ⟨[(s.launch fill (oneByte ⟨1⟩)).run], w⟩ t ran ∧
        ran = [(.release ⟨1⟩, none)] ++ [(.launch fill (oneByte ⟨1⟩), some failure)] ∧
          t.clients[0]? = some (.done result) :=
    ⟨_, _, _, .client (.client (.worker (.worker (.worker (.worker (.worker (.worker
      (.client .here 0 rfl rfl) 0 rfl) 0 rfl) 0 rfl) 0 rfl) 0 rfl) 0 rfl) 0 rfl rfl) 0 rfl rfl,
      rfl, rfl⟩
  obtain ⟨t, _, result, later, rfl, ended⟩ := launched
  obtain ⟨earlier, own, same, _, _, reports, _⟩ :=
    (blocking_launch_reports_first_failure (s := s) queued rfl rfl rfl
      (fun _ member => by cases member) later).2 result ended
  obtain ⟨rfl, last⟩ := List.append_inj' same rfl
  cases last
  have answer : result = .error failure := (reports failure).mpr rfl
  subst answer
  exact ⟨w, t, queued, later, ended⟩

/-- A fill that goes well reports that a buffer was released twice before it, so what a blocking
launch reports need not be what came of its own kernel. -/
theorem blocking_launch_reports_stale_failure :
    let s : Stream := ⟨0, ⟨0, ⟨0⟩, .standard⟩, ⟨true, none⟩⟩
    let fill := ElementwiseKernel.fill.toKernel
    let stale : Error := .useAfterFree "release" ⟨1⟩
    ∃ w t, Reaches ⟨[(queueReleases [⟨1⟩, ⟨1⟩]).run], .empty⟩ ⟨[.done (.ok s)], w⟩ ∧
      ReachesRunning 0 ⟨[(s.launch fill (oneByte ⟨2⟩)).run], w⟩ t
        [(.release ⟨1⟩, none), (.release ⟨1⟩, some stale), (.launch fill (oneByte ⟨2⟩), none)] ∧
      t.clients[0]? = some (.done (.error stale)) := by
  intro s fill stale
  let queue : Queue Command Error :=
    ⟨[(1, .release ⟨1⟩), (2, .release ⟨1⟩)], 2, 0, .idle, none, false⟩
  let w : World := ⟨[⟨[some [0], some [0]]⟩], [⟨0, queue⟩], [[0]]⟩
  have queued : Reaches ⟨[(queueReleases [⟨1⟩, ⟨1⟩]).run], .empty⟩ ⟨[.done (.ok s)], w⟩ :=
    .step (.client 0 rfl rfl) (.step (.client 0 rfl rfl) (.step (.client 0 rfl rfl)
      (.step (.client 0 rfl rfl) (.step (.client 0 rfl rfl) (.step (.client 0 rfl rfl)
        (.step (.client 0 rfl rfl) (.here _)))))))
  have launched : ∃ t ran,
      ReachesRunning 0 ⟨[(s.launch fill (oneByte ⟨2⟩)).run], w⟩ t ran ∧
        ran = [(.release ⟨1⟩, none), (.release ⟨1⟩, some stale),
          (.launch fill (oneByte ⟨2⟩), none)] ∧
          t.clients[0]? = some (.done (.error stale)) :=
    ⟨_, _, .client (.client (.worker (.worker (.worker (.worker (.worker (.worker (.worker
      (.worker (.worker (.client .here 0 rfl rfl) 0 rfl) 0 rfl) 0 rfl) 0 rfl) 0 rfl) 0 rfl) 0 rfl)
        0 rfl) 0 rfl) 0 rfl rfl) 0 rfl rfl, rfl, rfl⟩
  obtain ⟨t, _, later, rfl, ended⟩ := launched
  exact ⟨w, t, queued, later, ended⟩

end DeviceArrays

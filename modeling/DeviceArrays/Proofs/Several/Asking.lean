import DeviceArrays.DeviceArray.Transfer
import DeviceArrays.Proofs.Several.Blocking
import DeviceArrays.Proofs.Several.Traces

/-!
# Calls that report a failure

A synchronization, an update of a host store, and a launch on a stream that waits for its kernels
all submit their commands, wait for the last one, and look at the failure that is kept. Whatever
other clients do meanwhile, such a call can go on to its end, and there it has looked once and tells
what it has found, unless it was refused because the stream is closed.
-/
namespace DeviceArrays

open Queue (Event)

variable {α : Type} {i : Nat} {w after : World} {state : StreamState}
  {h : List (Event Command Error)}

/-- The calls that report the failure that a stream keeps. -/
inductive Stream.Reports (s : Stream) : Call Unit → Prop
  | synchronize : Reports s s.synchronize
  | launch (blocking : s.options.blockingLaunches = true) (kernel : Kernel)
      (arguments : List Argument) : Reports s (s.launch kernel arguments)
  | updateHost (a : DeviceArray) (bound : a.stream = s) : Reports s a.updateHost

/-- What is left of a call that submits to a stream, waits for commands with numbers up to `n` or
for those it submits itself, and at last looks at the failure that is kept. -/
inductive Client.Asks (i : Nat) : Nat → Client (Except Error Unit) → Prop
  | submit {n : Nat} {c : Command} {next : Option Nat → Client (Except Error Unit)}
      (refused : next none = .done (.error .streamClosed))
      (rest : ∀ m, Asks i m (next (some m))) : Asks i n (.act (.submit i c) next)
  | await {n m : Nat} {next : Unit → Client (Except Error Unit)} (known : m ≤ n)
      (rest : Asks i n (next ())) : Asks i n (.act (.await i m) next)
  | look {n : Nat} : Asks i n (.act (.takeFailure i) fun failure => .done (told failure))

theorem asks_submitting (i n : Nat) (c : Command) : (submitting i c).Asks i n :=
  .submit rfl fun m => .await (Nat.le_refl m) .look

theorem Stream.run_synchronize (s : Stream) : s.synchronize.run = submitting s.number .fence := by
  refine congrArg (Client.act _) (funext fun reply => ?_)
  cases reply with
  | none => rfl
  | some n => exact s.run_waitFor n

theorem DeviceArray.run_updateHost (a : DeviceArray) :
    a.updateHost.run = .act (.submit a.stream.number (.copyToHost a.buffer a.store)) fun
      | some _ => submitting a.stream.number .fence
      | none => .done (.error .streamClosed) := by
  refine congrArg (Client.act _) (funext fun reply => ?_)
  cases reply with
  | none => rfl
  | some n => exact a.stream.run_synchronize

theorem Stream.Reports.asks {s : Stream} {call : Call Unit} (reports : s.Reports call) (n : Nat) :
    Client.Asks s.number n call.run := by
  cases reports with
  | synchronize =>
    rw [s.run_synchronize]
    exact asks_submitting _ _ _
  | launch blocking kernel arguments =>
    rw [Stream.run_launch blocking]
    exact asks_submitting _ _ _
  | updateHost a bound =>
    rw [a.run_updateHost, bound]
    exact .submit rfl fun m => asks_submitting _ _ _

/-! ### What others do to the stream meanwhile -/

/-- More may be submitted to a queue, and it may be closed. -/
structure Queue.Advances {κ ε : Type} (q after : Queue κ ε) : Prop where
  submitted : q.submitted ≤ after.submitted
  closing : q.closing = true → after.closing = true

theorem World.advances_perform (found : w.streams[i]? = some state) (action : Action) :
    ∃ next, (action.perform w).2.streams[i]? = some next ∧ state.queue.Advances next.queue := by
  obtain same | ⟨queue, touched, there⟩ := stream_of_perform found action
  · exact ⟨state, same, Nat.le_refl _, id⟩
  · refine ⟨_, there, ?_⟩
    cases touched with
    | submit opened => exact ⟨Nat.le_succ _, id⟩
    | takeFailure => exact ⟨Nat.le_refl _, id⟩
    | close => exact ⟨Nat.le_refl _, fun _ => rfl⟩

theorem World.advances_serve {stream : Nat} (found : w.streams[i]? = some state)
    (served : w.serve stream = some after) :
    ∃ next, after.streams[i]? = some next ∧ next.queue.submitted = state.queue.submitted ∧
      next.queue.closing = state.queue.closing := by
  obtain ⟨_, same⟩ | ⟨queue, s, _, turn, there⟩ := stream_of_serve found served
  · exact ⟨state, same, rfl, rfl⟩
  · exact ⟨_, there, turn.submitted_eq, turn.closing_eq⟩

/-- The client with this number has not looked at the failure. -/
def Overlooks (j : Nat) (h : List (Event Command Error)) : Prop :=
  ∀ failure, .taken j failure ∉ h

theorem overlooks_nil (j : Nat) : Overlooks j [] := fun _ member => by cases member

theorem Overlooks.append {j : Nat} {k : List (Event Command Error)} (first : Overlooks j h)
    (later : Overlooks j k) : Overlooks j (h ++ k) := fun failure member =>
  (List.mem_append.mp member).elim (first failure) (later failure)

theorem overlooks_noted {j k : Nat} (other : j ≠ k) (q : Queue Command Error) (action : Action) :
    Overlooks j (action.noted i k q) := by
  intro failure member
  obtain ⟨_, same⟩ := Action.eq_taken_of_mem_noted member rfl
  cases same
  exact other rfl

theorem overlooks_worker (i j stream : Nat) (w : World) :
    Overlooks j (Moment.events i ⟨w, .worker stream⟩) := by
  intro failure member
  cases Moment.isTake_worker member

/-! ### One call -/

/-- How far the call of the first client is: it goes on and has not looked yet, it was refused, or
it has looked once and tells what it has found. -/
inductive Asking (i : Nat) (q : Queue Command Error) (h : List (Event Command Error)) :
    Client (Except Error Unit) → Prop
  | underway {n : Nat} {d : Client (Except Error Unit)} (asks : d.Asks i n)
      (known : n ≤ q.submitted) (overlooks : Overlooks 0 h) : Asking i q h d
  | refused (closing : q.closing = true) : Asking i q h (.done (.error .streamClosed))
  | answered {before later : List (Event Command Error)} {failure : Option Error}
      (looked : h = before ++ .taken 0 failure :: later) (first : Overlooks 0 before)
      (last : Overlooks 0 later) : Asking i q h (.done (told failure))

namespace Asking

variable {q queue : Queue Command Error} {d : Client (Except Error Unit)}

/-- Others may go on. -/
theorem mono {more : List (Event Command Error)} (asking : Asking i q h d)
    (advances : q.Advances queue) (overlooks : Overlooks 0 more) :
    Asking i queue (h ++ more) d := by
  cases asking with
  | underway asks known before =>
    exact .underway asks (Nat.le_trans known advances.submitted) (before.append overlooks)
  | refused closing => exact .refused (advances.closing closing)
  | answered looked first last =>
    refine .answered ?_ first (last.append overlooks)
    rw [looked, List.append_assoc, List.cons_append]

/-- The call goes on. It does not close the stream. -/
theorem act {action : Action} {next : action.Reply → Client (Except Error Unit)}
    (asking : Asking i state.queue h (.act action next)) (found : w.streams[i]? = some state) :
    ∃ state', (action.perform w).2.streams[i]? = some state' ∧
      state'.queue.closing = state.queue.closing ∧
        Asking i state'.queue (h ++ action.noted i 0 state.queue) (next (action.perform w).1) := by
  cases asking with
  | underway asks known overlooks =>
    cases asks with
    | @submit _ c _ refused rest =>
      cases closing : state.queue.closing with
      | true =>
        have shut : state.queue.submit c = none := by simp [Queue.submit, closing]
        have answer : (Action.submit i c).perform w = (none, w) := by
          simp only [Action.perform, found, shut]
          rfl
        rw [answer, refused]
        exact ⟨state, found, closing, .refused closing⟩
      | false =>
        rw [World.perform_submit found closing]
        refine ⟨_, World.stream_onQueue found _, closing, ?_⟩
        have noted : (Action.submit i c).noted i 0 state.queue =
            [.submitted 0 (state.queue.submitted + 1) c] := by
          simp [Action.noted, Queue.submit_of_open closing]
        rw [noted]
        exact .underway (rest _) (Nat.le_refl _) (overlooks.append fun _ member => by
          cases List.mem_singleton.mp member)
    | await enough rest =>
      refine ⟨state, found, rfl, ?_⟩
      exact .underway rest known (overlooks.append (overlooks_nil 0))
    | look =>
      rw [World.perform_takeFailure found]
      refine ⟨_, World.stream_onQueue found _, rfl, ?_⟩
      have looked : h ++ (Action.takeFailure i).noted i 0 state.queue =
          h ++ .taken 0 state.queue.failure :: [] := by simp [Action.noted]
      exact .answered looked overlooks (overlooks_nil 0)

/-- At its end the call was refused, or it has looked once. -/
theorem of_done {result : Except Error Unit} (asking : Asking i q h (.done result)) :
    (result = .error .streamClosed ∧ q.closing = true) ∨
      ∃ before failure later, h = before ++ .taken 0 failure :: later ∧ Overlooks 0 before ∧
        Overlooks 0 later ∧ result = told failure := by
  cases asking with
  | underway asks known overlooks => cases asks
  | refused closing => exact .inl ⟨rfl, closing⟩
  | answered looked first last => exact .inr ⟨_, _, _, looked, first, last, rfl⟩

/-- Where the worker rests, the call is not held up. -/
theorem enabled {action : Action} {next : action.Reply → Client (Except Error Unit)}
    (asking : Asking i state.queue h (.act action next)) (found : w.streams[i]? = some state)
    (numbered : state.queue.Numbered) (rests : state.queue.rests = true) :
    action.enabled w = true := by
  cases asking with
  | underway asks known overlooks =>
    cases asks with
    | submit refused rest => rfl
    | await enough rest =>
      have complete := (numbered.quiet_of_rests rests).submitted_eq numbered
      have done := Nat.le_trans enough (complete ▸ known)
      simp [Action.enabled, found, Queue.isDone, done]
    | look => rfl

end Asking

/-- Along every schedule the call is somewhere on its way. Where it is alone, the stream is not
closed meanwhile. -/
theorem ReachesBy.asking {t u : Situation (Except Error Unit)} {more : List Moment}
    {d : Client (Except Error Unit)} {others : List (Client (Except Error Unit))}
    (reached : ReachesBy t u more) (first : t.clients = d :: others)
    (found : t.world.streams[i]? = some state) (asking : Asking i state.queue h d) :
    ∃ d' others' state', u.clients = d' :: others' ∧ u.world.streams[i]? = some state' ∧
      Asking i state'.queue (h ++ history i more) d' ∧
        (others = [] → others' = [] ∧ state'.queue.closing = state.queue.closing) := by
  induction reached with
  | here =>
    refine ⟨d, others, state, first, found, ?_, fun alone => ⟨alone, rfl⟩⟩
    simpa [history] using asking
  | client earlier j turn enabled ih =>
    obtain ⟨d', others', before, rest, there, phase, apart⟩ := ih
    cases rest
    rw [history_append, history_singleton, Moment.events_of_found there, ← List.append_assoc]
    cases j with
    | zero =>
      cases Option.some.inj turn
      obtain ⟨next, again, kept, phase⟩ := phase.act there
      exact ⟨_, others', next, rfl, again, phase, fun alone =>
        ⟨(apart alone).1, kept.trans (apart alone).2⟩⟩
    | succ j =>
      -- Others may do what they like, but they do not look in the name of this client.
      obtain ⟨next, again, advances⟩ := World.advances_perform there _
      refine ⟨d', _, next, rfl, again, phase.mono advances (overlooks_noted (by omega) _ _), ?_⟩
      intro alone
      rw [(apart alone).1] at turn
      cases turn
  | worker earlier stream served ih =>
    obtain ⟨d', others', before, rest, there, phase, apart⟩ := ih
    obtain ⟨next, again, same, kept⟩ := World.advances_serve there served
    rw [history_append, history_singleton, ← List.append_assoc]
    refine ⟨d', others', next, rest, again, phase.mono ⟨same.ge, kept.trans⟩
      (overlooks_worker i 0 stream _), fun alone => ?_⟩
    exact ⟨(apart alone).1, kept.trans (apart alone).2⟩

/-- The call of the first client is on its way. -/
def Situation.Asks (i : Nat) (t : Situation (Except Error Unit)) : Prop :=
  ∃ d others state h, t.clients = d :: others ∧ t.world.streams[i]? = some state ∧
    Asking i state.queue h d ∧ t.world.Numbered

/-- From every state on its way the call can go on to its end. -/
theorem Asking.reaches_end {d : Client (Except Error Unit)}
    {others : List (Client (Except Error Unit))} (asking : Asking i state.queue h d)
    (found : w.streams[i]? = some state) (numbered : w.Numbered) :
    ∃ u result, Reaches ⟨d :: others, w⟩ u ∧ u.clients[0]? = some (.done result) := by
  refine reaches_end_of_free (P := Situation.Asks i) ?_ ?_
    ⟨d, others, state, h, rfl, found, asking, numbered⟩
  · rintro t u ⟨d, others, state, h, first, found, asking, numbered⟩ reaches
    obtain ⟨more, reached⟩ := ReachesBy.here.of_reaches reaches
    obtain ⟨d', others', state', rest, there, asking, _⟩ := reached.asking first found asking
    exact ⟨d', others', state', _, rest, there, asking, reaches.numbered numbered⟩
  · rintro action next others w ⟨d, rest, state, h, first, found, asking, numbered⟩ still
    cases first
    exact asking.enabled found (numbered i state found) (World.rests_of_still still found)

end DeviceArrays

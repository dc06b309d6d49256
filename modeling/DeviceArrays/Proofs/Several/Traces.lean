import DeviceArrays.Proofs.Queue.History
import DeviceArrays.Proofs.Several.Queues

/-!
# Traces

A trace lists the moves of a schedule, each with the world it was made in. What it tells of a stream
is the history of its queue, and along every schedule each queue is what its history says.
-/
namespace DeviceArrays

open Queue (Event Recorded)

variable {α : Type} {i : Nat} {w after : World} {state : StreamState}

/-- Who moves: a client that takes an action, or the worker of a stream. -/
inductive Mover
  | client (j : Nat) (action : Action)
  | worker (stream : Nat)

/-- A move and the world it is made in. -/
structure Moment where
  world : World
  mover : Mover

/-- What some moves lead to, and which moves they are. -/
inductive ReachesBy (start : Situation α) : Situation α → List Moment → Prop
  | here : ReachesBy start start []
  | client {clients : List (Client α)} {w : World} {trace : List Moment} {action : Action}
      {next : action.Reply → Client α} (earlier : ReachesBy start ⟨clients, w⟩ trace) (j : Nat)
      (turn : clients[j]? = some (.act action next)) (enabled : action.enabled w) :
      ReachesBy start ⟨clients.set j (next (action.perform w).1), (action.perform w).2⟩
        (trace ++ [⟨w, .client j action⟩])
  | worker {clients : List (Client α)} {w after : World} {trace : List Moment}
      (earlier : ReachesBy start ⟨clients, w⟩ trace) (stream : Nat)
      (served : w.serve stream = some after) :
      ReachesBy start ⟨clients, after⟩ (trace ++ [⟨w, .worker stream⟩])

namespace ReachesBy

variable {start s t : Situation α} {trace : List Moment}

theorem reaches (h : ReachesBy start t trace) : Reaches start t := by
  induction h with
  | here => exact .here _
  | client _ j turn enabled ih => exact ih.trans (.step (.client j turn enabled) (.here _))
  | worker _ stream served ih => exact ih.trans (.step (.worker stream served) (.here _))

theorem of_reaches (earlier : ReachesBy start s trace) (h : Reaches s t) :
    ∃ more, ReachesBy start t (trace ++ more) := by
  induction h generalizing trace with
  | here => exact ⟨[], (List.append_nil trace).symm ▸ earlier⟩
  | step move later ih =>
    cases move with
    | client j turn enabled =>
      obtain ⟨more, further⟩ := ih (earlier.client j turn enabled)
      exact ⟨_, List.append_assoc trace _ more ▸ further⟩
    | worker stream served =>
      obtain ⟨more, further⟩ := ih (earlier.worker stream served)
      exact ⟨_, List.append_assoc trace _ more ▸ further⟩

end ReachesBy

/-! ### Schedules that are played -/

/-- Whose turn it is. -/
inductive Choice
  | client (j : Nat)
  | worker (stream : Nat)

/-- Lets clients and workers move in the order of the choices. Who cannot move is passed over. -/
def Situation.play (t : Situation α) (trace : List Moment) :
    List Choice → Situation α × List Moment
  | [] => (t, trace)
  | .client j :: rest =>
    match t.clients[j]? with
    | some (.act action next) =>
      if action.enabled t.world then
        let (reply, after) := action.perform t.world
        play ⟨t.clients.set j (next reply), after⟩ (trace ++ [⟨t.world, .client j action⟩]) rest
      else t.play trace rest
    | _ => t.play trace rest
  | .worker stream :: rest =>
    match t.world.serve stream with
    | some after => play ⟨t.clients, after⟩ (trace ++ [⟨t.world, .worker stream⟩]) rest
    | none => t.play trace rest

/-- What is played is one of the schedules. -/
theorem ReachesBy.play {start t : Situation α} {trace : List Moment}
    (h : ReachesBy start t trace) (choices : List Choice) :
    ReachesBy start (t.play trace choices).1 (t.play trace choices).2 := by
  induction choices generalizing t trace with
  | nil => exact h
  | cons choice rest ih =>
    obtain ⟨clients, w⟩ := t
    cases choice with
    | client j =>
      unfold Situation.play
      split
      case h_1 action next turn =>
        split
        case isTrue enabled => exact ih (h.client j turn enabled)
        case isFalse => exact ih h
      case h_2 => exact ih h
    | worker stream =>
      unfold Situation.play
      split
      case h_1 after served => exact ih (h.worker stream served)
      case h_2 => exact ih h

/-! ### Histories of streams -/

/-- What an action of client `j` adds to the history of stream `i`. -/
def Action.noted (i j : Nat) (q : Queue Command Error) : Action → List (Event Command Error)
  | .submit stream c =>
    match q.submit c with
    | some (n, _) => if stream = i then [.submitted j n c] else []
    | none => []
  | .takeFailure stream => if stream = i then [.taken j q.failure] else []
  | .close stream => if stream = i then [.closed j] else []
  | _ => []

/-- What a move adds to the history of stream `i`. -/
def Moment.events (i : Nat) (m : Moment) : List (Event Command Error) :=
  match m.world.streams[i]? with
  | none => []
  | some state =>
    match m.mover with
    | .client j action => action.noted i j state.queue
    | .worker stream =>
      if stream = i then state.queue.marks Command.run (m.world.surroundings state.device) else []

/-- All that has happened to the queue of stream `i`. -/
def history (i : Nat) (trace : List Moment) : List (Event Command Error) :=
  trace.flatMap (Moment.events i)

@[simp] theorem history_append (i : Nat) (trace more : List Moment) :
    history i (trace ++ more) = history i trace ++ history i more := List.flatMap_append

@[simp] theorem history_singleton (i : Nat) (m : Moment) : history i [m] = m.events i := by
  simp [history]

theorem Action.noted_of_avoids {action : Action} (avoids : action.stream? ≠ some i) (j : Nat)
    (q : Queue Command Error) : action.noted i j q = [] := by
  cases action with
  | submit stream c =>
    have other : stream ≠ i := fun same => avoids (congrArg some same)
    simp only [noted, if_neg other]
    cases q.submit c <;> rfl
  | takeFailure stream => exact if_neg fun same => avoids (congrArg some same)
  | close stream => exact if_neg fun same => avoids (congrArg some same)
  | _ => rfl

/-- Only a client that takes the failure of a stream looks at it. -/
theorem Action.eq_taken_of_mem_noted {action : Action} {j : Nat} {q : Queue Command Error}
    {e : Event Command Error} (member : e ∈ action.noted i j q) (look : e.isTake = true) :
    action = .takeFailure i ∧ e = .taken j q.failure := by
  cases action with
  | submit stream c =>
    simp only [noted] at member
    split at member
    case h_1 =>
      split at member
      case isTrue =>
        rw [List.mem_singleton.mp member] at look
        cases look
      case isFalse => cases member
    case h_2 => cases member
  | takeFailure stream =>
    simp only [noted] at member
    split at member
    case isTrue same => exact ⟨congrArg Action.takeFailure same, List.mem_singleton.mp member⟩
    case isFalse => cases member
  | close stream =>
    simp only [noted] at member
    split at member
    case isTrue =>
      rw [List.mem_singleton.mp member] at look
      cases look
    case isFalse => cases member
  | _ => cases member

/-- An action and what it adds to the history change a queue alike. -/
theorem World.recorded_perform {h : List (Event Command Error)}
    (recorded : Recorded Command.run state.queue h) (found : w.streams[i]? = some state)
    (j : Nat) (action : Action) :
    ∃ queue, (action.perform w).2.streams[i]? = some { state with queue } ∧
      Recorded Command.run queue (h ++ action.noted i j state.queue) := by
  by_cases named : action.stream? = some i
  case neg =>
    rw [Action.noted_of_avoids named, List.append_nil]
    exact ⟨state.queue, stream_of_avoids found named, recorded⟩
  case pos =>
    cases action with
    | submit stream c =>
      cases named
      cases closing : state.queue.closing with
      | true =>
        have refused : state.queue.submit c = none := by simp [Queue.submit, closing]
        refine ⟨state.queue, by simp only [Action.perform, found, refused], ?_⟩
        simpa [Action.noted, refused] using recorded
      | false =>
        rw [perform_submit found closing]
        refine ⟨_, stream_onQueue found _, ?_⟩
        simpa [Action.noted, Queue.submit_of_open closing] using recorded.push closing j c
    | takeFailure stream =>
      cases named
      rw [perform_takeFailure found]
      refine ⟨_, stream_onQueue found _, ?_⟩
      simpa [Action.noted] using recorded.takeFailure j
    | close stream =>
      cases named
      refine ⟨_, stream_onQueue found Queue.close, ?_⟩
      simpa [Action.noted] using recorded.close j
    | _ => cases named

theorem Moment.events_of_found (found : w.streams[i]? = some state) (j : Nat) (action : Action) :
    Moment.events i ⟨w, .client j action⟩ = action.noted i j state.queue := by
  simp only [events, found]

theorem Moment.events_of_unopened (unopened : w.streams[i]? = none) (mover : Mover) :
    Moment.events i ⟨w, mover⟩ = [] := by
  simp only [events, unopened]

theorem Moment.events_worker (found : w.streams[i]? = some state) :
    Moment.events i ⟨w, .worker i⟩ =
      state.queue.marks Command.run (w.surroundings state.device) := by
  simp only [events, found, if_true]

theorem Moment.events_other_worker {stream : Nat} (other : stream ≠ i) :
    Moment.events i ⟨w, .worker stream⟩ = [] := by
  unfold events
  cases w.streams[i]? with
  | none => rfl
  | some state => exact if_neg other

theorem Moment.isTake_worker {stream : Nat} {e : Event Command Error}
    (member : e ∈ Moment.events i ⟨w, .worker stream⟩) : e.isTake = false := by
  simp only [events] at member
  split at member
  case h_1 => cases member
  case h_2 state found =>
    split at member
    case isTrue => exact Queue.isTake_marks member
    case isFalse => cases member

/-- Every queue is what its history says, and a stream that was not opened has none. -/
structure World.Recorded (w : World) (histories : Nat → List (Event Command Error)) : Prop where
  opened : ∀ (i : Nat) (state : StreamState), w.streams[i]? = some state →
    state.queue.Recorded Command.run (histories i)
  unopened : ∀ i : Nat, w.streams[i]? = none → histories i = []

namespace World

variable {histories : Nat → List (Event Command Error)}

theorem recorded_empty : World.empty.Recorded fun _ => [] where
  opened _ _ found := by cases found
  unopened _ _ := rfl

theorem Recorded.act (recorded : w.Recorded histories) (j : Nat) (action : Action) :
    (action.perform w).2.Recorded fun i =>
      histories i ++ Moment.events i ⟨w, .client j action⟩ where
  opened i state there := by
    cases found : w.streams[i]? with
    | some old =>
      obtain ⟨queue, again, more⟩ := recorded_perform (recorded.opened i old found) found j action
      cases there.symm.trans again
      rwa [Moment.events_of_found found]
    | none =>
      rw [Moment.events_of_unopened found, recorded.unopened i found]
      obtain same | ⟨_, device, _, rfl⟩ | ⟨old, _, before, _⟩ := stream_cases there
      · cases found.symm.trans same
      · exact Queue.recorded_empty
      · cases found.symm.trans before
  unopened i missing := by
    have outside := List.getElem?_eq_none_iff.mp missing
    have before : w.streams[i]? = none :=
      List.getElem?_eq_none (Nat.le_trans (w.length_streams_perform action) outside)
    rw [Moment.events_of_unopened before, recorded.unopened i before]
    rfl

theorem Recorded.serve {stream : Nat} (recorded : w.Recorded histories)
    (served : w.serve stream = some after) :
    after.Recorded fun i => histories i ++ Moment.events i ⟨w, .worker stream⟩ where
  opened i state there := by
    obtain ⟨other, same⟩ | ⟨old, queue, s, rfl, found, turn, rfl⟩ := stream_serve_cases served there
    · rw [Moment.events_other_worker (Ne.symm other), List.append_nil]
      exact recorded.opened i state same
    · rw [Moment.events_worker found]
      exact (recorded.opened i old found).turn turn
  unopened i missing := by
    have before : w.streams[i]? = none := by
      obtain ⟨old, queue, s, _, _, rfl⟩ := serve_cases served
      simpa [putStream] using missing
    rw [Moment.events_of_unopened before, recorded.unopened i before]
    rfl

end World

/-- Along every schedule each queue is what its history says. -/
theorem ReachesBy.recorded {start t : Situation α} {trace : List Moment}
    {histories : Nat → List (Event Command Error)} (h : ReachesBy start t trace)
    (recorded : start.world.Recorded histories) :
    t.world.Recorded fun i => histories i ++ history i trace := by
  induction h with
  | here => simpa [history] using recorded
  | client earlier j turn enabled ih =>
    simpa [List.append_assoc] using ih.act j _
  | worker earlier stream served ih =>
    simpa [List.append_assoc] using ih.serve served

end DeviceArrays

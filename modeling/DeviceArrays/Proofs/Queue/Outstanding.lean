import DeviceArrays.Queue

/-!
# Outstanding commands

A command is outstanding from its submission until the worker has run it. Every move of a worker is
one of four turns, and only one of them touches the state the commands act on: running the command
it holds, which is the earliest outstanding one. The numbers of a queue tell how far it is.
-/
namespace DeviceArrays

namespace Worker

variable {κ ε : Type}

/-- The number of the command the worker is at. -/
def sequence? : Worker κ ε → Option Nat
  | .idle => none
  | .holding sequence _ => some sequence
  | .finished sequence _ => some sequence
  | .stopped => none

end Worker

namespace Queue

variable {κ ε σ : Type} {run : κ → σ → σ × Option ε}

/-- The commands that were submitted and have not run, the earliest first. -/
def outstanding (q : Queue κ ε) : List κ :=
  match q.worker with
  | .holding _ command => command :: q.pending.map Prod.snd
  | _ => q.pending.map Prod.snd

/-- A queue with one more command at its end. -/
def push (q : Queue κ ε) (command : κ) : Queue κ ε :=
  { q with pending := q.pending ++ [(q.submitted + 1, command)], submitted := q.submitted + 1 }

theorem submit_of_open {q : Queue κ ε} (h : q.closing = false) (command : κ) :
    q.submit command = some (q.submitted + 1, q.push command) := by
  simp [submit, push, h]

@[simp] theorem outstanding_push (q : Queue κ ε) (command : κ) :
    (q.push command).outstanding = q.outstanding ++ [command] := by
  unfold outstanding push
  cases q.worker <;> simp

@[simp] theorem closing_push (q : Queue κ ε) (command : κ) :
    (q.push command).closing = q.closing := rfl

@[simp] theorem submitted_push (q : Queue κ ε) (command : κ) :
    (q.push command).submitted = q.submitted + 1 := rfl

/-- The four turns a worker can take. -/
inductive Turn (run : κ → σ → σ × Option ε) (q : Queue κ ε) (s : σ) : Queue κ ε → σ → Prop
  | fetch {sequence : Nat} {command : κ} {rest : List (Nat × κ)} (idle : q.worker = .idle)
      (next : q.pending = (sequence, command) :: rest) :
      Turn run q s { q with pending := rest, worker := .holding sequence command } s
  | stop (idle : q.worker = .idle) (none_left : q.pending = []) (closing : q.closing = true) :
      Turn run q s { q with worker := .stopped } s
  | perform {sequence : Nat} {command : κ} (holding : q.worker = .holding sequence command) :
      Turn run q s { q with worker := .finished sequence (run command s).2 } (run command s).1
  | report {sequence : Nat} {failure : Option ε}
      (finished : q.worker = .finished sequence failure) :
      Turn run q s { q with
        worker := .idle, completed := sequence, failure := q.failure <|> failure } s

theorem step_eq_some_iff_turn {q after : Queue κ ε} {s t : σ} :
    q.step run s = some (after, t) ↔ Turn run q s after t := by
  constructor
  · intro h
    unfold step at h
    split at h
    case h_1 idle =>
      split at h
      case h_1 sequence command rest next =>
        cases h
        exact .fetch idle next
      case h_2 none_left =>
        split at h
        case isTrue closing =>
          cases h
          exact .stop idle none_left closing
        case isFalse => cases h
    case h_2 sequence command holding =>
      cases h
      exact .perform holding
    case h_3 sequence failure finished =>
      cases h
      exact .report finished
    case h_4 => cases h
  · intro h
    cases h with
    | fetch idle next => simp [step, idle, next]
    | stop idle none_left closing => simp [step, idle, none_left, closing]
    | perform holding => simp [step, holding]
    | report finished => simp [step, finished]

theorem Turn.closing_eq {q after : Queue κ ε} {s t : σ} (h : Turn run q s after t) :
    after.closing = q.closing := by
  cases h <;> rfl

/-- A worker that has ended makes no turn. -/
theorem Turn.not_stopped {q after : Queue κ ε} {s t : σ} (h : Turn run q s after t) :
    q.worker ≠ .stopped := by
  intro ended
  cases h with
  | fetch idle _ => cases idle.symm.trans ended
  | stop idle _ _ => cases idle.symm.trans ended
  | perform holding => cases holding.symm.trans ended
  | report finished => cases finished.symm.trans ended

theorem Turn.submitted_eq {q after : Queue κ ε} {s t : σ} (h : Turn run q s after t) :
    after.submitted = q.submitted := by
  cases h <;> rfl

/-- A turn leaves commands and state alone, or it runs the earliest outstanding command. -/
theorem Turn.outstanding_cases {q after : Queue κ ε} {s t : σ} (h : Turn run q s after t) :
    (after.outstanding = q.outstanding ∧ t = s) ∨
      ∃ command, q.outstanding = command :: after.outstanding ∧ t = (run command s).1 := by
  cases h with
  | fetch idle next => exact .inl ⟨by simp [outstanding, idle, next], rfl⟩
  | stop idle none_left closing => exact .inl ⟨by simp [outstanding, idle], rfl⟩
  | @perform sequence command holding =>
    exact .inr ⟨command, by simp [outstanding, holding], rfl⟩
  | report finished => exact .inl ⟨by simp [outstanding, finished], rfl⟩

theorem Turn.outstanding_sublist {q after : Queue κ ε} {s t : σ} (h : Turn run q s after t) :
    after.outstanding.Sublist q.outstanding := by
  obtain ⟨same, _⟩ | ⟨command, more, _⟩ := h.outstanding_cases
  · exact same ▸ List.Sublist.refl after.outstanding
  · rw [more]
    exact List.sublist_cons_self _ _

/-- The number of the newest command the worker has fetched. -/
def fetched (q : Queue κ ε) : Nat := q.worker.sequence?.getD q.completed

/-- The numbers of a queue fit together: the worker is at the first command that is not done, and
the pending commands follow it without a gap up to the newest one. -/
structure Numbered (q : Queue κ ε) : Prop where
  current : ∀ sequence, q.worker.sequence? = some sequence → sequence = q.completed + 1
  pending : q.pending.map Prod.fst = List.range' (q.fetched + 1) q.pending.length
  submitted : q.submitted = q.fetched + q.pending.length
  stopped : q.worker = .stopped → q.pending = [] ∧ q.closing = true

theorem numbered_empty : (empty : Queue κ ε).Numbered where
  current sequence h := by cases h
  pending := rfl
  submitted := rfl
  stopped h := by cases h

theorem Numbered.push {q : Queue κ ε} (h : q.Numbered) (opened : q.closing = false) (command : κ) :
    (q.push command).Numbered where
  current := h.current
  pending := by
    change (q.pending ++ [(q.submitted + 1, command)]).map Prod.fst =
      List.range' (q.fetched + 1) (q.pending ++ [(q.submitted + 1, command)]).length
    rw [List.map_append, h.pending, List.length_append, List.range'_append.symm]
    simp [h.submitted, Nat.add_right_comm]
  submitted := by
    change q.submitted + 1 = q.fetched + (q.pending ++ [(q.submitted + 1, command)]).length
    rw [h.submitted, List.length_append, List.length_singleton]
    omega
  stopped ended := by simp [(h.stopped ended).2] at opened

theorem Numbered.takeFailure {q : Queue κ ε} (h : q.Numbered) : q.takeFailure.2.Numbered :=
  ⟨h.current, h.pending, h.submitted, h.stopped⟩

theorem Numbered.close {q : Queue κ ε} (h : q.Numbered) : q.close.Numbered :=
  ⟨h.current, h.pending, h.submitted, fun ended => ⟨(h.stopped ended).1, rfl⟩⟩

theorem Numbered.turn {q after : Queue κ ε} {s t : σ} (h : q.Numbered)
    (turn : Turn run q s after t) : after.Numbered := by
  obtain ⟨current, pending, submitted, stopped⟩ := h
  cases turn with
  | @fetch sequence command rest idle next =>
    -- What was the first number after those fetched is the number at work now.
    simp only [fetched, idle, next, Worker.sequence?, Option.getD_none, List.map_cons,
      List.length_cons, List.range'_succ, List.cons.injEq] at pending submitted
    obtain ⟨first, later⟩ := pending
    subst first
    constructor
    case current =>
      intro n same
      cases same
      rfl
    case pending => exact later
    case submitted =>
      simp only [fetched, Worker.sequence?, Option.getD_some]
      omega
    case stopped =>
      intro ended
      cases ended
  | stop idle none_left closing =>
    simp only [fetched, idle, none_left] at pending submitted
    constructor
    case current =>
      intro n same
      cases same
    case pending => simp [none_left]
    case submitted => simpa [fetched, Worker.sequence?, none_left] using submitted
    case stopped => exact fun _ => ⟨none_left, closing⟩
  | perform holding =>
    simp only [fetched, holding, Worker.sequence?] at pending submitted
    constructor
    case current =>
      intro n same
      exact current n (by rw [holding]; exact same)
    case pending => exact pending
    case submitted => exact submitted
    case stopped =>
      intro ended
      cases ended
  | @report sequence failure finished =>
    simp only [fetched, finished, Worker.sequence?] at pending submitted
    constructor
    case current =>
      intro n same
      cases same
    case pending => exact pending
    case submitted => exact submitted
    case stopped =>
      intro ended
      cases ended

/-- Nothing is left to do and nothing is being done. -/
def Quiet (q : Queue κ ε) : Prop := q.pending = [] ∧ q.worker.sequence? = none

theorem Quiet.outstanding_eq_nil {q : Queue κ ε} (h : q.Quiet) : q.outstanding = [] := by
  obtain ⟨none_left, rest⟩ := h
  unfold outstanding
  split
  case h_1 sequence command holding => simp [holding, Worker.sequence?] at rest
  case h_2 => simp [none_left]

theorem Numbered.quiet_of_done {q : Queue κ ε} (h : q.Numbered) (done : q.submitted ≤ q.completed) :
    q.Quiet := by
  have count := h.submitted
  unfold fetched at count
  cases at_work : q.worker.sequence? with
  | some sequence =>
    have ahead := h.current sequence at_work
    rw [at_work, Option.getD_some] at count
    omega
  | none =>
    rw [at_work, Option.getD_none] at count
    exact ⟨List.eq_nil_of_length_eq_zero (by omega), at_work⟩

theorem Quiet.submitted_eq {q : Queue κ ε} (h : q.Quiet) (numbered : q.Numbered) :
    q.submitted = q.completed := by
  have count := numbered.submitted
  rw [fetched, h.2, h.1] at count
  simpa using count

theorem Quiet.step_eq_none {q : Queue κ ε} (h : q.Quiet) (opened : q.closing = false) (s : σ) :
    q.step run s = none := by
  obtain ⟨none_left, rest⟩ := h
  unfold step
  cases at_work : q.worker with
  | idle => simp [none_left, opened]
  | holding sequence command => simp [at_work, Worker.sequence?] at rest
  | finished sequence failure => simp [at_work, Worker.sequence?] at rest
  | stopped => rfl

/-- A queue whose worker has no move has nothing outstanding. -/
theorem Numbered.quiet_of_rests {q : Queue κ ε} (h : q.Numbered) (resting : q.rests = true) :
    q.Quiet := by
  unfold rests at resting
  split at resting
  case h_1 idle =>
    simp only [Bool.and_eq_true, List.isEmpty_iff] at resting
    exact ⟨resting.1, by simp [idle, Worker.sequence?]⟩
  case h_2 => cases resting
  case h_3 => cases resting
  case h_4 stopped => exact ⟨(h.stopped stopped).1, by simp [stopped, Worker.sequence?]⟩

/-- The worker of a closed queue has a move until it has ended. -/
theorem stopped_of_rests {q : Queue κ ε} (resting : q.rests = true) (closing : q.closing = true) :
    q.worker = .stopped := by
  unfold rests at resting
  split at resting
  case h_1 => simp [closing] at resting
  case h_2 => cases resting
  case h_3 => cases resting
  case h_4 stopped => exact stopped

end Queue

end DeviceArrays

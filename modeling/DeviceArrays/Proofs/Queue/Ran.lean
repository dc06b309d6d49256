import DeviceArrays.Proofs.Queue.Drain

/-!
# What a worker has done

The commands that a worker has done and those that are outstanding are together all that were
outstanding before and that were submitted since, in that order. As long as nobody takes it, the
failure that is kept is the first one that any of them has had.
-/
namespace DeviceArrays.Queue

variable {κ ε σ : Type}

/-- The command that the worker is about to do, with what comes of it. -/
def running (run : κ → σ → σ × Option ε) (q : Queue κ ε) (s : σ) : List (κ × Option ε) :=
  match q.worker with
  | .holding _ command => [(command, (run command s).2)]
  | _ => []

/-- The failure that is kept once the worker has reported on the command it has done. -/
def reported (q : Queue κ ε) : Option ε :=
  match q.worker with
  | .finished _ failure => q.failure.or failure
  | _ => q.failure

/-- A turn does nothing, or it does the first outstanding command, whose failure is then the next to
be kept. -/
theorem Turn.reported_cases {run : κ → σ → σ × Option ε} {q after : Queue κ ε} {s t : σ}
    (h : Turn run q s after t) :
    (after.outstanding = q.outstanding ∧ q.running run s = [] ∧ t = s ∧
        after.reported = q.reported) ∨
      ∃ c, q.outstanding = c :: after.outstanding ∧ q.running run s = [(c, (run c s).2)] ∧
        t = (run c s).1 ∧ after.reported = q.reported.or (run c s).2 := by
  cases h with
  | fetch idle next =>
    exact .inl ⟨by simp [outstanding, idle, next], by simp [running, idle], rfl,
      by simp [reported, idle]⟩
  | stop idle none_left closing =>
    exact .inl ⟨by simp [outstanding, idle], by simp [running, idle], rfl,
      by simp [reported, idle]⟩
  | @perform sequence c holding =>
    exact .inr ⟨c, by simp [outstanding, holding], by simp [running, holding], rfl,
      by simp [reported, holding]⟩
  | report finished =>
    exact .inl ⟨by simp [outstanding, finished], by simp [running, finished], rfl,
      by simp [reported, finished]⟩

/-- From one queue the worker has come to another by doing some commands, while no failure was taken
and some more commands were submitted. -/
structure Ran (start q : Queue κ ε) (ran : List (κ × Option ε)) (more : List κ) : Prop where
  numbered : q.Numbered
  opened : q.closing = false
  commands : ran.map Prod.fst ++ q.outstanding = start.outstanding ++ more
  reported : q.reported = start.reported.or (ran.findSome? Prod.snd)

namespace Ran

variable {run : κ → σ → σ × Option ε} {start q after : Queue κ ε} {ran : List (κ × Option ε)}
  {more : List κ} {s t : σ}

theorem refl (numbered : q.Numbered) (opened : q.closing = false) : Ran q q [] [] where
  numbered := numbered
  opened := opened
  commands := (List.append_nil _).symm
  reported := (Option.or_none).symm

theorem push (h : Ran start q ran more) (command : κ) :
    Ran start (q.push command) ran (more ++ [command]) where
  numbered := h.numbered.push h.opened command
  opened := h.opened
  commands := by rw [outstanding_push, ← List.append_assoc, h.commands, List.append_assoc]
  reported := h.reported

theorem turn (h : Ran start q ran more) (turn : Turn run q s after t) :
    Ran start after (ran ++ q.running run s) more := by
  have commands := h.commands
  have reported := h.reported
  refine ⟨h.numbered.turn turn, turn.closing_eq.trans h.opened, ?_, ?_⟩
  · cases turn with
    | fetch idle next => simpa [outstanding, running, idle, next] using commands
    | stop idle none_left closing => simpa [outstanding, running, idle] using commands
    | perform holding => simpa [outstanding, running, holding] using commands
    | report finished => simpa [outstanding, running, finished] using commands
  · cases turn with
    | fetch idle next => simpa [Queue.reported, running, idle] using reported
    | stop idle none_left closing => simpa [Queue.reported, running, idle] using reported
    | @perform sequence command holding =>
      simp only [Queue.reported, holding] at reported
      simp only [Queue.reported, running, holding, reported, List.findSome?_append, Option.or_assoc]
      simp
    | report finished => simpa [Queue.reported, running, finished] using reported

/-- Once every command is done, the failure is kept. -/
theorem of_quiet (h : Ran start q ran more) (quiet : q.Quiet) :
    ran.map Prod.fst = start.outstanding ++ more ∧
      q.failure = start.reported.or (ran.findSome? Prod.snd) := by
  have commands := h.commands
  have reported := h.reported
  rw [quiet.outstanding_eq_nil, List.append_nil] at commands
  have idle := quiet.worker_eq_idle h.numbered h.opened
  simp only [Queue.reported, idle] at reported
  exact ⟨commands, reported⟩

end Ran

end DeviceArrays.Queue

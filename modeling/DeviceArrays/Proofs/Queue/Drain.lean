import DeviceArrays.Proofs.Queue.Outstanding

/-!
# Draining a queue

Draining runs every outstanding command, so what the worker has done already makes no difference to
the outcome. A change of the state that all outstanding commands commute with can be made before or
after draining, and so can the submission of one more command.
-/
namespace DeviceArrays.Queue

variable {κ ε σ : Type} {run : κ → σ → σ × Option ε}

theorem drain_of_turn {q after : Queue κ ε} {s t : σ} (h : Turn run q s after t) :
    q.drain run s = after.drain run t := by
  have moved := step_eq_some_iff_turn.mpr h
  rw [drain]
  split
  case h_1 next u step =>
    rw [moved] at step
    cases step
    rfl
  case h_2 stuck =>
    rw [moved] at stuck
    cases stuck

theorem drain_of_step_eq_none {q : Queue κ ε} {s : σ} (h : q.step run s = none) :
    q.drain run s = (q, s) :=
  drain_of_rests (rests_iff_step_eq_none.mpr h)

theorem closing_drain (q : Queue κ ε) (s : σ) : (q.drain run s).1.closing = q.closing := by
  fun_induction drain run q s with
  | case1 q s after t moved ih => rw [ih, (step_eq_some_iff_turn.mp moved).closing_eq]
  | case2 q s stuck => rfl

theorem submitted_drain (q : Queue κ ε) (s : σ) : (q.drain run s).1.submitted = q.submitted := by
  fun_induction drain run q s with
  | case1 q s after t moved ih => rw [ih, (step_eq_some_iff_turn.mp moved).submitted_eq]
  | case2 q s stuck => rfl

theorem Numbered.drain {q : Queue κ ε} (h : q.Numbered) (s : σ) : (q.drain run s).1.Numbered := by
  fun_induction Queue.drain run q s with
  | case1 q s after t moved ih => exact ih (h.turn (step_eq_some_iff_turn.mp moved))
  | case2 q s stuck => exact h

theorem Numbered.quiet_drain {q : Queue κ ε} (h : q.Numbered) (s : σ) : (q.drain run s).1.Quiet :=
  (h.drain s).quiet_of_rests (rests_drain run q s)

theorem Quiet.drain_eq {q : Queue κ ε} (h : q.Quiet) (opened : q.closing = false) (s : σ) :
    q.drain run s = (q, s) :=
  drain_of_step_eq_none (h.step_eq_none opened s)

/-- What every outstanding command keeps, draining keeps. -/
theorem drain_preserves {P : σ → Prop} {q : Queue κ ε} {s : σ}
    (kept : ∀ command ∈ q.outstanding, ∀ u, P u → P (run command u).1) (h : P s) :
    P (q.drain run s).2 := by
  fun_induction drain run q s with
  | case1 q s after t moved ih =>
    have turn := step_eq_some_iff_turn.mp moved
    refine ih (fun command member => kept command (turn.outstanding_sublist.subset member)) ?_
    obtain ⟨_, same⟩ | ⟨command, more, performed⟩ := turn.outstanding_cases
    · rwa [same]
    · rw [performed]
      exact kept command (by simp [more]) s h
  | case2 q s stuck => exact h

/-- A turn is the same turn after a change of the state that outstanding commands commute with. -/
theorem Turn.commutes {f : σ → σ} {q after : Queue κ ε} {s t : σ} (h : Turn run q s after t)
    (commute : ∀ command ∈ q.outstanding, run command (f s) =
      (f (run command s).1, (run command s).2)) : Turn run q (f s) after (f t) := by
  cases h with
  | fetch idle next => exact .fetch idle next
  | stop idle none_left closing => exact .stop idle none_left closing
  | @perform sequence command holding =>
    have same := commute command (by simp [outstanding, holding])
    have turn : Turn run q (f s) _ _ := .perform holding
    rwa [same] at turn
  | report finished => exact .report finished

theorem drain_commutes {P : σ → Prop} {f : σ → σ} {q : Queue κ ε} {s : σ}
    (kept : ∀ command ∈ q.outstanding, ∀ u, P u → P (run command u).1)
    (commute : ∀ command ∈ q.outstanding, ∀ u, P u → run command (f u) =
      (f (run command u).1, (run command u).2)) (h : P s) :
    q.drain run (f s) = ((q.drain run s).1, f (q.drain run s).2) := by
  fun_induction drain run q s with
  | case1 q s after t moved ih =>
    have turn := step_eq_some_iff_turn.mp moved
    have later {command : κ} (member : command ∈ after.outstanding) : command ∈ q.outstanding :=
      turn.outstanding_sublist.subset member
    rw [drain_of_turn (turn.commutes fun command member => commute command member s h)]
    apply ih
    · exact fun command member => kept command (later member)
    · exact fun command member => commute command (later member)
    · obtain ⟨_, same⟩ | ⟨command, more, performed⟩ := turn.outstanding_cases
      · rwa [same]
      · rw [performed]
        exact kept command (by simp [more]) s h
  | case2 q s stuck => exact drain_of_rests (rests_iff_step_eq_none.mpr stuck)

theorem Turn.push {q after : Queue κ ε} {s t : σ} (h : Turn run q s after t)
    (opened : q.closing = false) (command : κ) :
    Turn run (q.push command) s (after.push command) t := by
  cases h with
  | fetch idle next => exact .fetch idle (by simp [Queue.push, next])
  | stop idle none_left closing => simp [opened] at closing
  | perform holding => exact .perform holding
  | report finished => exact .report finished

/-- Commands that wait already can be done before another one is submitted. -/
theorem drain_push {q : Queue κ ε} (opened : q.closing = false) (command : κ) (s : σ) :
    (q.push command).drain run s =
      ((q.drain run s).1.push command).drain run (q.drain run s).2 := by
  fun_induction drain run q s with
  | case1 q s after t moved ih =>
    have turn := step_eq_some_iff_turn.mp moved
    rw [drain_of_turn (turn.push opened command)]
    exact ih (turn.closing_eq.trans opened)
  | case2 q s stuck => rfl

/-- A queue in which `n` commands were submitted and all went well. -/
def calm (n : Nat) : Queue κ ε where
  pending := []
  submitted := n
  completed := n
  worker := .idle
  failure := none
  closing := false

/-- A queue in which `n` commands were submitted and done, with the failure that is kept. -/
def rested (n : Nat) (failure : Option ε) : Queue κ ε := { calm n with failure }

theorem quiet_rested (n : Nat) (failure : Option ε) : (rested n failure : Queue κ ε).Quiet :=
  ⟨rfl, rfl⟩

theorem Quiet.worker_eq_idle {q : Queue κ ε} (h : q.Quiet) (numbered : q.Numbered)
    (opened : q.closing = false) : q.worker = .idle := by
  have rest := h.2
  cases at_work : q.worker with
  | idle => rfl
  | holding sequence command => simp [at_work, Worker.sequence?] at rest
  | finished sequence failure => simp [at_work, Worker.sequence?] at rest
  | stopped => simp [(numbered.stopped at_work).2] at opened

theorem Quiet.eq_rested {q : Queue κ ε} (h : q.Quiet) (numbered : q.Numbered)
    (opened : q.closing = false) : q = rested q.submitted q.failure := by
  have idle := h.worker_eq_idle numbered opened
  have same := h.submitted_eq numbered
  have none_left := h.1
  cases q
  simp_all [rested, calm]

/-- A command submitted to an idle queue runs at once. -/
theorem drain_push_of_idle {q : Queue κ ε} (idle : q.worker = .idle) (none_left : q.pending = [])
    (opened : q.closing = false) (command : κ) (s : σ) :
    (q.push command).drain run s =
      ({ q with
          submitted := q.submitted + 1
          completed := q.submitted + 1
          failure := q.failure <|> (run command s).2 }, (run command s).1) := by
  have waiting : (q.push command).pending = [(q.submitted + 1, command)] := by
    simp [push, none_left]
  have fetch : Turn run (q.push command) s _ s := .fetch idle waiting
  rw [drain_of_turn fetch, drain_of_turn (.perform rfl), drain_of_turn (.report rfl)]
  cases q
  cases idle
  cases none_left
  refine Quiet.drain_eq ?_ ?_ _
  · exact ⟨rfl, rfl⟩
  · exact opened

theorem drain_push_rested (n : Nat) (failure : Option ε) (command : κ) (s : σ) :
    ((rested n failure).push command).drain run s =
      (rested (n + 1) (failure.or (run command s).2), (run command s).1) := by
  rw [drain_push_of_idle rfl rfl rfl]
  simp [rested, calm]

/-- A failure that is kept stays until it is taken. -/
theorem failure_drain {q : Queue κ ε} {s : σ} {e : ε} (h : q.failure = some e) :
    (q.drain run s).1.failure = some e := by
  fun_induction drain run q s with
  | case1 q s after t moved ih =>
    apply ih
    cases step_eq_some_iff_turn.mp moved with
    | fetch idle next => exact h
    | stop idle none_left closing => exact h
    | perform holding => exact h
    | report finished => simp [h]
  | case2 q s stuck => exact h

/-- Where a queue drains without a failure, none has occurred and none is about to. -/
theorem failure_eq_none_of_drain {q : Queue κ ε} {s : σ}
    (well : (q.drain run s).1.failure = none) : q.failure = none := by
  cases kept : q.failure with
  | none => rfl
  | some e =>
    rw [failure_drain kept] at well
    cases well

theorem finished_well_of_drain {q : Queue κ ε} {s : σ} {sequence : Nat} {failure : Option ε}
    (well : (q.drain run s).1.failure = none) (finished : q.worker = .finished sequence failure) :
    failure = none := by
  rw [drain_of_turn (.report finished)] at well
  have none_kept := failure_eq_none_of_drain well
  simpa [failure_eq_none_of_drain (q := q) (s := s) (by rwa [drain_of_turn (.report finished)])]
    using none_kept

theorem performs_well_of_drain {q : Queue κ ε} {s : σ} {sequence : Nat} {command : κ}
    (well : (q.drain run s).1.failure = none) (holding : q.worker = .holding sequence command) :
    (run command s).2 = none := by
  rw [drain_of_turn (.perform holding)] at well
  exact finished_well_of_drain well rfl

end DeviceArrays.Queue

import DeviceArrays.Proofs.Queue.Outstanding
import Mathlib.Data.List.DropRight

/-!
# Histories of a queue

A history lists what clients and the worker did with a queue: submissions, looks at the failure that
is kept, the commands done, and the reports on them. A queue is at every moment what its history
says: the commands done and those waiting are all that were submitted, in that order and each once,
and the failure that is kept is the first one reported since the last look.
-/
namespace DeviceArrays

/-- Whether the worker has done the command it is at. -/
def Worker.hasRun {κ ε : Type} : Worker κ ε → Bool
  | .finished .. => true
  | _ => false

namespace Queue

/-- What can happen to a queue. Clients and commands are told apart by number. -/
inductive Event (κ ε : Type)
  | submitted (client n : Nat) (command : κ)
  | taken (client : Nat) (failure : Option ε)
  | closed (client : Nat)
  | performed (n : Nat) (command : κ) (failure : Option ε)
  | reported (n : Nat) (failure : Option ε)

namespace Event

variable {κ ε : Type}

def submission? : Event κ ε → Option (Nat × κ)
  | .submitted _ n command => some (n, command)
  | _ => none

def performance? : Event κ ε → Option (Nat × κ × Option ε)
  | .performed n command failure => some (n, command, failure)
  | _ => none

def report? : Event κ ε → Option (Nat × Option ε)
  | .reported n failure => some (n, failure)
  | _ => none

/-- A look at the failure that is kept, whether or not there was one. -/
def isTake : Event κ ε → Bool
  | .taken .. => true
  | _ => false

end Event

section Projections

variable {κ ε : Type}

/-- The commands that were submitted, with their numbers. -/
def submissions (h : List (Event κ ε)) : List (Nat × κ) := h.filterMap Event.submission?

/-- The commands that were done, with what came of them. -/
def performances (h : List (Event κ ε)) : List (Nat × κ × Option ε) :=
  h.filterMap Event.performance?

def executed (h : List (Event κ ε)) : List (Nat × κ) :=
  (performances h).map fun (n, command, _) => (n, command)

/-- The commands that the worker has reported on. -/
def reports (h : List (Event κ ε)) : List (Nat × Option ε) := h.filterMap Event.report?

/-- What has happened since the last look at the failure that is kept. -/
def sinceTaken (h : List (Event κ ε)) : List (Event κ ε) := h.rtakeWhile fun e => !e.isTake

/-- The first failure that was reported, with the number of its command. -/
def firstFailure (h : List (Event κ ε)) : Option (Nat × ε) :=
  (reports h).findSome? fun (n, failure) => failure.map (n, ·)

@[simp] theorem submissions_singleton (e : Event κ ε) :
    submissions [e] = e.submission?.toList := by
  cases e <;> rfl

@[simp] theorem performances_singleton (e : Event κ ε) :
    performances [e] = e.performance?.toList := by
  cases e <;> rfl

@[simp] theorem reports_singleton (e : Event κ ε) : reports [e] = e.report?.toList := by
  cases e <;> rfl

@[simp] theorem submissions_append (h k : List (Event κ ε)) :
    submissions (h ++ k) = submissions h ++ submissions k := List.filterMap_append

@[simp] theorem performances_append (h k : List (Event κ ε)) :
    performances (h ++ k) = performances h ++ performances k := List.filterMap_append

@[simp] theorem executed_append (h k : List (Event κ ε)) :
    executed (h ++ k) = executed h ++ executed k := by
  simp [executed]

@[simp] theorem reports_append (h k : List (Event κ ε)) :
    reports (h ++ k) = reports h ++ reports k := List.filterMap_append

theorem firstFailure_append (h k : List (Event κ ε)) :
    firstFailure (h ++ k) = (firstFailure h).or (firstFailure k) := by
  simp [firstFailure, List.findSome?_append]

theorem firstFailure_singleton (e : Event κ ε) :
    firstFailure [e] = e.report?.bind fun (n, failure) => failure.map (n, ·) := by
  cases h : e.report? <;> simp [firstFailure, h]

theorem sinceTaken_concat (h : List (Event κ ε)) (e : Event κ ε) :
    sinceTaken (h ++ [e]) = if e.isTake then [] else sinceTaken h ++ [e] := by
  cases take : e.isTake <;> simp [sinceTaken, take]

theorem firstFailure_sinceTaken {e : Event κ ε} (other : e.isTake = false) (h : List (Event κ ε)) :
    firstFailure (sinceTaken (h ++ [e])) =
      (firstFailure (sinceTaken h)).or (firstFailure [e]) := by
  rw [sinceTaken_concat, if_neg (by simp [other]), firstFailure_append]

end Projections

/-! ### What a queue and its history agree on -/

variable {κ ε σ : Type} {run : κ → σ → σ × Option ε}

/-- The commands that wait to be done, that which the worker has fetched first. -/
def waiting (q : Queue κ ε) : List (Nat × κ) :=
  match q.worker with
  | .holding n command => (n, command) :: q.pending
  | _ => q.pending

/-- What the worker has still to report. -/
def toReport (q : Queue κ ε) : List (Nat × Option ε) :=
  match q.worker with
  | .finished n failure => [(n, failure)]
  | _ => []

/-- What the worker's next turn adds to the history. -/
def marks (run : κ → σ → σ × Option ε) (q : Queue κ ε) (s : σ) : List (Event κ ε) :=
  match q.worker with
  | .holding n command => [.performed n command (run command s).2]
  | .finished n failure => [.reported n failure]
  | _ => []

theorem submissions_marks (q : Queue κ ε) (s : σ) : submissions (q.marks run s) = [] := by
  unfold marks
  cases q.worker <;> rfl

theorem isTake_marks {q : Queue κ ε} {s : σ} {e : Event κ ε} (member : e ∈ q.marks run s) :
    e.isTake = false := by
  unfold marks at member
  split at member
  case h_1 =>
    rw [List.mem_singleton.mp member]
    rfl
  case h_2 =>
    rw [List.mem_singleton.mp member]
    rfl
  case h_3 => cases member

/-- Every look has found the first failure that was reported since the look before it. -/
def Truthful (h : List (Event κ ε)) : Prop :=
  ∀ before client failure after, h = before ++ .taken client failure :: after →
    failure = (firstFailure (sinceTaken before)).map Prod.snd

/-- The commands of a queue are those that its history accounts for. -/
structure Accounted (run : κ → σ → σ × Option ε) (q : Queue κ ε) (h : List (Event κ ε)) :
    Prop where
  numbered : q.Numbered
  numbers : (submissions h).map Prod.fst = List.range' 1 q.submitted
  commands : executed h ++ q.waiting = submissions h
  genuine : ∀ n command failure, (n, command, failure) ∈ performances h →
    ∃ s, (run command s).2 = failure
  reports : reports h ++ q.toReport = (performances h).map fun (n, _, failure) => (n, failure)
  completed : (Queue.reports h).map Prod.fst = List.range' 1 q.completed
  closed : q.closing = true → ∃ client, .closed client ∈ h

/-- The failure that a queue keeps is the one that its history tells of. -/
structure Surfaced (q : Queue κ ε) (h : List (Event κ ε)) : Prop where
  kept : q.failure = (firstFailure (sinceTaken h)).map Prod.snd
  truthful : Truthful h

/-- A queue is what its history says. -/
structure Recorded (run : κ → σ → σ × Option ε) (q : Queue κ ε) (h : List (Event κ ε)) : Prop
    extends Accounted run q h, Surfaced q h

theorem recorded_empty : Recorded run (empty : Queue κ ε) [] where
  numbered := numbered_empty
  numbers := rfl
  commands := rfl
  genuine _ _ _ member := by cases member
  reports := rfl
  completed := rfl
  closed closing := by cases closing
  kept := rfl
  truthful before _ _ _ same := by cases before <;> cases same

/-- An event in a longer history is the new one, or it stands in the history before. -/
theorem eq_concat_cases {α : Type} {h before after : List α} {e x : α}
    (same : h ++ [e] = before ++ x :: after) :
    (before = h ∧ x = e ∧ after = []) ∨ ∃ rest, h = before ++ x :: rest ∧ after = rest ++ [e] := by
  rcases List.eq_nil_or_concat after with rfl | ⟨rest, last, rfl⟩
  · obtain ⟨rfl, last⟩ := List.append_inj' same rfl
    exact .inl ⟨rfl, (List.cons.inj last).1.symm, rfl⟩
  · rw [List.concat_eq_append, ← List.cons_append, ← List.append_assoc] at same
    obtain ⟨rfl, last⟩ := List.append_inj' same rfl
    rw [(List.cons.inj last).1, List.concat_eq_append]
    exact .inr ⟨rest, rfl, rfl⟩

theorem Truthful.concat {h : List (Event κ ε)} {e : Event κ ε} (truthful : Truthful h)
    (new : ∀ client failure, e = .taken client failure →
      failure = (firstFailure (sinceTaken h)).map Prod.snd) : Truthful (h ++ [e]) := by
  intro before client failure after same
  obtain ⟨rfl, taken, rfl⟩ | ⟨rest, rfl, rfl⟩ := eq_concat_cases same
  · exact new client failure taken.symm
  · exact truthful before client failure rest rfl

variable {q after : Queue κ ε} {h : List (Event κ ε)} {s t : σ}

theorem exists_closed_append {e : Event κ ε} (closed : ∃ client, .closed client ∈ h) :
    ∃ client, .closed client ∈ h ++ [e] := by
  obtain ⟨client, member⟩ := closed
  exact ⟨client, List.mem_append_left _ member⟩

namespace Accounted

theorem push (accounted : Accounted run q h) (opened : q.closing = false) (client : Nat)
    (command : κ) :
    Accounted run (q.push command) (h ++ [.submitted client (q.submitted + 1) command]) where
  numbered := accounted.numbered.push opened command
  numbers := by
    rw [submissions_append, List.map_append, accounted.numbers, submitted_push, List.range'_concat]
    simp [Event.submission?, Nat.add_comm]
  commands := by
    have waits : (q.push command).waiting = q.waiting ++ [(q.submitted + 1, command)] := by
      unfold waiting Queue.push
      cases q.worker <;> rfl
    rw [waits, submissions_append, ← accounted.commands]
    simp [executed, Event.submission?, Event.performance?]
  genuine n c failure member :=
    accounted.genuine n c failure (by simpa [Event.performance?] using member)
  reports := by
    change Queue.reports _ ++ q.toReport = _
    simpa [Event.performance?, Event.report?] using accounted.reports
  completed := by simpa [Queue.push, Event.report?] using accounted.completed
  closed closing := by simp [opened] at closing

/-- What is neither a submission nor the worker's leaves the commands as they are. -/
theorem other (accounted : Accounted run q h) {e : Event κ ε}
    (plain : e.submission? = none ∧ e.performance? = none ∧ e.report? = none)
    {failure : Option ε} {closing : Bool} (numbered : { q with failure, closing }.Numbered)
    (closed : closing = true → ∃ client, .closed client ∈ h ++ [e]) :
    Accounted run { q with failure, closing } (h ++ [e]) where
  numbered := numbered
  numbers := by simpa [plain] using accounted.numbers
  commands := by
    change executed _ ++ q.waiting = _
    simpa [executed, plain] using accounted.commands
  genuine n c failure member := accounted.genuine n c failure (by simpa [plain] using member)
  reports := by
    change Queue.reports _ ++ q.toReport = _
    simpa [plain] using accounted.reports
  completed := by simpa [plain] using accounted.completed
  closed := closed

theorem takeFailure (accounted : Accounted run q h) (client : Nat) :
    Accounted run q.takeFailure.2 (h ++ [.taken client q.failure]) :=
  accounted.other ⟨rfl, rfl, rfl⟩ accounted.numbered.takeFailure fun closing =>
    exists_closed_append (accounted.closed closing)

theorem close (accounted : Accounted run q h) (client : Nat) :
    Accounted run q.close (h ++ [.closed client]) :=
  accounted.other ⟨rfl, rfl, rfl⟩ accounted.numbered.close fun _ => ⟨client, by simp⟩

theorem turn (accounted : Accounted run q h) (turn : Turn run q s after t) :
    Accounted run after (h ++ q.marks run s) := by
  have numbered := accounted.numbered.turn turn
  obtain ⟨before, numbers, commands, genuine, reports, completed, closed⟩ := accounted
  cases turn with
  | fetch idle next =>
    have unmarked : q.marks run s = [] := by simp [marks, idle]
    rw [unmarked, List.append_nil]
    refine ⟨numbered, numbers, ?_, genuine, ?_, completed, closed⟩
    · simpa [waiting, idle, next] using commands
    · simpa [toReport, idle] using reports
  | stop idle none_left closing =>
    have unmarked : q.marks run s = [] := by simp [marks, idle]
    rw [unmarked, List.append_nil]
    refine ⟨numbered, numbers, ?_, genuine, ?_, completed, closed⟩
    · simpa [waiting, idle] using commands
    · simpa [toReport, idle] using reports
  | @perform n command holding =>
    have marked : q.marks run s = [.performed n command (run command s).2] := by
      simp [marks, holding]
    rw [marked]
    refine ⟨numbered, by simpa [Event.submission?] using numbers, ?_, ?_, ?_, ?_, ?_⟩
    · simpa [executed, waiting, holding, Event.performance?, Event.submission?] using commands
    · intro m c failure member
      obtain old | new : (m, c, failure) ∈ performances h ∨
          (m, c, failure) = (n, command, (run command s).2) := by
        simpa [Event.performance?] using member
      · exact genuine m c failure old
      · cases new
        exact ⟨s, rfl⟩
    · simpa [toReport, holding, Event.performance?, Event.report?] using reports
    · simpa [Event.report?] using completed
    · exact fun closing => exists_closed_append (closed closing)
  | @report n failure finished =>
    have marked : q.marks run s = [.reported n failure] := by simp [marks, finished]
    have current : n = q.completed + 1 := before.current n (by simp [finished, Worker.sequence?])
    rw [marked]
    refine ⟨numbered, by simpa [Event.submission?] using numbers, ?_, ?_, ?_, ?_, ?_⟩
    · simpa [executed, waiting, finished, Event.performance?, Event.submission?] using commands
    · simpa [Event.performance?] using genuine
    · simpa [toReport, finished, Event.performance?, Event.report?] using reports
    · rw [reports_append, List.map_append, completed, current, List.range'_concat]
      simp [Event.report?, Nat.add_comm]
    · exact fun closing => exists_closed_append (closed closing)

end Accounted

namespace Accounted

theorem length_reports (accounted : Accounted run q h) :
    (Queue.reports h).length = q.completed := by
  simpa using congrArg List.length accounted.completed

theorem map_executed (accounted : Accounted run q h) :
    (executed h).map Prod.fst = (Queue.reports h ++ q.toReport).map Prod.fst := by
  rw [accounted.reports, executed, List.map_map, List.map_map]
  rfl

/-- What was submitted has been reported on, or it is the command that the worker is at, or it is
pending. The worker reports on a command once it has done it. -/
theorem exists_parts (accounted : Accounted run q h) :
    ∃ finished flight, submissions h = finished ++ flight ++ q.pending ∧
      finished.map Prod.fst = (Queue.reports h).map Prod.fst ∧
      flight.map Prod.fst = q.worker.sequence?.toList ∧
      executed h = finished ++ if q.worker.hasRun then flight else [] := by
  have commands := accounted.commands
  have numbers := accounted.map_executed
  unfold waiting at commands
  unfold toReport at numbers
  cases at_work : q.worker with
  | finished n failure =>
    -- The last command that was done is in flight until it is reported.
    rw [at_work] at commands numbers
    rw [List.map_append] at numbers
    obtain ⟨finished, flight, parts, before, current⟩ := List.map_eq_append_iff.mp numbers
    exact ⟨finished, flight, by rw [← parts, ← commands], before, current, parts⟩
  | holding n command =>
    rw [at_work] at commands numbers
    refine ⟨executed h, [(n, command)], ?_, ?_, rfl, ?_⟩
    · rw [← commands, List.append_assoc, List.singleton_append]
    · simpa using numbers
    · simp [Worker.hasRun]
  | _ =>
    rw [at_work] at commands numbers
    refine ⟨executed h, [], ?_, ?_, rfl, ?_⟩
    · simpa using commands.symm
    · simpa using numbers
    · simp [Worker.hasRun]

/-- The first commands that were submitted are done, as many as the queue counts. -/
theorem take_executed (accounted : Accounted run q h) {n : Nat} (done : n ≤ q.completed) :
    n ≤ (executed h).length ∧ (executed h).take n = (submissions h).take n := by
  have enough : n ≤ (executed h).length := by
    have numbers := congrArg List.length accounted.map_executed
    rw [List.length_map, List.length_map, List.length_append, accounted.length_reports] at numbers
    omega
  refine ⟨enough, ?_⟩
  rw [← accounted.commands, List.take_append_of_le_length enough]

/-- Once nothing waits, everything that was submitted is done. -/
theorem executed_eq (accounted : Accounted run q h) (none_left : q.waiting = []) :
    executed h = submissions h := by
  rw [← accounted.commands, none_left, List.append_nil]

/-- Once the worker has ended, everything that was submitted is done. -/
theorem executed_of_stopped (accounted : Accounted run q h) (stopped : q.worker = .stopped) :
    q.pending = [] ∧ executed h = submissions h := by
  have none_left := (accounted.numbered.stopped stopped).1
  exact ⟨none_left, accounted.executed_eq (by rw [waiting, stopped, none_left])⟩

end Accounted

/-- What is no look and no report leaves the failures as they are. -/
theorem Surfaced.other (surfaced : Surfaced q h) {e : Event κ ε} (plain : e.isTake = false)
    (unreported : e.report? = none) (same : after.failure = q.failure) :
    Surfaced after (h ++ [e]) where
  kept := by
    rw [firstFailure_sinceTaken plain, firstFailure_singleton, unreported, same, surfaced.kept]
    simp
  truthful := surfaced.truthful.concat fun _ _ taken => by
    rw [taken] at plain
    cases plain

theorem Surfaced.takeFailure (surfaced : Surfaced q h) (client : Nat) :
    Surfaced q.takeFailure.2 (h ++ [.taken client q.failure]) where
  kept := by
    rw [sinceTaken_concat]
    rfl
  truthful := surfaced.truthful.concat fun _ _ same => by
    cases same
    exact surfaced.kept

theorem Surfaced.turn (surfaced : Surfaced q h) (turn : Turn run q s after t) :
    Surfaced after (h ++ q.marks run s) := by
  cases turn with
  | fetch idle next =>
    have unmarked : q.marks run s = [] := by simp [marks, idle]
    rw [unmarked, List.append_nil]
    exact ⟨surfaced.kept, surfaced.truthful⟩
  | stop idle none_left closing =>
    have unmarked : q.marks run s = [] := by simp [marks, idle]
    rw [unmarked, List.append_nil]
    exact ⟨surfaced.kept, surfaced.truthful⟩
  | @perform n command holding =>
    have marked : q.marks run s = [.performed n command (run command s).2] := by
      simp [marks, holding]
    rw [marked]
    exact surfaced.other rfl rfl rfl
  | @report n failure finished =>
    have marked : q.marks run s = [.reported n failure] := by simp [marks, finished]
    rw [marked]
    refine ⟨?_, surfaced.truthful.concat fun _ _ same => by cases same⟩
    rw [firstFailure_sinceTaken rfl, firstFailure_singleton]
    change (q.failure <|> failure) = _
    rw [surfaced.kept]
    cases firstFailure (sinceTaken h) with
    | some first => rfl
    | none => cases failure <;> rfl

namespace Recorded

theorem push (recorded : Recorded run q h) (opened : q.closing = false) (client : Nat)
    (command : κ) :
    Recorded run (q.push command) (h ++ [.submitted client (q.submitted + 1) command]) where
  toAccounted := recorded.toAccounted.push opened client command
  toSurfaced := recorded.toSurfaced.other rfl rfl rfl

theorem takeFailure (recorded : Recorded run q h) (client : Nat) :
    Recorded run q.takeFailure.2 (h ++ [.taken client q.failure]) where
  toAccounted := recorded.toAccounted.takeFailure client
  toSurfaced := recorded.toSurfaced.takeFailure client

theorem close (recorded : Recorded run q h) (client : Nat) :
    Recorded run q.close (h ++ [.closed client]) where
  toAccounted := recorded.toAccounted.close client
  toSurfaced := recorded.toSurfaced.other rfl rfl rfl

theorem turn (recorded : Recorded run q h) (turn : Turn run q s after t) :
    Recorded run after (h ++ q.marks run s) where
  toAccounted := recorded.toAccounted.turn turn
  toSurfaced := recorded.toSurfaced.turn turn

end Recorded

end Queue

end DeviceArrays

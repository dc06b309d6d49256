import DeviceArrays.Proofs.Queue.History

/-!
# Failures that are told of

Looks at the failure that a queue keeps find failures of ever later commands, each the first one
since the look before. Where nobody looks before everything is done, a look finds the first failure
among all commands that were submitted since the last failure was found.
-/
namespace DeviceArrays.Queue

variable {κ ε σ : Type} {run : κ → σ → σ × Option ε} {q : Queue κ ε} {h : List (Event κ ε)}

/-! ### One look after another -/

/-- What was before a look does not matter after it. -/
theorem sinceTaken_append_taken (before : List (Event κ ε)) (client : Nat) (failure : Option ε)
    (rest : List (Event κ ε)) :
    sinceTaken (before ++ .taken client failure :: rest) = sinceTaken rest := by
  -- Looking back starts at the end, and so does the induction.
  induction rest using List.reverseRecOn with
  | nil => exact (sinceTaken_concat before _).trans (if_pos rfl)
  | append_singleton rest e ih =>
    rw [← List.cons_append, ← List.append_assoc, sinceTaken_concat, sinceTaken_concat, ih]

theorem sinceTaken_append {rest : List (Event κ ε)} (plain : ∀ e ∈ rest, e.isTake = false)
    (before : List (Event κ ε)) : sinceTaken (before ++ rest) = sinceTaken before ++ rest := by
  induction rest using List.reverseRecOn with
  | nil => simp
  | append_singleton rest e ih =>
    have last : e.isTake = false := plain e (by simp)
    rw [← List.append_assoc, sinceTaken_concat, last,
      ih fun x member => plain x (List.mem_append_left _ member)]
    simp

theorem mem_reports_of_firstFailure {n : Nat} {e : ε} (first : firstFailure h = some (n, e)) :
    (n, some e) ∈ reports h := by
  obtain ⟨⟨m, failure⟩, member, same⟩ := List.exists_of_findSome?_eq_some first
  obtain ⟨_, rfl, same⟩ := Option.map_eq_some_iff.mp same
  cases same
  exact member

theorem firstFailure_eq_none_iff : firstFailure h = none ↔ ∀ n e, (n, some e) ∉ reports h := by
  rw [firstFailure, List.findSome?_eq_none_iff]
  constructor
  · intro well n e member
    cases well _ member
  · rintro well ⟨n, failure⟩ member
    cases failure with
    | none => rfl
    | some e => exact absurd member (well n e)

theorem mem_reports_of_sinceTaken {entry : Nat × Option ε}
    (member : entry ∈ reports (sinceTaken h)) : entry ∈ reports h :=
  ((List.rtakeWhile_suffix _ h).sublist.filterMap Event.report?).subset member

/-- What looks at the failure of a queue find. Each finds the first failure that was reported since
the look before it, which is what came of a command that was done. Two looks never find the failure
of the same command, and the first look after a failure finds one. -/
structure Forthright (run : κ → σ → σ × Option ε) (h : List (Event κ ε)) : Prop where
  first : ∀ before client failure after, h = before ++ .taken client failure :: after →
    failure = (firstFailure (sinceTaken before)).map Prod.snd
  genuine : ∀ before client e after, h = before ++ .taken client (some e) :: after →
    ∃ n command s, firstFailure (sinceTaken before) = some (n, e) ∧
      (n, command, some e) ∈ performances h ∧ (run command s).2 = some e
  once : ∀ before client e between other f after,
    h = before ++ .taken client (some e) :: (between ++ .taken other (some f) :: after) →
      ∃ m n, m < n ∧ firstFailure (sinceTaken before) = some (m, e) ∧
        firstFailure (sinceTaken between) = some (n, f)
  prompt : ∀ before n e between client failure after,
    h = before ++ .reported n (some e) :: (between ++ .taken client failure :: after) →
      (∀ x ∈ between, x.isTake = false) → failure ≠ none

theorem Accounted.mem_performances (accounted : Accounted run q h) {n : Nat} {failure : Option ε}
    (reported : (n, failure) ∈ Queue.reports h) :
    ∃ command s, (n, command, failure) ∈ performances h ∧ (run command s).2 = failure := by
  have known := List.mem_append_left q.toReport reported
  rw [accounted.reports] at known
  obtain ⟨⟨m, command, came⟩, performed, same⟩ := List.mem_map.mp known
  cases same
  obtain ⟨s, ran⟩ := accounted.genuine _ _ _ performed
  exact ⟨command, s, performed, ran⟩

theorem Truthful.exists_source {before after : List (Event κ ε)} {client : Nat} {e : ε}
    (truthful : Truthful h) (same : h = before ++ .taken client (some e) :: after) :
    ∃ n, firstFailure (sinceTaken before) = some (n, e) := by
  obtain ⟨⟨n, f⟩, first, found⟩ :=
    Option.map_eq_some_iff.mp (truthful before client (some e) after same).symm
  cases found
  exact ⟨n, first⟩

/-- Numbers of commands are reported in their order. -/
theorem Accounted.reported_before (accounted : Accounted run q h) {before after : List (Event κ ε)}
    (same : h = before ++ after) {m n : Nat} {e f : Option ε}
    (first : (m, e) ∈ Queue.reports before) (later : (n, f) ∈ Queue.reports after) : m < n := by
  have increasing : ((Queue.reports h).map Prod.fst).Pairwise (· < ·) := by
    rw [accounted.completed]
    exact List.pairwise_lt_range'
  rw [same, reports_append, List.map_append, List.pairwise_append] at increasing
  exact increasing.2.2 m (List.mem_map_of_mem first) n (List.mem_map_of_mem later)

theorem Recorded.forthright (recorded : Recorded run q h) : Forthright run h where
  first := recorded.truthful
  genuine before client e after same := by
    obtain ⟨n, first⟩ := recorded.truthful.exists_source same
    have reported : (n, some e) ∈ Queue.reports h := by
      rw [same, reports_append]
      exact List.mem_append_left _ (mem_reports_of_sinceTaken (mem_reports_of_firstFailure first))
    obtain ⟨command, s, performed, ran⟩ := recorded.toAccounted.mem_performances reported
    exact ⟨n, command, s, first, performed, ran⟩
  once before client e between other f after same := by
    obtain ⟨m, first⟩ := recorded.truthful.exists_source same
    have again : h = (before ++ .taken client (some e) :: between) ++
        .taken other (some f) :: after := by simp [same]
    obtain ⟨n, second⟩ := recorded.truthful.exists_source again
    rw [sinceTaken_append_taken] at second
    refine ⟨m, n, ?_, first, second⟩
    have later : (n, some f) ∈
        Queue.reports (.taken client (some e) :: (between ++ .taken other (some f) :: after)) := by
      rw [← List.singleton_append, reports_append, reports_append]
      exact List.mem_append_right _ (List.mem_append_left _
        (mem_reports_of_sinceTaken (mem_reports_of_firstFailure second)))
    exact recorded.toAccounted.reported_before same
      (mem_reports_of_sinceTaken (mem_reports_of_firstFailure first)) later
  prompt before n e between client failure after same plain none_found := by
    have again : h = (before ++ .reported n (some e) :: between) ++
        .taken client failure :: after := by simp [same]
    have missed := recorded.truthful _ client failure after again
    rw [none_found, eq_comm, Option.map_eq_none_iff, firstFailure_eq_none_iff] at missed
    refine missed n e ?_
    rw [sinceTaken_append (by simpa [Event.isTake] using plain), reports_append,
      ← List.singleton_append, reports_append]
    simp [Event.report?]

/-! ### Looks when everything is done -/

/-- Everything that was submitted is done and reported on. -/
structure Settled (h : List (Event κ ε)) : Prop where
  executed : executed h = submissions h
  reports : reports h = (performances h).map fun (n, _, failure) => (n, failure)

/-- Nobody has looked at the failure that is kept before everything was done. -/
def Patient (h : List (Event κ ε)) : Prop :=
  ∀ before client failure after, h = before ++ .taken client failure :: after → Settled before

/-- A look that found a failure. -/
def Event.isError : Event κ ε → Bool
  | .taken _ failure => failure.isSome
  | _ => false

/-- What has happened since the last look that found a failure. -/
def sinceError (h : List (Event κ ε)) : List (Event κ ε) := h.rtakeWhile fun e => !e.isError

theorem sinceError_concat (h : List (Event κ ε)) (e : Event κ ε) :
    sinceError (h ++ [e]) = if e.isError then [] else sinceError h ++ [e] := by
  cases error : e.isError <;> simp [sinceError, error]

theorem Patient.concat {e : Event κ ε} (patient : Patient h)
    (new : e.isTake = true → Settled h) : Patient (h ++ [e]) := by
  intro before client failure after same
  obtain ⟨rfl, taken, rfl⟩ | ⟨rest, rfl, rfl⟩ := eq_concat_cases same
  · exact new (taken ▸ rfl)
  · exact patient before client failure rest rfl

theorem Patient.append {more : List (Event κ ε)} (patient : Patient h)
    (plain : ∀ e ∈ more, e.isTake = false) : Patient (h ++ more) := by
  induction more using List.reverseRecOn with
  | nil => simpa using patient
  | append_singleton more e ih =>
    have last : e.isTake = false := plain e (by simp)
    rw [← List.append_assoc]
    exact (ih fun x member => plain x (List.mem_append_left _ member)).concat fun look => by
      simp [last] at look

/-- A queue that has nothing to do has nothing to do after a turn. -/
theorem Quiet.turn {after : Queue κ ε} {s t : σ} (quiet : q.Quiet) (turn : Turn run q s after t) :
    after.Quiet := by
  obtain ⟨none_left, resting⟩ := quiet
  cases turn with
  | fetch idle next => simp [none_left] at next
  | stop idle _ closing => exact ⟨none_left, rfl⟩
  | perform holding => simp [holding, Worker.sequence?] at resting
  | report finished => simp [finished, Worker.sequence?] at resting

theorem Accounted.settled (accounted : Accounted run q h) (quiet : q.Quiet) : Settled h := by
  obtain ⟨none_left, resting⟩ := quiet
  have parts := accounted.reports
  have none_waits : q.waiting = [] := by
    unfold waiting
    cases at_work : q.worker <;> simp_all [Worker.sequence?]
  have none_to_report : q.toReport = [] := by
    unfold toReport
    cases at_work : q.worker <;> simp_all [Worker.sequence?]
  rw [none_to_report, List.append_nil] at parts
  exact ⟨accounted.executed_eq none_waits, parts⟩

/-- A stretch between two moments at which everything is done is settled itself. -/
theorem Settled.of_append {before after : List (Event κ ε)} (first : Settled before)
    (whole : Settled (before ++ after)) : Settled after := by
  obtain ⟨executed, reports⟩ := whole
  rw [executed_append, submissions_append, first.executed] at executed
  rw [reports_append, performances_append, List.map_append, first.reports] at reports
  exact ⟨List.append_cancel_left executed, List.append_cancel_left reports⟩

theorem Settled.taken (settled : Settled h) (client : Nat) (failure : Option ε) :
    Settled (h ++ [.taken client failure]) where
  executed := by
    simpa [Queue.executed, Event.performance?, Event.submission?] using settled.executed
  reports := by simpa [Event.performance?, Event.report?] using settled.reports

/-- What was before a failure was found for the last time had all been done. -/
theorem Patient.settled_sinceError (patient : Patient h) (settled : Settled h) :
    Settled (sinceError h) := by
  have parts : h.rdropWhile (fun e => !e.isError) ++ sinceError h = h :=
    List.rdropWhile_append_rtakeWhile
  refine Settled.of_append ?_ (parts ▸ settled)
  -- What is dropped is nothing, or it ends with the look that found the failure.
  rcases List.eq_nil_or_concat (h.rdropWhile fun e => !e.isError) with
    none_found | ⟨before, e, last⟩
  · rw [none_found]
    exact ⟨rfl, rfl⟩
  · have found : e.isError = true := by
      have nonempty : h.rdropWhile (fun e => !e.isError) ≠ [] := by simp [last]
      simpa [last] using List.rdropWhile_last_not _ h nonempty
    rw [List.concat_eq_append] at last
    rw [last, List.append_assoc] at parts
    cases e with
    | taken client failure =>
      rw [last]
      exact (patient before client failure _ parts.symm).taken client failure
    | _ => cases found

/-- Since the last look no other failure was reported than since the last one that found any. -/
theorem Truthful.firstFailure_sinceError (truthful : Truthful h) :
    firstFailure (sinceError h) = firstFailure (sinceTaken h) := by
  induction h using List.reverseRecOn with
  | nil => rfl
  | append_singleton h e ih =>
    have earlier : firstFailure (sinceError h) = firstFailure (sinceTaken h) :=
      ih fun before client failure after same =>
        truthful before client failure (after ++ [e]) (by simp [same])
    cases e with
    | taken client failure =>
      have found := truthful h client failure [] rfl
      rw [sinceError_concat, sinceTaken_concat]
      cases failure with
      | some e => rfl
      | none =>
        -- Nothing had been reported since the look before, so both stretches add nothing.
        have unanswered : firstFailure (sinceTaken h) = none :=
          Option.map_eq_none_iff.mp found.symm
        simp only [Event.isError, Event.isTake, Option.isSome_none, Bool.false_eq_true, if_false,
          if_true, firstFailure_append, earlier, unanswered, firstFailure_singleton]
        rfl
    | _ =>
      rw [sinceError_concat, sinceTaken_concat, if_neg (by simp [Event.isError]),
        if_neg (by simp [Event.isTake]), firstFailure_append, firstFailure_append, earlier]

/-- The failure of the first command done that has failed, whether or not it is reported. -/
def earliestFailure (h : List (Event κ ε)) : Option ε :=
  (performances h).findSome? fun (_, _, failure) => failure

theorem Settled.firstFailure (settled : Settled h) :
    (Queue.firstFailure h).map Prod.snd = earliestFailure h := by
  rw [Queue.firstFailure, earliestFailure, settled.reports, List.findSome?_map]
  induction performances h with
  | nil => rfl
  | cons entry rest ih =>
    obtain ⟨n, command, failure⟩ := entry
    cases failure with
    | some e => rfl
    | none => simpa using ih

/-- A look when everything is done finds the first failure of all that was submitted since the last
failure was found. -/
theorem Patient.found {before after : List (Event κ ε)} {client : Nat} {failure : Option ε}
    (patient : Patient h) (truthful : Truthful h)
    (same : h = before ++ .taken client failure :: after) :
    executed (sinceError before) = submissions (sinceError before) ∧
      failure = earliestFailure (sinceError before) := by
  have earlier : Patient before := fun a c f b here =>
    patient a c f (b ++ .taken client failure :: after) (by simp [same, here])
  have honest : Truthful before := fun a c f b here =>
    truthful a c f (b ++ .taken client failure :: after) (by simp [same, here])
  have settled := earlier.settled_sinceError (patient before client failure after same)
  refine ⟨settled.executed, ?_⟩
  rw [← settled.firstFailure, honest.firstFailure_sinceError]
  exact truthful before client failure after same

end DeviceArrays.Queue

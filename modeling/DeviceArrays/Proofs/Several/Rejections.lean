import DeviceArrays.Proofs.Program.Confined
import DeviceArrays.Proofs.Several.Storage

/-!
# Rejected calls change nothing

An error that is found by a check, or by looking for a kernel that is missing, is found before the
call has acted. What a stream reports of a command that failed is never such an error, as long as
the kernels are those of arrays, so the two cannot be mistaken for one another.
-/
namespace DeviceArrays

variable {α : Type} {w after : World} {stream : Nat} {q : Queue Command Error} {c : Command}
  {s : Surroundings}

/-- The error of a check, or that of a kernel that is not in the library. -/
def Error.IsRejection (e : Error) : Prop :=
  e.IsRefusal ∨ ∃ name, e = .device (.unknownKernel name)

/-- Any buffer and any store may change, by elementwise kernels and copies. -/
def Footprint.anywhere : Footprint := ⟨fun _ => True, fun _ => True, fun e => ¬ e.IsRejection⟩

/-- The client launches elementwise kernels only. -/
def Client.Elementwise (c : Client α) : Prop := c.Confined .anywhere true fun _ _ => True

theorem not_isRejection_ofDevice {work : String} {e : DeviceError} (found : e.IsFound) :
    ¬ (Error.ofDevice work e).IsRejection := by
  rintro (refusal | ⟨name, same⟩)
  · cases e <;> exact refusal
  · cases e with
    | unknownKernel other => exact found
    | _ => cases same

/-- No command that may be submitted fails with a rejection. -/
theorem Command.not_isRejection_of_run (allowed : Footprint.anywhere.AllowsCommand c) {e : Error}
    (failed : (c.run s).2 = some e) : ¬ e.IsRejection := by
  cases performed : c.perform s with
  | ok t => simp [run, performed] at failed
  | error f =>
    have same : f = e := by simpa [run, performed] using failed
    subst same
    cases c with
    | copyToDevice b bytes =>
      cases copied : s.memory.copyIn b bytes with
      | ok m => simp [perform, copied] at performed
      | error e =>
        simp only [perform, copied, Except.error.injEq] at performed
        exact performed ▸ not_isRejection_ofDevice (Memory.isFound_of_copyIn copied)
    | copyToHost b store =>
      cases copied : s.memory.copyOut b store.size with
      | ok bytes => simp [perform, copied] at performed
      | error e =>
        simp only [perform, copied, Except.error.injEq] at performed
        exact performed ▸ not_isRejection_ofDevice (Memory.isFound_of_copyOut copied)
    | launch kernel arguments =>
      obtain ⟨k, rfl, _⟩ := allowed
      cases ran : k.run s.memory arguments with
      | ok m => simp [perform, ElementwiseKernel.toKernel, ran] at performed
      | error fault =>
        simp only [perform, ElementwiseKernel.toKernel, ran] at performed
        cases fault with
        | error e =>
          cases performed
          exact not_isRejection_ofDevice (k.equipped_run s.memory arguments e ran)
        | crash message =>
          cases performed
          rintro (refusal | ⟨name, same⟩)
          · exact refusal
          · cases same
    | release b =>
      cases freed : s.memory.free b with
      | ok m => simp [perform, freed] at performed
      | error e =>
        simp only [perform, freed, Except.error.injEq] at performed
        exact performed ▸ not_isRejection_ofDevice (Memory.isFound_of_free freed)
    | fence => cases performed

/-- No failure that a queue keeps or is about to report is a rejection. -/
structure Queue.Candid (q : Queue Command Error) : Prop where
  kept : ∀ e, q.failure = some e → ¬ e.IsRejection
  finished : ∀ sequence e, q.worker = .finished sequence (some e) → ¬ e.IsRejection
  outstanding : ∀ c ∈ q.outstanding, Footprint.anywhere.AllowsCommand c

namespace Queue.Candid

theorem empty : Candid .empty where
  kept _ kept := by cases kept
  finished _ _ finished := by cases finished
  outstanding _ member := by cases member

theorem turn (candid : q.Candid) {t : Surroundings} {queue : Queue Command Error}
    (h : Queue.Turn Command.run q s queue t) : queue.Candid := by
  have later : ∀ c ∈ queue.outstanding, Footprint.anywhere.AllowsCommand c := fun c member =>
    candid.outstanding c (h.outstanding_sublist.subset member)
  cases h with
  | fetch idle next => exact ⟨candid.kept, (fun _ _ finished => by cases finished), later⟩
  | stop idle none_left closing =>
    exact ⟨candid.kept, (fun _ _ finished => by cases finished), later⟩
  | @perform sequence command holding =>
    refine ⟨candid.kept, fun n e finished => ?_, later⟩
    have allowed := candid.outstanding command (by simp [Queue.outstanding, holding])
    obtain ⟨_, failed⟩ := Worker.finished.inj finished
    exact Command.not_isRejection_of_run allowed failed
  | @report sequence failure finished =>
    refine ⟨fun e kept => ?_, (fun _ _ finished => by cases finished), later⟩
    cases old : q.failure with
    | some f => exact candid.kept e (by simpa [old] using kept)
    | none =>
      have new : failure = some e := by simpa [old] using kept
      exact candid.finished sequence e (new ▸ finished)

theorem touched (candid : q.Candid) {action : Action} {queue : Queue Command Error}
    (h : Action.Touches stream q action queue) (allowed : Footprint.anywhere.Allows action) :
    Candid queue := by
  cases h with
  | submit opened =>
    refine ⟨candid.kept, candid.finished, fun c member => ?_⟩
    rw [Queue.outstanding_push] at member
    obtain old | new := List.mem_append.mp member
    · exact candid.outstanding c old
    · cases List.mem_singleton.mp new
      exact allowed
  | takeFailure => exact ⟨(fun _ kept => by cases kept), candid.finished, candid.outstanding⟩
  | close => exact ⟨candid.kept, candid.finished, candid.outstanding⟩

end Queue.Candid

def World.Candid (w : World) : Prop :=
  ∀ (i : Nat) (state : StreamState), w.streams[i]? = some state → state.queue.Candid

namespace World.Candid

theorem serve (candid : w.Candid) (served : w.serve stream = some after) : after.Candid := by
  intro i state there
  obtain ⟨_, same⟩ | ⟨old, queue, s, _, found, turn, rfl⟩ := stream_serve_cases served there
  · exact candid i state same
  · exact (candid i old found).turn turn

theorem act {action : Action} (candid : w.Candid) (allowed : Footprint.anywhere.Allows action) :
    Footprint.anywhere.Promises action (action.perform w).1 ∧ (action.perform w).2.Candid := by
  refine ⟨?_, fun i state there => ?_⟩
  · cases action with
    | takeFailure stream =>
      cases found : w.streams[stream]? with
      | none =>
        simp only [Action.perform, found, Footprint.Promises]
        exact fun _ kept => by cases kept
      | some state =>
        simp only [Action.perform, found, Footprint.Promises]
        exact (candid stream state found).kept
    | _ => exact trivial
  · obtain same | ⟨_, _, _, rfl⟩ | ⟨old, queue, found, touched, rfl⟩ := stream_cases there
    · exact candid i state same
    · exact .empty
    · exact (candid i old found).touched touched allowed

end World.Candid

theorem World.candid_empty : World.empty.Candid := fun _ _ found => by cases found

/-- Along every schedule of confined clients the failures of streams stay what they are, and every
client ends as it should. -/
theorem reaches_candid {start t : Situation α} (h : Reaches start t) {Q : Nat → α → Bool → Prop}
    (each : ∀ (i : Nat) (c : Client α), start.clients[i]? = some c →
      c.Confined .anywhere true (Q i)) (candid : start.world.Candid) :
    (∀ (i : Nat) (c : Client α), t.clients[i]? = some c → c.Confined .anywhere true (Q i)) ∧
      t.world.Candid := by
  induction h with
  | here => exact ⟨each, candid⟩
  | step move later ih =>
    cases move with
    | @client clients w action next i turn enabled =>
      obtain ⟨allowed, rest⟩ := each i _ turn
      obtain ⟨promised, kept⟩ := candid.act allowed
      refine ih (fun j c found => ?_) kept
      by_cases same : j = i
      · subst same
        have inside := (List.getElem?_eq_some_iff.mp turn).1
        have first : next (action.perform w).1 = c := by simpa [inside] using found
        exact first ▸ rest _ promised
      · rw [List.getElem?_set_ne (Ne.symm same)] at found
        exact each j c found
    | worker stream served => exact ih each (candid.serve served)

/-- A client that has come to its end does not move any more. -/
theorem Reaches.tail_of_done {a : α} {others : List (Client α)} {t : Situation α}
    (h : Reaches ⟨.done a :: others, w⟩ t) :
    ∃ rest, t.clients = .done a :: rest ∧ Reaches ⟨others, w⟩ ⟨rest, t.world⟩ := by
  generalize begin_eq : (⟨.done a :: others, w⟩ : Situation α) = start at h
  induction h generalizing others w with
  | here =>
    subst begin_eq
    exact ⟨others, rfl, .here _⟩
  | step move later ih =>
    subst begin_eq
    cases move with
    | client i turn enabled =>
      cases i with
      | zero => simp at turn
      | succ i =>
        obtain ⟨rest, same, reached⟩ := ih rfl
        exact ⟨rest, same, .step (.client i (by simpa using turn) enabled) reached⟩
    | worker stream served =>
      obtain ⟨rest, same, reached⟩ := ih rfl
      exact ⟨rest, same, .step (.worker stream served) reached⟩

/-- Where nobody has a move left, nothing changes. -/
theorem Reaches.eq_of_still {t : Situation α} (h : Reaches ⟨[], w⟩ t)
    (still : ∀ stream, w.serve stream = none) : t = ⟨[], w⟩ := by
  cases h with
  | here => rfl
  | step move later =>
    cases move with
    | client i turn enabled => simp at turn
    | worker stream served => simp [still] at served

/-- Where it makes no difference whether the client has acted, it may have done so before. -/
theorem Client.Confined.of_any {c : Client α} {F : Footprint} {before now : Bool} {Q : α → Prop}
    (h : c.Confined F before fun a _ => Q a) : c.Confined F now fun a _ => Q a := by
  cases c with
  | done a => exact h
  | act action next => exact h

/-- Every device that a program opens has elementwise kernels only. -/
def Program.Elementwise : Program → Prop
  | .done => True
  | .call request next => request.Elementwise ∧ ∀ reply, (next reply).Elementwise

theorem Request.fits_anywhere (request : Request) (ws : Workspace) : request.Fits ws .anywhere :=
  ⟨fun _ _ => trivial, fun _ _ => trivial, fun _ _ => trivial, fun _ _ _ _ _ _ _ _ => .inl trivial⟩

/-- Programs of array calls launch elementwise kernels only, and get no others into scope. -/
theorem Program.confined_client {p : Program} (known : p.Elementwise) {ws : Workspace}
    (elementwise : ws.Elementwise) (log : List (Request × Option Reply)) :
    (p.client ws log).Confined .anywhere true fun outcome _ => outcome.workspace.Elementwise := by
  induction p generalizing ws log with
  | done => exact elementwise
  | call request next ih =>
    unfold client
    cases performed : request.perform ws with
    | none => exact ih none (known.2 none) elementwise _
    | some work =>
      have confined := request.confined_perform elementwise (request.fits_anywhere ws) performed
      have libraries : (work.recording ws.issued).Confined .anywhere true
          fun result _ => result.1.2.Elementwise :=
        (confined.recording.mono fun _ _ closes => closes.elementwise known.1).of_any
      refine Client.Confined.bind (libraries.mono ?_)
      rintro ⟨⟨reply, after⟩, issued⟩ acted library
      have same : { after with issued }.Elementwise :=
        ⟨library.devices, library.streams, library.arrays⟩
      exact (ih (some reply) (known.2 (some reply)) same _).of_any

theorem Workspace.elementwise_empty : empty.Elementwise where
  devices _ member := by cases member
  streams i _ found := by simp [stream?, empty] at found
  arrays i _ found := by simp [array?, empty] at found

/-- What holds of the clients of a situation holds of the only one. -/
theorem each_of_alone {c : Client α} {P : Client α → Prop} (h : P c) (i : Nat) (d : Client α)
    (found : [c][i]? = some d) : P d := by
  obtain ⟨_, rfl⟩ := turn_alone found
  exact h

/-- A late error is no rejection. -/
theorem Footprint.not_isRejection_of_late {e : Error} (late : anywhere.Late e) :
    ¬ e.IsRejection := by
  obtain rfl | failed := late
  · rintro (refusal | ⟨name, same⟩)
    · exact refusal
    · cases same
  · exact failed

/-- In whatever state clients of any devices and streams have brought the world, and whatever other
clients and the workers do meanwhile: where a call that makes its checks first ends with a
rejection, it has ended without an action of its own, so nothing was submitted, allocated or written
and no failure was taken. What is in scope is what it was before, but for a view that was to be
released, and the world is where the others alone have brought it; where they have nothing to do it
is what it was. Any kernel may be missing from a library. -/
theorem rejected_calls_change_nothing {clients left : List (Client α)} {w : World}
    (elementwise : ∀ c ∈ clients, c.Elementwise) (h : Reaches ⟨clients, .empty⟩ ⟨left, w⟩)
    {ws : Workspace} (libraries : ws.Elementwise) {request : Request}
    (first : request.checksFirst = true) {c : Client (Reply × Workspace)}
    (performed : request.perform ws = some c) {others : List (Client (Reply × Workspace))}
    (beside : ∀ c ∈ others, c.Elementwise) {t : Situation (Reply × Workspace)}
    (later : Reaches ⟨c :: others, w⟩ t) {e : Error} {after : Workspace}
    (ended : t.clients[0]? = some (.done (.error e, after))) (rejected : e.IsRejection) :
    c = .done (.error e, after) ∧ after = request.leaves ws ∧
      (∃ rest, t.clients = c :: rest ∧ Reaches ⟨others, w⟩ ⟨rest, t.world⟩) ∧
        (others = [] → (∀ stream, w.serve stream = none) → t.world = w) := by
  obtain ⟨_, candid⟩ := reaches_candid (Q := fun _ _ _ => True) h
    (fun i d found => elementwise d (List.mem_of_getElem? found)) World.candid_empty
  have confined := request.confined_perform libraries (request.fits_anywhere ws) performed
  cases c with
  | act action next =>
    -- A call that acts has acted when it ends, and then its error would be a late one.
    obtain ⟨ends, _⟩ := reaches_candid later
      (Q := fun i result acted => i = 0 → request.Closes .anywhere ws result.1 result.2 acted)
      (fun i d found => by
        cases i with
        | zero =>
          cases found
          exact Client.Confined.mono ⟨confined.1, confined.2⟩ fun _ _ closes _ => closes
        | succ i =>
          have listed := beside d (List.mem_of_getElem? (by simpa using found))
          exact listed.mono fun _ _ _ zero => absurd zero (Nat.succ_ne_zero i)) candid
    have closes : request.Closes .anywhere ws (.error e) after true := ends 0 _ ended rfl
    obtain acted | failed := closes.early e rfl first
    · cases acted
    · exact absurd rejected (Footprint.not_isRejection_of_late failed)
  | done result =>
    obtain ⟨rest, same, reached⟩ := later.tail_of_done
    have result_eq : result = (.error e, after) := by simpa [same] using ended
    subst result_eq
    have closes : request.Closes .anywhere ws (.error e) after false := confined
    refine ⟨rfl, closes.failed e rfl, ⟨rest, same, reached⟩, fun none_beside still => ?_⟩
    subst none_beside
    exact congrArg Situation.world (reached.eq_of_still still)

/-- The magnitudes of an array whose fill has not been done, on a device that cannot take them. -/
theorem rejected_calls_change_nothing_abs :
    let p : Program := .call (.openDevice ⟨0⟩ ⟨"fill", [ElementwiseKernel.fill.toKernel]⟩) fun _ =>
      .call (.openStream 0 ⟨false, none⟩) fun _ =>
        .call (.build [2] (.signed .w32) .rowMajor (some 0) (some 0)) fun _ =>
          .call (.one 0) fun _ => .done
    ∃ outcome w c, Reaches ⟨[p.fromNothing], .empty⟩ ⟨[.done outcome], w⟩ ∧ w.busy = [0] ∧
      (Request.abs 0).perform outcome.workspace = some c ∧
        c = .done (.error (.device (.unknownKernel "offload_array_abs")), outcome.workspace) := by
  intro p
  have known : p.Elementwise := by
    refine ⟨fun c member => ?_, fun _ => ⟨trivial, fun _ => ⟨trivial, fun _ =>
      ⟨trivial, fun _ => trivial⟩⟩⟩⟩
    exact ⟨.fill, List.mem_singleton.mp member⟩
  have reached : ∃ outcome w c,
      Reaches ⟨[p.fromNothing], .empty⟩ ⟨[.done outcome], w⟩ ∧ w.busy = [0] ∧
        (Request.abs 0).perform outcome.workspace = some c ∧
          ∃ t e after, Reaches ⟨[c], w⟩ t ∧ t.clients[0]? = some (.done (.error e, after)) ∧
            e = .device (.unknownKernel "offload_array_abs") :=
    ⟨_, _, _, .step (.client 0 rfl rfl) (.step (.client 0 rfl rfl) (.step (.client 0 rfl rfl)
      (.step (.client 0 rfl rfl) (.step (.client 0 rfl rfl) (.here _))))), rfl, rfl,
      _, _, _, .here _, rfl, rfl⟩
  obtain ⟨outcome, w, c, h, busy, performed, t, e, after, later, ended, missing⟩ := reached
  have confined := Program.confined_client known Workspace.elementwise_empty []
  have elementwise : ∀ c ∈ [p.fromNothing], c.Elementwise := fun c member =>
    List.mem_singleton.mp member ▸ confined.mono fun _ _ _ => trivial
  have libraries : outcome.workspace.Elementwise :=
    (reaches_candid h (Q := fun _ outcome _ => outcome.workspace.Elementwise)
      (each_of_alone (P := fun c => c.Confined .anywhere true _) confined)
      World.candid_empty).1 0 _ rfl
  obtain ⟨same, kept, _⟩ := rejected_calls_change_nothing elementwise h libraries rfl performed
    (fun _ member => by cases member) later ended (.inr ⟨_, missing⟩)
  subst missing kept
  exact ⟨outcome, w, c, h, busy, performed, same⟩

end DeviceArrays

import DeviceArrays.Proofs.Program.Careful
import DeviceArrays.Proofs.Solo.Tracks

/-!
# Asynchronous runs refine eager ones

On one stream a careful client cannot tell how far the worker is. Each move of a schedule leaves the
eager run of the rest as it was, and from every state a schedule can go on to the end of that run.
-/
namespace DeviceArrays

variable {α : Type} {r : Regime} {L : Ledger} {w : World}

/-- A ledger and some world of one stream fit together. -/
def Tied (r : Regime) (L : Ledger) (w : World) : Prop :=
  ∃ q s, w = .solo q s ∧ Tracks r L q s

theorem Tied.serve {after : World} {stream : Nat} (tied : Tied r L w)
    (served : w.serve stream = some after) : Tied r L after ∧ after.settle = w.settle := by
  obtain ⟨q, s, rfl, tracks⟩ := tied
  obtain ⟨queue, t, turn, rfl⟩ := World.serve_solo served
  refine ⟨⟨queue, t, rfl, tracks.turn turn⟩, ?_⟩
  rw [World.settle_solo, World.settle_solo, Queue.drain_of_turn turn]

theorem Tied.act {action : Action} (tied : Tied r L w) (allowed : L.Allows r action)
    (enabled : action.enabled w = true) :
    L.Promises r action (action.perform w).1 ∧
      Tied r (L.next action (action.perform w).1) (action.perform w).2 ∧
        (action.perform w.settle).1 = (action.perform w).1 ∧
          (action.perform w.settle).2.settle = (action.perform w).2.settle := by
  obtain ⟨q, s, rfl, tracks⟩ := tied
  obtain ⟨reply, after, t, performed, promised, tracked, u, eager, same⟩ :=
    tracks.act allowed enabled
  rw [performed, eager]
  exact ⟨promised, ⟨after, t, rfl, tracked⟩, rfl, same⟩

theorem Tied.settle (tied : Tied r L w) : Tied r L w.settle := by
  obtain ⟨q, s, rfl, tracks⟩ := tied
  exact ⟨_, _, World.settle_solo, tracks.drain⟩

/-- Along every schedule the eager run of what is left stays the same. -/
theorem reaches_run {s t : Situation α} (h : Reaches s t) {Q : α → Ledger → Prop} {c : Client α}
    (alone : s.clients = [c]) (careful : c.Follows r L Q) (tied : Tied r L s.world) :
    ∃ d K, t.clients = [d] ∧ d.Follows r K Q ∧ Tied r K t.world ∧
      d.run t.world.settle = c.run s.world.settle := by
  -- By the moves: the ledger goes with the client's actions, and a worker's move settles alike.
  induction h generalizing L c with
  | here => exact ⟨c, L, alone, careful, tied, rfl⟩
  | step move later ih =>
    cases move with
    | @client clients w action next i turn enabled =>
      cases alone
      obtain ⟨rfl, rfl⟩ := turn_alone turn
      obtain ⟨promised, kept, answer, outcome⟩ := tied.act careful.1 enabled
      obtain ⟨d, K, rest, followed, ties, same⟩ := ih rfl (careful.2 _ promised) kept
      refine ⟨d, K, rest, followed, ties, same.trans ?_⟩
      rw [Client.run, ← outcome]
      simp only [answer]
    | worker stream served =>
      obtain ⟨kept, same⟩ := tied.serve served
      obtain ⟨d, K, rest, followed, ties, run⟩ := ih alone careful kept
      exact ⟨d, K, rest, followed, ties, run.trans (by rw [same])⟩

/-- The worker can always go on until it rests. -/
theorem reaches_settle {q : Queue Command Error} {s : Surroundings} (clients : List (Client α)) :
    Reaches ⟨clients, .solo q s⟩ ⟨clients, (World.solo q s).settle⟩ := by
  rw [World.settle_solo]
  fun_induction Queue.drain Command.run q s with
  | case1 q s after t moved ih =>
    have turn := Queue.step_eq_some_iff_turn.mp moved
    exact .step (.worker 0 (World.serve_solo_of_turn turn)) ih
  | case2 q s stuck => exact .here _

/-- Where the worker rests, a careful client is not held up. -/
theorem Tied.enabled_settle {action : Action} (tied : Tied r L w) (allowed : L.Allows r action) :
    action.enabled w.settle = true := by
  obtain ⟨q, s, rfl, tracks⟩ := tied
  cases action with
  | await stream sequence =>
    obtain ⟨rfl, rfl⟩ := tracks.newest stream sequence allowed
    have quiet := tracks.quiet_drain
    have done := quiet.submitted_eq (tracks.numbered.drain s)
    have same : (q.drain Command.run s).1.submitted = q.submitted := Queue.submitted_drain q s
    rw [World.settle_solo]
    simp [Action.enabled, World.solo, Queue.isDone, ← same, done]
  | join stream => exact absurd allowed.1 tracks.solo
  | _ => rfl

/-- From every state of a schedule the eager run can be completed. -/
theorem reaches_done {c : Client α} {Q : α → Ledger → Prop} (careful : c.Follows r L Q)
    (tied : Tied r L w) :
    ∃ u, Reaches ⟨[c], w⟩ ⟨[.done (c.run w.settle).1], u⟩ ∧
      u.settle = (c.run w.settle).2.settle := by
  induction c generalizing L w with
  | done a =>
    refine ⟨w, .here _, ?_⟩
    obtain ⟨q, s, rfl, tracks⟩ := tied
    simp only [Client.run, World.settle_solo, tracks.drain_drain]
  | act action next ih =>
    -- The worker is let finish first, so that the client is not held up.
    have enabled := tied.enabled_settle careful.1
    have rests : Reaches ⟨[.act action next], w⟩ ⟨[.act action next], w.settle⟩ := by
      obtain ⟨q, s, rfl, _⟩ := tied
      exact reaches_settle _
    obtain ⟨promised, kept, _, _⟩ := tied.settle.act careful.1 enabled
    obtain ⟨u, later, same⟩ := ih _ (careful.2 _ promised) kept
    refine ⟨u, rests.trans (.step (.client 0 rfl enabled) later), same⟩

/-- A device with the standard library, and a stream on it. -/
def Workspace.single (id : DeviceId) (options : StreamOptions) : Workspace where
  devices := [⟨0, id, .standard⟩]
  streams := [some ⟨0, ⟨0, id, .standard⟩, options⟩]
  arrays := []
  issued := []

theorem Workspace.covered_single (solo : r ≠ .several) (id : DeviceId) (options : StreamOptions) :
    (single id options).Covered r .fresh := by
  have known : Ledger.fresh.Knows r ⟨0, id, .standard⟩ := by
    refine ⟨Nat.one_pos, ?_⟩
    cases r with
    | manual => rfl
    | managed => rfl
    | several => exact absurd rfl solo
  have only : ∀ i s, (single id options).stream? i = some s →
      i = 0 ∧ s = ⟨0, ⟨0, id, .standard⟩, options⟩ := by
    intro i s found
    cases i with
    | zero => exact ⟨rfl, (Option.some.inj found).symm⟩
    | succ i => simp [stream?, single] at found
  constructor
  case still => rfl
  case devices =>
    intro d member
    have same : d = ⟨0, id, .standard⟩ := List.mem_singleton.mp member
    rwa [same]
  case streams =>
    intro i s found
    obtain ⟨_, same⟩ := only i s found
    rw [same]
    exact ⟨known, rfl⟩
  case distinct =>
    intro i j s t first second _
    exact (only i s first).1.trans (only j t second).1.symm
  case named => exact fun n inside => .inr ⟨0, _, rfl, (Nat.lt_one_iff.mp inside).symm⟩
  case arrays =>
    intro i a found
    simp [array?, single] at found
  case rooted =>
    intro i v found
    simp [array?, single] at found
  case owned => exact fun _ => .refl _
  case issued =>
    intro b member
    simp [single] at member

theorem tied_opened (solo : r ≠ .several) : Tied r .fresh .opened :=
  ⟨_, _, rfl, tracks_fresh solo⟩

/-- A program on the only stream of a device, before its first call. -/
def Program.onOneStream (p : Program) (id : DeviceId) (options : StreamOptions) :
    Client Outcome :=
  p.client (.single id options) []

theorem Program.careful (p : Program) {id : DeviceId} {options : StreamOptions}
    (solo : r ≠ .several) (within : p.Within r) :
    (p.onOneStream id options).Follows r .fresh fun outcome K =>
      outcome.workspace.Covered r K ∧ (K.Sound r → Admitted outcome.log) ∧
        Rested outcome.log K :=
  follows_client (Workspace.covered_single solo id options) within (fun _ => admitted_nil)
    rested_nil

/-- The eager run, in which the worker does each command as soon as it is submitted, is what every
schedule of a program on one stream amounts to, releases by hand included. Whatever the worker has
got to, the program can go on to the end, and at its end every reply, every array in scope and every
host store is that of the eager run. So is the memory once the worker has done what was submitted,
which it has when the last call was one that waits. -/
theorem schedules_refine_eager_run {p : Program} {id : DeviceId} {options : StreamOptions}
    (within : p.Within .manual) {t : Situation Outcome}
    (h : Reaches ⟨[p.onOneStream id options], .opened⟩ t) :
    let eager := (p.onOneStream id options).run .opened
    (∃ w, Reaches t ⟨[.done eager.1], w⟩) ∧
      ∀ outcome, t.clients = [.done outcome] →
        outcome = eager.1 ∧ t.world.stores = eager.2.stores ∧
          t.world.settle = eager.2 ∧
          ∀ request reply, outcome.log.getLast? = some (request, some reply) →
            request.waits = true → t.world = eager.2 := by
  intro eager
  have opened_settle : World.opened.settle = .opened := by
    rw [World.opened, World.settle_solo, Queue.drain_of_rests rfl]
  obtain ⟨c, K, rest, careful, tied, same⟩ :=
    reaches_run h rfl (p.careful (r := .manual) nofun within) (tied_opened nofun)
  rw [opened_settle] at same
  constructor
  · obtain ⟨w, later, _⟩ := reaches_done careful tied
    rw [same] at later
    obtain ⟨clients, world⟩ := t
    cases rest
    exact ⟨w, later⟩
  · intro outcome ended
    cases rest.symm.trans ended
    have both : (outcome, t.world.settle) = eager := same
    obtain ⟨covered, _, rested⟩ := careful
    obtain ⟨q, s, is_solo, tracks⟩ := tied
    have settled : t.world.settle = eager.2 := by rw [← both]
    refine ⟨by rw [← both], ?_, settled, fun request reply last waits => ?_⟩
    · rw [← settled, is_solo, World.settle_solo]
      exact (tracks.stores_drain covered.still).symm
    · obtain ⟨stream, found⟩ := Option.isSome_iff_exists.mp (rested request reply last waits)
      rw [← settled, is_solo, World.settle_solo, tracks.drain_of_settled found]

/-- A release by hand that leaves an array without its buffer. -/
theorem schedules_refine_eager_run_release :
    let p : Program := .call (.ones 0 [2] (.signed .w32)) fun _ =>
      .call (.releaseBuffer 0 ⟨1⟩) fun _ => .call (.updateHost 0) fun _ => .done
    let client := p.onOneStream ⟨0⟩ ⟨true, none⟩
    ∃ t, Reaches ⟨[client], .opened⟩ t ∧ t.world.stores = [.zeros 8] ∧
      ∃ w, Reaches t ⟨[.done (client.run .opened).1], w⟩ := by
  intro p client
  have within : p.Within .manual :=
    ⟨trivial, fun _ => ⟨rfl, fun _ => ⟨trivial, fun _ => trivial⟩⟩⟩
  have launched : ∃ t, Reaches ⟨[client], .opened⟩ t ∧ t.world.stores = [.zeros 8] :=
    ⟨_, .step (.client 0 rfl rfl) (.step (.client 0 rfl rfl) (.step (.client 0 rfl rfl)
      (.step (.worker 0 rfl) (.here _)))), rfl⟩
  obtain ⟨t, h, stores⟩ := launched
  exact ⟨t, h, stores, (schedules_refine_eager_run within h).1⟩

end DeviceArrays

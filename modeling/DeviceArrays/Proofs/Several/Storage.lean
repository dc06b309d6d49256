import DeviceArrays.Proofs.Program.Careful
import DeviceArrays.Proofs.Several.Accounts
import DeviceArrays.Proofs.Several.Queues

/-!
# What clients hold

Along every schedule the buffers that clients hold are those that allocations gave them and whose
release they have not submitted. A careful client holds what its ledger says it owns, and a program
begins with nothing, in a world where nothing was opened.
-/
namespace DeviceArrays

variable {α : Type} {L : Ledger} {w : World}

/-- The buffers that clients hold after an action: an allocation hands one out, and one is given
back when its release is submitted. -/
def Action.heldAfter (w : World) (held : List Holding) : (a : Action) → a.Reply → List Holding
  | .allocate device _, (b : BufferId) => ⟨device, b⟩ :: held
  | .submit stream (.release b), some _ =>
    match w.streams[stream]? with
    | some state => held.erase ⟨state.device, b⟩
    | none => held
  | _, _ => held

/-- What some moves lead to, and the buffers that clients hold then. -/
inductive ReachesHolding (start : Situation α) : Situation α → List Holding → Prop
  | here : ReachesHolding start start []
  | client {clients : List (Client α)} {w : World} {held : List Holding} {action : Action}
      {next : action.Reply → Client α} (earlier : ReachesHolding start ⟨clients, w⟩ held) (i : Nat)
      (turn : clients[i]? = some (.act action next)) (enabled : action.enabled w) :
      ReachesHolding start ⟨clients.set i (next (action.perform w).1), (action.perform w).2⟩
        (action.heldAfter w held (action.perform w).1)
  | worker {clients : List (Client α)} {w after : World} {held : List Holding}
      (earlier : ReachesHolding start ⟨clients, w⟩ held) (stream : Nat)
      (served : w.serve stream = some after) : ReachesHolding start ⟨clients, after⟩ held

theorem ReachesHolding.of_reaches {start s t : Situation α} {held : List Holding}
    (earlier : ReachesHolding start s held) (h : Reaches s t) :
    ∃ kept, ReachesHolding start t kept := by
  induction h generalizing held with
  | here => exact ⟨held, earlier⟩
  | step move later ih =>
    cases move with
    | client i turn enabled => exact ih (earlier.client i turn enabled)
    | worker stream served => exact ih (earlier.worker stream served)

theorem Accounts.owned_next {action : Action} (accounts : Accounts L w)
    (allowed : L.Allows .several action) :
    (L.next action (action.perform w).1).owned =
      action.heldAfter w L.owned (action.perform w).1 := by
  cases action with
  | submit stream command =>
    obtain ⟨device, entry, allowed⟩ := allowed
    obtain ⟨sequence, answer, _⟩ := accounts.submit entry allowed
    obtain ⟨state, found, rfl, _⟩ := accounts.find entry
    rw [answer]
    cases command with
    | release b =>
      simp [Ledger.next, Ledger.submitted, Command.released?, Action.heldAfter, Ledger.deviceOf,
        entry, found]
    | _ => rfl
  | _ => rfl

/-- Along every schedule of a careful client its ledger is true, and it owns what it holds. -/
theorem ReachesHolding.accounts {s t : Situation α} {held : List Holding}
    (h : ReachesHolding s t held) {Q : α → Ledger → Prop} {c : Client α} (alone : s.clients = [c])
    (careful : c.Follows .several L Q) (bare : L.owned = []) (accounts : Accounts L s.world) :
    ∃ d K, t.clients = [d] ∧ d.Follows .several K Q ∧ Accounts K t.world ∧ K.owned = held := by
  induction h with
  | here => exact ⟨c, L, alone, careful, accounts, bare⟩
  | client earlier i turn enabled ih =>
    obtain ⟨d, K, rest, careful, accounts, same⟩ := ih
    cases rest
    obtain ⟨rfl, rfl⟩ := turn_alone turn
    obtain ⟨promised, kept⟩ := accounts.act careful.1 enabled
    refine ⟨_, _, rfl, careful.2 _ promised, kept, ?_⟩
    rw [accounts.owned_next careful.1, same]
  | worker earlier stream served ih =>
    obtain ⟨d, K, rest, careful, accounts, same⟩ := ih
    exact ⟨d, K, rest, careful, accounts.serve served, same⟩

namespace World

/-- The release that a worker is about to do succeeds. -/
def Releasable (w : World) : Prop :=
  ∀ state ∈ w.streams, ∀ sequence b, state.queue.worker = .holding sequence (.release b) →
    ∃ after, (Command.release b).perform (w.surroundings state.device) = .ok after

/-- Every array in scope has a buffer and a host store of as many bytes as its elements take, and
every view has those of an owner in scope. -/
structure Backs (w : World) (ws : Workspace) : Prop where
  buffer : ∀ i a, ws.array? i = some a → w.size? a.holding = some a.byteSize
  store : ∀ i a, ws.array? i = some a →
    a.store.size = a.byteSize ∧ w.stores[a.store.number]?.map List.length = some a.byteSize
  shared : ∀ i v, ws.array? i = some v → v.isView = true →
    ∃ j o, ws.array? j = some o ∧ o.isView = false ∧ o.storage = v.storage

end World

namespace Accounts

theorem releasable (accounts : Accounts L w) : w.Releasable := by
  intro state member sequence b holding
  have waits : ⟨state.device, b⟩ ∈ w.releasing := by
    refine List.mem_flatMap.mpr ⟨state, member, ?_⟩
    simp [StreamState.releasing, Queue.outstanding, holding, Command.released?]
  obtain ⟨n, live⟩ := accounts.custody.size?_of_releasing waits
  exact ⟨_, Command.perform_release live⟩

theorem backs {ws : Workspace} (accounts : Accounts L w) (covered : ws.Covered .several L) :
    w.Backs ws where
  buffer i a found := by
    obtain ⟨given, mine⟩ := (covered.arrays i a found).buffer
    exact accounts.sized _ _ given (mine nofun)
  store i a found := by
    have holds := covered.arrays i a found
    refine ⟨holds.size, ?_⟩
    rw [← List.getElem?_map, accounts.stores, holds.store]
  shared := covered.rooted

/-- A stream that has left the scope has been joined. -/
theorem stopped_of_unnamed {ws : Workspace} {n : Nat} {state : StreamState}
    (accounts : Accounts L w) (covered : ws.Covered .several L)
    (found : w.streams[n]? = some state)
    (unnamed : ∀ i s, ws.stream? i = some s → s.number ≠ n) : state.queue.worker = .stopped := by
  have inside : n < L.streams.length := by
    have bound := (List.getElem?_eq_some_iff.mp found).1
    simpa [← accounts.streams] using bound
  obtain joined | ⟨i, s, there, same⟩ := covered.named n inside
  · obtain ⟨other, again, stopped⟩ := accounts.joined n joined
    cases found.symm.trans again
    exact stopped
  · exact absurd same (unnamed i s there)

/-- A worker that has ended has done every release. -/
theorem releasing_of_stopped {state : StreamState} (accounts : Accounts L w)
    (member : state ∈ w.streams) (stopped : state.queue.worker = .stopped) :
    state.releasing = [] := by
  have none_left := ((accounts.tended state member).numbered.stopped stopped).1
  simp [StreamState.releasing, Queue.outstanding, stopped, none_left]

/-- Where nobody holds a buffer and no release is outstanding, no device has a buffer. -/
theorem liveCount_eq_zero (accounts : Accounts L w) (bare : L.owned = [])
    (released : w.releasing = []) {m : Memory} (member : m ∈ w.memories) : m.liveCount = 0 := by
  obtain ⟨device, found⟩ := List.getElem?_of_mem member
  refine List.countP_eq_zero.mpr fun slot given => ?_
  obtain ⟨i, there⟩ := List.getElem?_of_mem given
  cases slot with
  | none => simp
  | some bytes =>
    have live : (w.size? ⟨device, ⟨i + 1⟩⟩).isSome := by
      simp [World.size?, World.memory, found, Memory.size?, Memory.contents?, there]
    have somewhere := (accounts.custody.live _).mp live
    rw [bare, released] at somewhere
    cases somewhere

end Accounts

/-- Nothing has been opened and nothing is known. -/
def Ledger.empty : Ledger := ⟨0, [], [], [], [], [], none, none, false⟩

def Workspace.empty : Workspace := ⟨[], [], [], []⟩

theorem accounts_empty : Accounts .empty .empty where
  devices := rfl
  streams := rfl
  joined _ member := by cases member
  tended _ member := by cases member
  stores := rfl
  issued _ _ given := by cases given
  sized _ _ given := by cases given
  custody := by
    refine ⟨List.nodup_nil, fun ⟨device, ⟨number⟩⟩ => ?_⟩
    cases number <;> simp [World.size?, World.memory, World.empty, Memory.size?, Memory.contents?,
      Memory.empty, World.releasing, Ledger.empty]

theorem Workspace.covered_empty : Workspace.empty.Covered .several .empty where
  still := rfl
  devices _ member := by cases member
  streams i _ found := by simp [stream?, empty] at found
  distinct i _ _ _ found _ _ := by simp [stream?, empty] at found
  named _ inside := by cases inside
  arrays i _ found := by simp [array?, empty] at found
  rooted i _ found _ := by simp [array?, empty] at found
  owned _ := .refl _
  issued _ member := by cases member

/-- A program before its first call, which has to open devices and streams of its own. -/
def Program.fromNothing (p : Program) : Client Outcome := p.client .empty []

end DeviceArrays

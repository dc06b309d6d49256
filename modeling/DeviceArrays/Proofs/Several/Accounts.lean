import DeviceArrays.Proofs.Client.Discipline
import DeviceArrays.Proofs.Several.Queues

/-!
# Several devices and streams

A ledger and a world of any number of devices and streams fit together. Whatever the workers do, in
whatever order, and whatever a careful client does meanwhile, every buffer stays in custody and
keeps its size until it is released.
-/
namespace DeviceArrays

variable {L K : Ledger} {w after : World} {stream : Nat} {state next : StreamState}

namespace Command

/-- A command that leaves the sizes of buffers and stores alone, unless it is a release. -/
def Tidy (stores : List Nat) : Command → Prop
  | .launch kernel _ => kernel.Steady
  | .copyToHost _ store => stores[store.number]? = some store.size
  | _ => True

theorem Tidy.mono {c : Command} {stores more : List Nat} (tidy : c.Tidy stores)
    (grown : stores <+: more) : c.Tidy more := by
  cases c with
  | copyToHost b store => exact Ledger.getElem?_of_prefix grown tidy
  | launch kernel arguments => exact tidy
  | _ => trivial

theorem tidy_of_allows {c : Command} {device : Nat} (allowed : L.AllowsCommand .several device c) :
    c.Tidy L.stores := by
  cases c with
  | copyToHost b store => exact allowed.1
  | launch kernel arguments =>
    obtain ⟨k, values, steady, _⟩ := allowed
    exact steady
  | _ => trivial

/-- A tidy command that fails has kept all sizes. -/
theorem Tidy.left {c : Command} {stores : List Nat} (tidy : c.Tidy stores) (s : Surroundings) :
    (c.left s).memory.sizes = s.memory.sizes := by
  cases c with
  | launch kernel arguments => exact Kernel.Steady.failed tidy _ _
  | _ => rfl

/-- A tidy command that is no release keeps all sizes, whether it succeeds or not. -/
theorem Tidy.run {c : Command} {s : Surroundings} (tidy : c.Tidy (s.stores.map List.length))
    (kept : c.released? = none) :
    (c.run s).1.memory.sizes = s.memory.sizes ∧
      (c.run s).1.stores.map List.length = s.stores.map List.length := by
  refine run_preserves (P := fun t => t.memory.sizes = s.memory.sizes ∧
    t.stores.map List.length = s.stores.map List.length) ⟨tidy.left s, by rw [stores_left]⟩
    fun after effect => ?_
  cases effect with
  | copyToDevice copied => exact ⟨Memory.sizes_copyIn copied, rfl⟩
  | copyToHost copied =>
    have length := Memory.length_copyOut copied
    exact ⟨rfl, Bytes.map_length_set (length.symm ▸ tidy)⟩
  | launch ran => exact ⟨tidy.ran _ _ _ ran, rfl⟩
  | release freed => cases kept
  | fence => exact ⟨rfl, rfl⟩

end Command

/-- What a ledger tells of a stream. -/
def StreamState.entry (state : StreamState) : StreamEntry := ⟨state.device, !state.queue.closing⟩

/-- A stream of a known device whose outstanding commands are tidy. -/
structure StreamState.Tended (state : StreamState) (devices : Nat) (stores : List Nat) : Prop where
  device : state.device < devices
  numbered : state.queue.Numbered
  tidy : ∀ c ∈ state.queue.outstanding, c.Tidy stores

/-- A ledger and a world of several streams fit together. -/
structure Accounts (L : Ledger) (w : World) : Prop where
  devices : w.memories.length = L.devices
  streams : w.streams.map StreamState.entry = L.streams
  joined : ∀ i ∈ L.joined, w.Ended i
  tended : ∀ state ∈ w.streams, state.Tended L.devices L.stores
  stores : w.stores.map List.length = L.stores
  issued : ∀ x n, (x, n) ∈ L.allocated → (w.memory x.device).Issued x.buffer
  sized : ∀ x n, (x, n) ∈ L.allocated → x ∈ L.owned → w.size? x = some n
  custody : w.Custody L.owned

namespace Accounts

theorem inside (accounts : Accounts L w) (found : w.streams[stream]? = some state) :
    state.device < w.memories.length := by
  rw [accounts.devices]
  exact (accounts.tended state (List.mem_of_getElem? found)).device

/-- Nothing but the state of streams and the contents of buffers and stores has changed. -/
theorem of_sizes (accounts : Accounts L w) (devices : after.memories.length = K.devices)
    (streams : after.streams.map StreamState.entry = K.streams)
    (joined : ∀ i ∈ K.joined, after.Ended i)
    (tended : ∀ state ∈ after.streams, state.Tended K.devices K.stores)
    (stores : after.stores.map List.length = K.stores)
    (sizes : ∀ device, (after.memory device).sizes = (w.memory device).sizes)
    (allocated : K.allocated = L.allocated) (kept : K.owned ⊆ L.owned)
    (perm : (K.owned ++ after.releasing).Perm (L.owned ++ w.releasing)) : Accounts K after where
  devices := devices
  streams := streams
  joined := joined
  tended := tended
  stores := stores
  issued x n given := by
    rw [allocated] at given
    exact (Memory.issued_congr (sizes x.device)).mpr (accounts.issued x n given)
  sized x n given mine := by
    rw [allocated] at given
    rw [World.size?_congr sizes]
    exact accounts.sized x n given (kept mine)
  custody := accounts.custody.of_perm perm sizes

/-- One stream has moved on, and nothing was allocated or freed. -/
theorem put {s : Surroundings} (accounts : Accounts L w)
    (found : w.streams[stream]? = some state) (device : next.device = state.device)
    (devices : K.devices = L.devices) (streams : K.streams = L.streams.set stream next.entry)
    (joined : ∀ i ∈ K.joined, (w.putStream stream next s).Ended i)
    (same : K.stores = L.stores) (allocated : K.allocated = L.allocated) (kept : K.owned ⊆ L.owned)
    (numbered : next.queue.Numbered) (tidy : ∀ c ∈ next.queue.outstanding, c.Tidy L.stores)
    (sizes : s.memory.sizes = (w.memory state.device).sizes)
    (stores : s.stores.map List.length = L.stores)
    (perm : (K.owned ++ next.releasing).Perm (L.owned ++ state.releasing)) :
    Accounts K (w.putStream stream next s) := by
  have inside := accounts.inside found
  refine accounts.of_sizes ?_ ?_ joined ?_ (stores.trans same.symm) ?_ allocated kept ?_
  · simp [World.putStream, accounts.devices, devices]
  · rw [streams, ← accounts.streams]
    exact List.map_set
  · intro other member
    obtain old | rfl := List.mem_or_eq_of_mem_set member
    · obtain ⟨bound, numbered, tidy⟩ := accounts.tended other old
      exact ⟨devices ▸ bound, numbered, same ▸ tidy⟩
    · refine ⟨?_, numbered, same ▸ tidy⟩
      rw [device, devices, ← accounts.devices]
      exact inside
  · exact World.sizes_putStream (device ▸ inside) (by rw [sizes, device])
  · have others := World.perm_releasing_putStream found next s
    apply List.perm_iff_count.mpr
    intro x
    have moved := perm.count_eq x
    have rest := others.count_eq x
    simp only [List.count_append] at moved rest ⊢
    omega

/-- The entry of a stream that goes on as it is. -/
theorem set_entry (accounts : Accounts L w) (found : w.streams[stream]? = some state)
    (same : next.entry = state.entry) : L.streams = L.streams.set stream next.entry := by
  obtain ⟨bound, there⟩ := List.getElem?_eq_some_iff.mp found
  rw [same, ← accounts.streams, ← List.map_set, ← there, List.set_getElem_self]

/-- The worker of a stream releases the buffer of the command it holds. -/
theorem released {b : BufferId} (accounts : Accounts L w)
    (found : w.streams[stream]? = some state) (same : next.entry = state.entry)
    (joined : ∀ i ∈ L.joined, (w.putStream stream next
      ((Command.release b).run (w.surroundings next.device)).1).Ended i)
    (numbered : next.queue.Numbered)
    (first : state.queue.outstanding = .release b :: next.queue.outstanding) :
    Accounts L (w.putStream stream next
      ((Command.release b).run (w.surroundings next.device)).1) := by
  have device : next.device = state.device := congrArg StreamEntry.device same
  have inside : next.device < w.memories.length := device ▸ accounts.inside found
  have tended := accounts.tended state (List.mem_of_getElem? found)
  have more : state.releasing = ⟨next.device, b⟩ :: next.releasing := by
    simp [StreamState.releasing, first, Command.released?, device]
  have waiting : ⟨next.device, b⟩ ∈ w.releasing :=
    List.mem_flatMap.mpr ⟨state, List.mem_of_getElem? found, by simp [more]⟩
  obtain ⟨n, live⟩ := accounts.custody.size?_of_releasing waiting
  have run : (Command.release b).run (w.surroundings next.device) =
      (⟨(w.memory next.device).put b none, w.stores⟩, none) :=
    Command.run_of_perform (Command.perform_release live)
  have freed : ∀ x, (w.putStream stream next
      ⟨(w.memory next.device).put b none, w.stores⟩).size? x =
        if x = ⟨next.device, b⟩ then none else w.size? x :=
    World.size?_putStream_put inside (by simp [live])
  rw [run] at joined ⊢
  constructor
  case joined => exact joined
  case devices => simp [World.putStream, accounts.devices]
  case streams =>
    rw [accounts.set_entry found same, ← accounts.streams]
    exact List.map_set
  case tended =>
    intro other member
    obtain old | rfl := List.mem_or_eq_of_mem_set member
    · exact accounts.tended other old
    · refine ⟨device ▸ tended.device, numbered, fun c later => tended.tidy c ?_⟩
      rw [first]
      exact .tail _ later
  case stores => exact accounts.stores
  case issued =>
    intro x n given
    exact (World.issued_putStream_put inside x.device).mpr (accounts.issued x n given)
  case sized =>
    intro x n given mine
    rw [freed, if_neg, accounts.sized x n given mine]
    rintro rfl
    exact accounts.custody.not_releasing mine waiting
  case custody =>
    refine accounts.custody.of_freed ?_ freed
    have both := World.perm_releasing_putStream found next
      ⟨(w.memory next.device).put b none, w.stores⟩
    rw [more, List.cons_append] at both
    exact (List.perm_append_left_iff _).mp (both.trans List.perm_middle.symm)

/-- Whichever worker moves, the ledger stays true. -/
theorem serve (accounts : Accounts L w) (served : w.serve stream = some after) :
    Accounts L after := by
  have joined := fun i member => (accounts.joined i member).serve served
  obtain ⟨state, queue, s, found, turn, rfl⟩ := World.serve_cases served
  have tended := accounts.tended state (List.mem_of_getElem? found)
  have numbered := tended.numbered.turn turn
  have entry : StreamState.entry { state with queue } = state.entry := by
    simp [StreamState.entry, turn.closing_eq]
  have tidy : ∀ c ∈ queue.outstanding, c.Tidy L.stores := fun c member =>
    tended.tidy c (turn.outstanding_sublist.subset member)
  have streams := accounts.set_entry found entry
  obtain ⟨same, rfl⟩ | ⟨c, first, rfl⟩ := turn.outstanding_cases
  · refine accounts.put found rfl rfl streams joined rfl rfl (List.Subset.refl _) numbered tidy
      rfl accounts.stores ?_
    rw [StreamState.releasing, same]
    exact .refl _
  · cases kept : c.released? with
    | none =>
      have held : c.Tidy ((w.surroundings state.device).stores.map List.length) := by
        rw [World.surroundings, accounts.stores]
        exact tended.tidy c (first ▸ .head _)
      obtain ⟨sizes, stores⟩ := held.run kept
      refine accounts.put found rfl rfl streams joined rfl rfl (List.Subset.refl _) numbered tidy
        sizes (stores.trans accounts.stores) ?_
      rw [StreamState.releasing, StreamState.releasing, first, List.filterMap_cons, kept]
    | some b =>
      cases Command.eq_release_of_released? kept
      exact accounts.released found entry joined numbered first

/-! ### What clients do -/

theorem find (accounts : Accounts L w) {device : Nat} {opened : Bool}
    (entry : L.streams[stream]? = some ⟨device, opened⟩) :
    ∃ state, w.streams[stream]? = some state ∧ state.device = device ∧
      (!state.queue.closing) = opened := by
  rw [← accounts.streams, List.getElem?_map] at entry
  obtain ⟨state, found, same⟩ := Option.map_eq_some_iff.mp entry
  exact ⟨state, found, congrArg StreamEntry.device same, congrArg StreamEntry.opened same⟩

theorem joined_act (accounts : Accounts L w) (action : Action) :
    ∀ i ∈ L.joined, (action.perform w).2.Ended i :=
  fun i member => (accounts.joined i member).act action

theorem openDevice (accounts : Accounts L w) :
    Accounts (L.next .openDevice w.memories.length) (Action.openDevice.perform w).2 := by
  have memory : ∀ device, (Action.openDevice.perform w).2.memory device = w.memory device := by
    intro device
    simp only [Action.perform, World.memory]
    rcases Nat.lt_trichotomy device w.memories.length with before | rfl | behind
    · rw [List.getElem?_append_left before]
    · simp
    · rw [List.getElem?_eq_none (by simp; omega), List.getElem?_eq_none (by omega)]
  refine accounts.of_sizes ?_ accounts.streams (accounts.joined_act .openDevice) ?_ accounts.stores
    ?_ rfl (List.Subset.refl _) (.refl _)
  · simp [Action.perform, Ledger.next, accounts.devices]
  · intro state member
    obtain ⟨device, numbered, tidy⟩ := accounts.tended state member
    exact ⟨Nat.lt_succ_of_lt device, numbered, tidy⟩
  · intro device
    rw [memory]

theorem openStream (accounts : Accounts L w) {device : Nat} (known : device < L.devices) :
    Accounts (L.next (.openStream device) w.streams.length)
      ((Action.openStream device).perform w).2 := by
  refine accounts.of_sizes accounts.devices ?_ (accounts.joined_act (.openStream device)) ?_
    accounts.stores (fun _ => rfl) rfl (List.Subset.refl _) ?_
  · simp [Action.perform, Ledger.next, accounts.streams, StreamState.entry, Queue.empty]
  · intro state member
    obtain old | new := List.mem_append.mp member
    · exact accounts.tended state old
    · cases List.mem_singleton.mp new
      refine ⟨known, Queue.numbered_empty, fun c outstanding => ?_⟩
      cases outstanding
  · simp [Action.perform, Ledger.next, World.releasing, StreamState.releasing, Queue.outstanding,
      Queue.empty]

theorem createStore (accounts : Accounts L w) (size : Nat) :
    Accounts (L.next (.createStore size) ⟨w.stores.length, size⟩)
      ((Action.createStore size).perform w).2 := by
  refine accounts.of_sizes accounts.devices accounts.streams
    (accounts.joined_act (.createStore size)) ?_ ?_ (fun _ => rfl) rfl (List.Subset.refl _)
    (.refl _)
  · intro state member
    obtain ⟨device, numbered, tidy⟩ := accounts.tended state member
    refine ⟨device, numbered, fun c outstanding => ?_⟩
    exact (tidy c outstanding).mono (List.prefix_append _ _)
  · simp [Action.perform, Ledger.next, accounts.stores, Bytes.zeros]

theorem patchStore (accounts : Accounts L w) (store offset : Nat) (bytes : Bytes) :
    Accounts L ((Action.patchStore store offset bytes).perform w).2 := by
  refine accounts.of_sizes accounts.devices accounts.streams
    (accounts.joined_act (.patchStore store offset bytes)) accounts.tended ?_ (fun _ => rfl) rfl
    (List.Subset.refl _) (.refl _)
  exact (Bytes.map_length_modify_splice w.stores store offset bytes).trans accounts.stores

theorem allocate (accounts : Accounts L w) {device size : Nat} (known : device < L.devices) :
    Accounts (L.next (.allocate device size) (w.memory device).next)
      ((Action.allocate device size).perform w).2 := by
  have inside : device < w.memories.length := accounts.devices ▸ known
  have memory : ∀ other, ((Action.allocate device size).perform w).2.memory other =
      if other = device then (w.memory device).grow size else w.memory other :=
    World.memory_set inside _
  have sizes : ∀ x, ((Action.allocate device size).perform w).2.size? x =
      if x = ⟨device, (w.memory device).next⟩ then some size else w.size? x := by
    intro ⟨other, b⟩
    unfold World.size?
    rw [memory]
    by_cases near : other = device
    · rw [if_pos near, Memory.size?_grow]
      simp [near]
    · simp [near]
  have fresh : ∀ n, (⟨device, (w.memory device).next⟩, n) ∉ L.allocated := fun n given =>
    (w.memory device).not_issued_next (accounts.issued _ n given)
  constructor
  case devices => simp [Action.perform, Ledger.next, accounts.devices]
  case streams => exact accounts.streams
  case joined => exact accounts.joined_act (.allocate device size)
  case tended => exact accounts.tended
  case stores => exact accounts.stores
  case issued =>
    intro x n given
    rw [memory]
    cases given with
    | head => simpa using (w.memory device).issued_next_grow size
    | tail _ old =>
      have known := accounts.issued x n old
      split
      case isTrue same => exact (same ▸ known).grow size
      case isFalse => exact known
  case sized =>
    intro x n given mine
    rw [sizes]
    cases given with
    | head => exact if_pos rfl
    | tail _ old =>
      have other : x ≠ ⟨device, (w.memory device).next⟩ := by
        rintro rfl
        exact fresh n old
      rw [if_neg other]
      exact accounts.sized x n old (List.mem_of_ne_of_mem other mine)
  case custody => exact accounts.custody.of_allocated (w.memory device).size?_next rfl sizes

theorem submit (accounts : Accounts L w) {c : Command} {device : Nat}
    (entry : L.streams[stream]? = some ⟨device, true⟩)
    (allowed : L.AllowsCommand .several device c) :
    ∃ sequence, ((Action.submit stream c).perform w).1 = some sequence ∧
      Accounts (L.submitted stream c sequence) ((Action.submit stream c).perform w).2 := by
  obtain ⟨state, found, rfl, opened⟩ := accounts.find entry
  have closing : state.queue.closing = false := by simpa using opened
  have tended := accounts.tended state (List.mem_of_getElem? found)
  have performed : (Action.submit stream c).perform w = (some (state.queue.submitted + 1),
      Action.onQueue w stream fun _ => state.queue.push c) := by
    simp only [Action.perform, found, Queue.submit_of_open closing]
    rfl
  have joined := accounts.joined_act (.submit stream c)
  rw [performed] at joined ⊢
  refine ⟨_, rfl, ?_⟩
  rw [World.onQueue_eq_putStream found (accounts.inside found)] at joined ⊢
  have same : StreamState.entry { state with queue := state.queue.push c } = state.entry := by
    simp [StreamState.entry]
  have near : L.deviceOf stream = state.device := by simp [Ledger.deviceOf, entry]
  refine accounts.put found rfl rfl (accounts.set_entry found same) joined rfl rfl ?_
    (tended.numbered.push closing c) ?_ rfl accounts.stores ?_
  · unfold Ledger.submitted
    cases c.released? with
    | none => exact List.Subset.refl _
    | some b => exact List.erase_subset
  · intro d member
    rw [Queue.outstanding_push] at member
    obtain old | new := List.mem_append.mp member
    · exact tended.tidy d old
    · cases List.mem_singleton.mp new
      exact Command.tidy_of_allows allowed
  · have mine : ∀ b, c.released? = some b → ⟨L.deviceOf stream, b⟩ ∈ L.owned := fun b released =>
      Ledger.mem_owned_of_allows (fun same => by cases same) (near.symm ▸ allowed) released
    have handed := L.perm_owned_submitted stream (state.queue.submitted + 1) mine
    rw [StreamState.releasing_push, ← near]
    refine (List.perm_append_comm.append_left _).trans ?_
    rw [← List.append_assoc]
    exact handed.symm.append_right state.releasing

theorem takeFailure (accounts : Accounts L w) (stream : Nat) :
    Accounts L ((Action.takeFailure stream).perform w).2 := by
  cases found : w.streams[stream]? with
  | none =>
    have performed : ((Action.takeFailure stream).perform w).2 = w := by
      simp only [Action.perform, found]
    rw [performed]
    exact accounts
  | some state =>
    have performed : ((Action.takeFailure stream).perform w).2 =
        Action.onQueue w stream fun _ => state.queue.takeFailure.2 := by
      simp only [Action.perform, found]
    have tended := accounts.tended state (List.mem_of_getElem? found)
    have joined := accounts.joined_act (.takeFailure stream)
    rw [performed, World.onQueue_eq_putStream found (accounts.inside found)] at joined ⊢
    exact accounts.put found rfl rfl (accounts.set_entry found rfl) joined rfl rfl
      (List.Subset.refl _) tended.numbered.takeFailure tended.tidy rfl accounts.stores (.refl _)

theorem close (accounts : Accounts L w) (stream : Nat) :
    Accounts (L.next (.close stream) ()) ((Action.close stream).perform w).2 := by
  have joined := accounts.joined_act (.close stream)
  simp only [Action.perform, Ledger.next] at joined ⊢
  cases found : w.streams[stream]? with
  | none =>
    have outside : w.streams.length ≤ stream := List.getElem?_eq_none_iff.mp found
    have short : L.streams.length ≤ stream := by
      rw [← accounts.streams]
      simpa using outside
    rw [Action.onQueue, List.modify_eq_self outside, List.modify_eq_self short]
    exact accounts
  | some state =>
    have tended := accounts.tended state (List.mem_of_getElem? found)
    rw [World.onQueue_eq_putStream found (accounts.inside found)] at joined ⊢
    have entry : L.streams[stream]? = some state.entry := by
      rw [← accounts.streams, List.getElem?_map, found]
      rfl
    exact accounts.put found rfl rfl (World.modify_eq_set entry _) joined rfl rfl
      (List.Subset.refl _) tended.numbered.close tended.tidy rfl accounts.stores (.refl _)

/-- A worker that was joined has ended. -/
theorem join (accounts : Accounts L w) {device : Nat} {opened : Bool}
    (entry : L.streams[stream]? = some ⟨device, opened⟩)
    (enabled : (Action.join stream).enabled w = true) : Accounts (L.next (.join stream) ()) w := by
  obtain ⟨state, found, _⟩ := accounts.find entry
  refine { accounts with joined := fun i member => ?_ }
  obtain rfl | old := List.mem_cons.mp member
  · exact World.ended_of_joins found enabled
  · exact accounts.joined i old

/-- Every allowed action is answered as promised and keeps the ledger true. -/
theorem act {action : Action} (accounts : Accounts L w) (allowed : L.Allows .several action)
    (enabled : action.enabled w = true) :
    L.Promises .several action (action.perform w).1 ∧
      Accounts (L.next action (action.perform w).1) (action.perform w).2 := by
  cases action with
  | openDevice => exact ⟨accounts.devices, accounts.openDevice⟩
  | openStream device =>
    have number : w.streams.length = L.streams.length := by simp [← accounts.streams]
    exact ⟨number, accounts.openStream allowed.2⟩
  | createStore size =>
    have number : w.stores.length = L.stores.length := by simp [← accounts.stores]
    exact ⟨congrArg (HostStore.mk · size) number, accounts.createStore size⟩
  | readStore store =>
    refine ⟨fun size found => ?_, accounts⟩
    rw [← accounts.stores, List.getElem?_map] at found
    obtain ⟨bytes, there, length⟩ := Option.map_eq_some_iff.mp found
    simpa [Action.perform, World.stored, there] using length
  | patchStore store offset bytes => exact ⟨trivial, accounts.patchStore store offset bytes⟩
  | allocate device size => exact ⟨trivial, accounts.allocate allowed.1⟩
  | liveBuffers device => exact ⟨trivial, accounts⟩
  | submit stream command =>
    obtain ⟨device, entry, allowed⟩ := allowed
    obtain ⟨sequence, answer, kept⟩ := accounts.submit entry allowed
    rw [answer]
    exact ⟨rfl, kept⟩
  | await stream sequence =>
    exact ⟨trivial, accounts.of_sizes accounts.devices accounts.streams accounts.joined
      accounts.tended accounts.stores (fun _ => rfl) rfl (List.Subset.refl _) (.refl _)⟩
  | takeFailure stream => exact ⟨(fun sound => by cases sound.1), accounts.takeFailure stream⟩
  | close stream => exact ⟨trivial, accounts.close stream⟩
  | join stream =>
    obtain ⟨_, device, entry⟩ := allowed
    exact ⟨trivial, accounts.join entry enabled⟩

end Accounts

end DeviceArrays

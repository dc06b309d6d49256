import DeviceArrays.Proofs.Client.Discipline
import DeviceArrays.Proofs.Solo.Keeps
import DeviceArrays.Proofs.Solo.World

/-!
# A careful client on one stream

Whatever the worker of the only stream is at, the commands that are still outstanding commute with
what a careful client does meanwhile. So its actions get the same answers as if the worker had
always finished first, and the world settles to the same state.
-/
namespace DeviceArrays

variable {r : Regime} {L : Ledger} {q : Queue Command Error} {s : Surroundings}

/-- A ledger and a world of one stream fit together. -/
structure Tracks (r : Regime) (L : Ledger) (q : Queue Command Error) (s : Surroundings) : Prop where
  solo : r ≠ .several
  devices : L.devices = 1
  streams : L.streams = [⟨0, true⟩]
  stores : s.stores.map List.length = L.stores
  allocated : ∀ h n, (h, n) ∈ L.allocated → h.device = 0 ∧ s.memory.Issued h.buffer
  numbered : q.Numbered
  opened : q.closing = false
  outstanding : ∀ c ∈ q.outstanding, c.Local s.memory L.stores
  copying : L.copying = false → ∀ c ∈ q.outstanding, c.copiesToHost = false
  newest : ∀ stream sequence, L.newest = some (stream, sequence) →
    stream = 0 ∧ sequence = q.submitted
  settled : ∀ stream, L.settled = some stream → stream = 0 ∧ q.Quiet
  kept : r = .managed → Keeps L (q.drain Command.run s).2
  well : L.Sound r → (q.drain Command.run s).1.failure = none

/-- What a client knows that has a stream and has not used it. -/
def Ledger.fresh : Ledger where
  devices := 1
  streams := [⟨0, true⟩]
  joined := []
  stores := []
  allocated := []
  owned := []
  newest := none
  settled := none
  copying := false

theorem tracks_fresh (solo : r ≠ .several) : Tracks r .fresh .empty ⟨.empty, []⟩ := by
  have drained : (Queue.empty : Queue Command Error).drain Command.run ⟨.empty, []⟩ =
      (.empty, ⟨.empty, []⟩) := Queue.drain_of_rests rfl
  constructor
  case solo => exact solo
  case devices => rfl
  case streams => rfl
  case stores => rfl
  case allocated => nofun
  case numbered => exact Queue.numbered_empty
  case opened => rfl
  case outstanding => nofun
  case copying => exact fun _ => nofun
  case newest => nofun
  case settled => nofun
  case kept =>
    intro _
    rw [drained]
    refine ⟨nofun, fun b n size => ?_, nofun, nofun, List.nodup_nil⟩
    obtain ⟨_, outside⟩ := Memory.issued_of_size? size
    have inside := (Memory.issued_of_size? size).1
    change b.number ≤ 0 at outside
    omega
  case well =>
    intro _
    rw [drained]
    rfl

namespace Tracks

/-! ### The worker -/

/-- Moves of the worker change nothing that the client knows. -/
theorem turn {after : Queue Command Error} {t : Surroundings} (tracks : Tracks r L q s)
    (h : Queue.Turn Command.run q s after t) : Tracks r L after t := by
  obtain ⟨issued, stores⟩ : (∀ b, s.memory.Issued b → t.memory.Issued b) ∧
      t.stores.map List.length = L.stores := by
    obtain ⟨_, rfl⟩ | ⟨c, first, rfl⟩ := h.outstanding_cases
    · exact ⟨fun b given => given, tracks.stores⟩
    · have isLocal := tracks.outstanding c (by simp [first])
      have length := Command.length_slots_run isLocal
      refine ⟨fun b given => ?_, Command.map_length_stores_run isLocal tracks.stores⟩
      unfold Memory.Issued at given ⊢
      omega
  have later : ∀ c ∈ after.outstanding, c ∈ q.outstanding :=
    fun c member => h.outstanding_sublist.subset member
  have same := Queue.drain_of_turn h
  constructor
  case solo => exact tracks.solo
  case devices => exact tracks.devices
  case streams => exact tracks.streams
  case stores => exact stores
  case allocated =>
    intro b n given
    obtain ⟨device, old⟩ := tracks.allocated b n given
    exact ⟨device, issued _ old⟩
  case numbered => exact tracks.numbered.turn h
  case opened => exact h.closing_eq.trans tracks.opened
  case outstanding =>
    exact fun c member => (tracks.outstanding c (later c member)).mono issued (List.prefix_refl _)
  case copying => exact fun still c member => tracks.copying still c (later c member)
  case newest =>
    intro stream sequence newest
    rw [h.submitted_eq]
    exact tracks.newest stream sequence newest
  case settled =>
    intro stream settled
    have stuck : q.step Command.run s = none :=
      (tracks.settled stream settled).2.step_eq_none tracks.opened s
    rw [Queue.step_eq_some_iff_turn.mpr h] at stuck
    cases stuck
  case kept => exact fun managed => same ▸ tracks.kept managed
  case well => exact fun sound => same ▸ tracks.well sound

theorem drain (tracks : Tracks r L q s) :
    Tracks r L (q.drain Command.run s).1 (q.drain Command.run s).2 := by
  fun_induction Queue.drain Command.run q s with
  | case1 q s after t moved ih => exact ih (tracks.turn (Queue.step_eq_some_iff_turn.mp moved))
  | case2 q s stuck => exact tracks

/-! ### What the client does meanwhile -/

/-- While no buffer is allocated, every outstanding command stays local. -/
theorem local_of_length (tracks : Tracks r L q s) {c : Command} (member : c ∈ q.outstanding)
    {t : Surroundings} (same : t.memory.slots.length = s.memory.slots.length) :
    c.Local t.memory L.stores := by
  refine (tracks.outstanding c member).mono (fun b given => ?_) (List.prefix_refl _)
  unfold Memory.Issued at given ⊢
  omega

theorem length_slots_drain (tracks : Tracks r L q s) :
    (q.drain Command.run s).2.memory.slots.length = s.memory.slots.length := by
  refine Queue.drain_preserves
    (P := fun t : Surroundings => t.memory.slots.length = s.memory.slots.length)
    (fun c member t same => ?_) rfl
  rw [Command.length_slots_run (tracks.local_of_length member same), same]

/-- Outstanding commands give out no buffer. -/
theorem next_drain (tracks : Tracks r L q s) :
    (q.drain Command.run s).2.memory.next = s.memory.next := by
  rw [Memory.next, Memory.next, tracks.length_slots_drain]

/-- Commands that are outstanding while a buffer is allocated do not notice. -/
theorem drain_grow (tracks : Tracks r L q s) (size : Nat) :
    q.drain Command.run (s.grow size) =
      ((q.drain Command.run s).1, (q.drain Command.run s).2.grow size) := by
  refine Queue.drain_commutes
    (P := fun t : Surroundings => t.memory.slots.length = s.memory.slots.length)
    (f := (Surroundings.grow · size)) (fun c member t same => ?_) (fun c member t same => ?_) rfl
  · rw [Command.length_slots_run (tracks.local_of_length member same), same]
  · exact Command.run_grow (tracks.local_of_length member same) size

theorem stores_drain (tracks : Tracks r L q s) (still : L.copying = false) :
    (q.drain Command.run s).2.stores = s.stores := by
  refine Queue.drain_preserves (P := fun t : Surroundings => t.stores = s.stores)
    (fun c member t same => ?_) rfl
  rw [Command.stores_run (tracks.copying still c member), same]

/-- Commands that are outstanding while a store changes do not notice. -/
theorem drain_restore (tracks : Tracks r L q s) (still : L.copying = false)
    (f : List Bytes → List Bytes) :
    q.drain Command.run (s.restore f) =
      ((q.drain Command.run s).1, (q.drain Command.run s).2.restore f) :=
  Queue.drain_commutes (P := fun _ => True) (f := (Surroundings.restore · f))
    (fun _ _ _ _ => trivial)
    (fun c member _ _ => Command.run_restore (tracks.copying still c member) f) trivial

/-- What is settled already is left as it is by settling. -/
theorem drain_of_settled (tracks : Tracks r L q s) {stream : Nat} (h : L.settled = some stream) :
    q.drain Command.run s = (q, s) :=
  (tracks.settled stream h).2.drain_eq tracks.opened s

/-- The worker at rest, with every command done. -/
theorem quiet_drain (tracks : Tracks r L q s) : (q.drain Command.run s).1.Quiet :=
  tracks.numbered.quiet_drain s

theorem opened_drain (tracks : Tracks r L q s) :
    (q.drain Command.run s).1.closing = false :=
  (Queue.closing_drain q s).trans tracks.opened

/-- Settling once more changes nothing. -/
theorem drain_drain (tracks : Tracks r L q s) (t : Surroundings) :
    (q.drain Command.run s).1.drain Command.run t = ((q.drain Command.run s).1, t) :=
  tracks.quiet_drain.drain_eq tracks.opened_drain t

/-! ### Actions of the client -/

/-- What an action leads to. After settling it gets the same answer, and in the end the outcome is
the same. -/
structure Leads (r : Regime) (L : Ledger) (q : Queue Command Error) (s : Surroundings)
    (action : Action) (reply : action.Reply) (after : Queue Command Error) (t : Surroundings) :
    Prop where
  performed : action.perform (.solo q s) = (reply, .solo after t)
  promised : L.Promises r action reply
  tracks : Tracks r (L.next action reply) after t
  settled : ∃ w, action.perform (World.solo q s).settle = (reply, w) ∧
    w.settle = (World.solo after t).settle

/-- A change of the stores while no command copies to one. -/
theorem restore {sizes : List Nat} (tracks : Tracks r L q s) (still : L.copying = false)
    (f : List Bytes → List Bytes) (lengths : (f s.stores).map List.length = sizes)
    (grown : L.stores <+: sizes) : Tracks r { L with stores := sizes } q (s.restore f) where
  solo := tracks.solo
  devices := tracks.devices
  streams := tracks.streams
  stores := lengths
  allocated := tracks.allocated
  numbered := tracks.numbered
  opened := tracks.opened
  outstanding c member := (tracks.outstanding c member).mono (fun _ given => given) grown
  copying := tracks.copying
  newest := tracks.newest
  settled := tracks.settled
  kept managed := by
    rw [tracks.drain_restore still f]
    have kept := tracks.kept managed
    exact ⟨kept.live, fun b n size => grown.subset (kept.bounded b n size), kept.devices,
      kept.given, kept.distinct⟩
  well sound := by
    rw [tracks.drain_restore still f]
    exact tracks.well ⟨sound.1, fun size member => sound.2 size (grown.subset member)⟩

/-- Settling after a change of the stores is a change of the settled stores. -/
theorem settle_restore (tracks : Tracks r L q s) (still : L.copying = false)
    (f : List Bytes → List Bytes) :
    (World.solo (q.drain Command.run s).1 ((q.drain Command.run s).2.restore f)).settle =
      (World.solo q (s.restore f)).settle := by
  rw [World.settle_solo, World.settle_solo, tracks.drain_drain, tracks.drain_restore still f]

theorem leads_createStore (tracks : Tracks r L q s) (still : L.copying = false) (size : Nat) :
    Leads r L q s (.createStore size) (HostStore.mk s.stores.length size) q
      (s.restore (· ++ [.zeros size])) where
  performed := rfl
  promised := by
    change HostStore.mk s.stores.length size = HostStore.mk L.stores.length size
    rw [← tracks.stores, List.length_map]
  tracks := tracks.restore still _ (by simp [tracks.stores]) (List.prefix_append _ _)
  settled := by
    refine ⟨_, ?_, tracks.settle_restore still _⟩
    rw [World.settle_solo, ← tracks.stores_drain still]
    rfl

theorem leads_patchStore (tracks : Tracks r L q s) (still : L.copying = false)
    (store offset : Nat) (bytes : Bytes) :
    Leads r L q s (.patchStore store offset bytes) () q
      (s.restore (·.modify store (·.splice offset bytes))) where
  performed := rfl
  promised := trivial
  tracks := by
    have lengths := Bytes.map_length_modify_splice s.stores store offset bytes
    exact tracks.restore still _ (lengths.trans tracks.stores) (List.prefix_refl _)
  settled := by
    refine ⟨_, ?_, tracks.settle_restore still _⟩
    rw [World.settle_solo]
    rfl

theorem leads_readStore (tracks : Tracks r L q s) (still : L.copying = false) (store : Nat) :
    Leads r L q s (.readStore store) (s.stores[store]?.getD []) q s where
  performed := rfl
  promised size found := by
    rw [← tracks.stores, List.getElem?_map] at found
    cases there : s.stores[store]? with
    | none => simp [there] at found
    | some bytes => simpa [there] using found
  tracks := tracks
  settled := by
    refine ⟨(World.solo q s).settle, ?_, ?_⟩
    · rw [World.settle_solo, ← tracks.stores_drain still]
      rfl
    · rw [World.settle_solo, World.settle_solo, tracks.drain_drain]

/-- An allocation gives out a buffer that no outstanding command names. -/
theorem grow (tracks : Tracks r L q s) {size : Nat} (stored : size ∈ L.stores) :
    Tracks r (L.next (.allocate 0 size) s.memory.next) q (s.grow size) where
  solo := tracks.solo
  devices := tracks.devices
  streams := tracks.streams
  stores := tracks.stores
  allocated h n given := by
    cases given with
    | head => exact ⟨rfl, s.memory.issued_next_grow size⟩
    | tail _ old =>
      obtain ⟨device, issued⟩ := tracks.allocated h n old
      exact ⟨device, issued.grow size⟩
  numbered := tracks.numbered
  opened := tracks.opened
  outstanding c member :=
    (tracks.outstanding c member).mono (fun _ given => given.grow size) (List.prefix_refl _)
  copying := tracks.copying
  newest := tracks.newest
  settled := tracks.settled
  kept managed := by
    rw [tracks.drain_grow size, ← tracks.next_drain]
    exact (tracks.kept managed).grow stored
  well sound := by
    rw [tracks.drain_grow size]
    exact tracks.well sound

theorem leads_allocate (tracks : Tracks r L q s) {size : Nat} (stored : size ∈ L.stores) :
    Leads r L q s (.allocate 0 size) s.memory.next q (s.grow size) where
  performed := rfl
  promised := trivial
  tracks := tracks.grow stored
  settled := by
    refine ⟨.solo (q.drain Command.run s).1 ((q.drain Command.run s).2.grow size), ?_, ?_⟩
    · rw [World.settle_solo, ← tracks.next_drain]
      rfl
    · rw [World.settle_solo, World.settle_solo, tracks.drain_drain, tracks.drain_grow]

theorem leads_liveBuffers (tracks : Tracks r L q s) {stream : Nat}
    (settled : L.settled = some stream) (device : Nat) :
    Leads r L q s (.liveBuffers device) ((World.solo q s).memory device).liveCount q s where
  performed := rfl
  promised := trivial
  tracks := tracks
  settled := by
    have same : (World.solo q s).settle = World.solo q s := by
      rw [World.settle_solo, tracks.drain_of_settled settled]
    refine ⟨.solo q s, ?_, rfl⟩
    rw [same]
    rfl

/-- Draining after one more submission is running that command last. -/
theorem drain_push (tracks : Tracks r L q s) (c : Command) :
    (q.push c).drain Command.run s =
      ({ (q.drain Command.run s).1 with
          submitted := q.submitted + 1
          completed := q.submitted + 1
          failure := (q.drain Command.run s).1.failure <|> (c.run (q.drain Command.run s).2).2 },
        (c.run (q.drain Command.run s).2).1) := by
  have quiet := tracks.quiet_drain
  have idle := quiet.worker_eq_idle (tracks.numbered.drain s) tracks.opened_drain
  rw [Queue.drain_push tracks.opened c s,
    Queue.drain_push_of_idle idle quiet.1 tracks.opened_drain, Queue.submitted_drain]

theorem local_of_allowed (tracks : Tracks r L q s) {c : Command}
    (allowed : L.AllowsCommand r 0 c) : c.Local s.memory L.stores := by
  have issued : ∀ {b n}, L.Has r 0 b n → s.memory.Issued b :=
    fun has => (tracks.allocated _ _ has.1).2
  cases c with
  | copyToDevice b bytes =>
    obtain ⟨n, has, _⟩ := allowed
    exact issued has
  | copyToHost b store =>
    obtain ⟨found, n, has, _⟩ := allowed
    exact ⟨issued has, found⟩
  | launch kernel arguments =>
    obtain ⟨k, values, accepted, rfl, fits⟩ := allowed
    have standard : kernel = k.toKernel := by
      have solo := tracks.solo
      cases r with
      | manual => exact accepted
      | managed => exact accepted
      | several => exact absurd rfl solo
    refine ⟨k, values, standard, rfl, fun b member => ?_⟩
    obtain ⟨n, has⟩ := fits.has_buffers member
    exact issued has
  | release b =>
    obtain ⟨n, has⟩ := allowed
    exact issued has
  | fence => trivial

theorem push (tracks : Tracks r L q s) {c : Command} (allowed : L.AllowsCommand r 0 c) :
    Tracks r (L.submitted 0 c (q.submitted + 1)) (q.push c) s where
  solo := tracks.solo
  devices := tracks.devices
  streams := tracks.streams
  stores := tracks.stores
  allocated := tracks.allocated
  numbered := tracks.numbered.push tracks.opened c
  opened := tracks.opened
  outstanding d member := by
    rw [Queue.outstanding_push] at member
    obtain old | new := List.mem_append.mp member
    · exact tracks.outstanding d old
    · cases List.mem_singleton.mp new
      exact tracks.local_of_allowed allowed
  copying still d member := by
    obtain ⟨before, now⟩ : L.copying = false ∧ c.copiesToHost = false := by
      simpa [Ledger.submitted] using still
    rw [Queue.outstanding_push] at member
    obtain old | new := List.mem_append.mp member
    · exact tracks.copying before d old
    · cases List.mem_singleton.mp new
      exact now
  newest stream sequence same := by
    cases same
    exact ⟨rfl, rfl⟩
  settled stream same := by cases same
  kept managed := by
    subst managed
    rw [tracks.drain_push c]
    exact (tracks.kept rfl).run allowed (by simp [Ledger.deviceOf, tracks.streams])
  well sound := by
    obtain ⟨rfl, small⟩ := sound
    rw [tracks.drain_push c]
    simp [tracks.well ⟨rfl, small⟩, (tracks.kept rfl).run_succeeds allowed small]

theorem leads_submit (tracks : Tracks r L q s) {c : Command} (allowed : L.AllowsCommand r 0 c) :
    Leads r L q s (.submit 0 c) (some (q.submitted + 1)) (q.push c) s where
  performed := by
    simp [Action.perform, World.solo, Queue.submit_of_open tracks.opened, Action.onQueue]
  promised := rfl
  tracks := tracks.push allowed
  settled := by
    refine ⟨.solo ((q.drain Command.run s).1.push c) (q.drain Command.run s).2, ?_, ?_⟩
    · have same : (q.drain Command.run s).1.submitted = q.submitted := Queue.submitted_drain q s
      rw [World.settle_solo, ← same]
      simp [Action.perform, World.solo, Queue.submit_of_open tracks.opened_drain, Action.onQueue]
    · rw [World.settle_solo, World.settle_solo, Queue.drain_push tracks.opened]

/-- Waiting for the newest command ends with every command done. -/
theorem awaited (tracks : Tracks r L q s) {sequence : Nat}
    (newest : L.newest = some (0, sequence)) (done : q.isDone sequence = true) :
    Tracks r (L.next (.await 0 sequence) ()) q s := by
  have quiet : q.Quiet := by
    refine tracks.numbered.quiet_of_done ?_
    rw [← (tracks.newest 0 sequence newest).2]
    simpa [Queue.isDone] using done
  constructor
  case solo => exact tracks.solo
  case devices => exact tracks.devices
  case streams => exact tracks.streams
  case stores => exact tracks.stores
  case allocated => exact tracks.allocated
  case numbered => exact tracks.numbered
  case opened => exact tracks.opened
  case outstanding => exact tracks.outstanding
  case copying =>
    intro _ c member
    rw [quiet.outstanding_eq_nil] at member
    cases member
  case newest =>
    intro stream n same
    cases same
  case settled =>
    intro stream same
    cases same
    exact ⟨rfl, quiet⟩
  case kept =>
    intro managed
    obtain ⟨live, bounded, devices, given, distinct⟩ := tracks.kept managed
    exact ⟨live, bounded, devices, given, distinct⟩
  case well => exact tracks.well

theorem leads_await (tracks : Tracks r L q s) {sequence : Nat}
    (newest : L.newest = some (0, sequence)) (done : q.isDone sequence = true) :
    Leads r L q s (.await 0 sequence) () q s where
  performed := rfl
  promised := trivial
  tracks := tracks.awaited newest done
  settled := ⟨_, rfl, by rw [World.settle_solo, World.settle_solo, tracks.drain_drain]⟩

theorem taken (tracks : Tracks r L q s) {stream : Nat} (settled : L.settled = some stream) :
    Tracks r L q.takeFailure.2 s := by
  have quiet : q.takeFailure.2.Quiet := (tracks.settled stream settled).2
  have drained := tracks.drain_of_settled settled
  have same : q.takeFailure.2.drain Command.run s = (q.takeFailure.2, s) :=
    quiet.drain_eq tracks.opened s
  constructor
  case solo => exact tracks.solo
  case devices => exact tracks.devices
  case streams => exact tracks.streams
  case stores => exact tracks.stores
  case allocated => exact tracks.allocated
  case numbered => exact tracks.numbered.takeFailure
  case opened => exact tracks.opened
  case outstanding => exact tracks.outstanding
  case copying => exact tracks.copying
  case newest => exact tracks.newest
  case settled => exact fun other found => ⟨(tracks.settled other found).1, quiet⟩
  case kept =>
    intro managed
    have kept := tracks.kept managed
    rw [drained] at kept
    rw [same]
    exact kept
  case well =>
    intro _
    rw [same]
    rfl

theorem leads_takeFailure (tracks : Tracks r L q s) (settled : L.settled = some 0) :
    Leads r L q s (.takeFailure 0) q.failure q.takeFailure.2 s where
  performed := rfl
  promised sound := by
    have well := tracks.well sound
    rwa [tracks.drain_of_settled settled] at well
  tracks := tracks.taken settled
  settled := by
    have same : (World.solo q s).settle = World.solo q s := by
      rw [World.settle_solo, tracks.drain_of_settled settled]
    exact ⟨.solo q.takeFailure.2 s, by rw [same]; rfl, rfl⟩

/-- There is no stream but the one. -/
theorem alone (tracks : Tracks r L q s) {stream device : Nat}
    (found : L.streams[stream]? = some ⟨device, true⟩) : stream = 0 ∧ device = 0 := by
  rw [tracks.streams] at found
  cases stream with
  | zero =>
    cases found
    exact ⟨rfl, rfl⟩
  | succ stream => cases found

/-- Every allowed action leads on. -/
theorem act {action : Action} (tracks : Tracks r L q s) (allowed : L.Allows r action)
    (enabled : action.enabled (.solo q s) = true) :
    ∃ reply after t, Leads r L q s action reply after t := by
  cases action with
  | openDevice => exact absurd allowed tracks.solo
  | openStream device => exact absurd allowed.1 tracks.solo
  | createStore size => exact ⟨_, _, _, tracks.leads_createStore allowed size⟩
  | readStore store => exact ⟨_, _, _, tracks.leads_readStore allowed store⟩
  | patchStore store offset bytes =>
    exact ⟨_, _, _, tracks.leads_patchStore allowed store offset bytes⟩
  | allocate device size =>
    obtain ⟨device_lt, stored⟩ := allowed
    obtain rfl : device = 0 := by
      rw [tracks.devices] at device_lt
      omega
    exact ⟨_, _, _, tracks.leads_allocate stored⟩
  | liveBuffers device =>
    obtain ⟨stream, settled⟩ := Option.isSome_iff_exists.mp allowed
    exact ⟨_, _, _, tracks.leads_liveBuffers settled device⟩
  | submit stream command =>
    obtain ⟨device, found, allowed⟩ := allowed
    obtain ⟨rfl, rfl⟩ := tracks.alone found
    exact ⟨_, _, _, tracks.leads_submit allowed⟩
  | await stream sequence =>
    have newest : L.newest = some (stream, sequence) := allowed
    obtain ⟨rfl, _⟩ := tracks.newest stream sequence newest
    exact ⟨_, _, _, tracks.leads_await newest (by simpa [Action.enabled, World.solo] using enabled)⟩
  | takeFailure stream =>
    have settled : L.settled = some stream := allowed
    obtain ⟨rfl, _⟩ := tracks.settled stream settled
    exact ⟨_, _, _, tracks.leads_takeFailure settled⟩
  | close stream => exact absurd allowed tracks.solo
  | join stream => exact absurd allowed.1 tracks.solo

end Tracks

end DeviceArrays

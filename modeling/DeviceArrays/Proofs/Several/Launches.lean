import DeviceArrays.Proofs.Program.Licences
import DeviceArrays.Proofs.Several.Lanes

/-!
# What programs leave in the queues

At the end of a program, and so between any two calls of a longer one, a queue may still be full.
The commands in it name only buffers that the program was given on the stream's device, and launch
only kernels that the library of that device provides. No two devices in scope have one number, so
what a queue launches is settled by the library of any array on the device.
-/
namespace DeviceArrays

variable {α : Type} {w after : World} {L : Ledger} {E : Licence} {action : Action} {stream : Nat}
  {ws : Workspace} {devices : List Device} {c : Client α} {t : Situation α}

/-! ### Buffers -/

namespace Ledger

theorem gave_of_allows {device : Nat} {c : Command} (allowed : L.AllowsCommand .several device c) :
    L.Gave (c.buffers.map (device, ·)) := by
  intro x member
  obtain ⟨b, named, rfl⟩ := List.mem_map.mp member
  cases c with
  | copyToDevice d bytes =>
    cases List.mem_singleton.mp named
    obtain ⟨n, has, _⟩ := allowed
    exact ⟨n, has.1⟩
  | copyToHost d store =>
    cases List.mem_singleton.mp named
    obtain ⟨_, n, has, _⟩ := allowed
    exact ⟨n, has.1⟩
  | launch kernel arguments =>
    obtain ⟨k, values, _, rfl, fits⟩ := allowed
    have passed := Argument.mem_of_buffer? named
    obtain ⟨n, has⟩ := fits.has_buffers (ElementwiseKernel.mem_buffers_of_write passed)
    exact ⟨n, has.1⟩
  | release d =>
    cases List.mem_singleton.mp named
    obtain ⟨n, has⟩ := allowed
    exact ⟨n, has.1⟩
  | fence => cases named

/-- What was given stays so. -/
theorem Gave.kept {given : List (Nat × BufferId)} (gave : L.Gave given) (action : Action)
    (reply : action.Reply) : (L.next action reply).Gave given := fun b member =>
  gave.next action reply b (List.mem_append_right _ member)

end Ledger

/-- Every outstanding command names only buffers that the client was given. -/
abbrev World.Known (w : World) (L : Ledger) : Prop :=
  w.Queued fun d _ c => L.Gave (c.buffers.map (d, ·))

theorem World.Known.act (known : w.Known L) (accounts : Accounts L w)
    (allowed : L.Allows .several action) :
    (action.perform w).2.Known (L.next action (action.perform w).1) := by
  refine (known.mono fun _ _ _ gave => gave.kept action _).act fun i c same state found => ?_
  subst same
  obtain ⟨device, entry, allowed⟩ := allowed
  obtain ⟨other, there, rfl, _⟩ := accounts.find entry
  cases found.symm.trans there
  exact (Ledger.gave_of_allows allowed).kept _ _

/-- Along every schedule of a careful client its ledger is true, also of what is queued. -/
theorem Reaches.accounts {s : Situation α} {Q : α → Ledger → Prop} (h : Reaches s t)
    (alone : s.clients = [c]) (careful : c.Follows .several L Q) (accounts : Accounts L s.world)
    (known : s.world.Known L) :
    ∃ d K, t.clients = [d] ∧ d.Follows .several K Q ∧ Accounts K t.world ∧ t.world.Known K := by
  induction h generalizing c L with
  | here => exact ⟨c, L, alone, careful, accounts, known⟩
  | step move later ih =>
    cases move with
    | client i turn enabled =>
      cases alone
      obtain ⟨rfl, rfl⟩ := turn_alone turn
      obtain ⟨promised, kept⟩ := accounts.act careful.1 enabled
      exact ih rfl (careful.2 _ promised) kept (known.act accounts careful.1)
    | worker stream served => exact ih alone careful (accounts.serve served) (known.serve served)

/-! ### Kernels -/

/-- A device of this number is among the devices and has the kernel in its library. -/
def Provides (devices : List Device) (number : Nat) (kernel : Kernel) : Prop :=
  ∃ d ∈ devices, d.number = number ∧ kernel ∈ d.library.kernels

/-- Every outstanding launch is of a kernel that its device provides. -/
abbrev World.Launches (w : World) (devices : List Device) : Prop :=
  w.Queued fun d _ c => ∀ kernel arguments, c = .launch kernel arguments →
    Provides devices d kernel

/-- A licence that is good for the world: it names only streams that there are, and for each only
kernels that its device provides. -/
structure Licence.Good (E : Licence) (w : World) (devices : List Device) : Prop where
  count : E.devices ≤ w.memories.length
  streams : ∀ i kernel, E.kernels i kernel → ∃ state, w.streams[i]? = some state ∧
    Provides devices state.device kernel

namespace Licence.Good

theorem act (good : E.Good w devices) (action : Action) :
    E.Good (action.perform w).2 devices := by
  refine ⟨Nat.le_trans good.count (w.length_memories_perform action),
    fun i kernel allowed => ?_⟩
  obtain ⟨state, found, provides⟩ := good.streams i kernel allowed
  obtain ⟨next, there, same⟩ := World.device_perform found action
  exact ⟨next, there, same ▸ provides⟩

theorem serve (good : E.Good w devices) (served : w.serve stream = some after) :
    E.Good after devices := by
  refine ⟨World.length_memories_serve served ▸ good.count, fun i kernel allowed => ?_⟩
  obtain ⟨state, found, provides⟩ := good.streams i kernel allowed
  obtain ⟨next, there, same⟩ := World.device_serve found served
  exact ⟨next, there, same ▸ provides⟩

/-- The number of a device that is opened is new. -/
theorem promises (good : E.Good w devices) (action : Action) :
    E.Promises action (action.perform w).1 := by
  cases action with
  | openDevice => exact good.count
  | _ => trivial

theorem launches (good : E.Good w devices) (launches : w.Launches devices)
    (allowed : E.Allows action) : (action.perform w).2.Launches devices := by
  refine launches.act fun i c same state found kernel arguments launch => ?_
  subst same launch
  obtain ⟨other, there, provides⟩ := good.streams i kernel allowed
  cases found.symm.trans there
  exact provides

end Licence.Good

/-- Along every schedule a client that keeps to a good licence launches what devices provide. -/
theorem Reaches.launches {s : Situation α} {Q : α → Prop} (h : Reaches s t)
    (alone : s.clients = [c]) (licensed : c.Licensed E Q) (good : E.Good s.world devices)
    (launches : s.world.Launches devices) :
    ∃ d, t.clients = [d] ∧ d.Licensed E Q ∧ t.world.Launches devices := by
  induction h generalizing c with
  | here => exact ⟨c, alone, licensed, launches⟩
  | step move later ih =>
    cases move with
    | client i turn enabled =>
      cases alone
      obtain ⟨rfl, rfl⟩ := turn_alone turn
      exact ih rfl (licensed.2 _ (good.promises _)) (good.act _)
        (good.launches launches licensed.1)
    | worker stream served => exact ih alone licensed (good.serve served) (launches.serve served)

/-! ### Programs -/

/-- What is in scope is on devices in scope, of which no two have one number, and every outstanding
launch is of a kernel that its device provides. -/
structure World.Furnished (w : World) (ws : Workspace) : Prop where
  sited : ws.Sited
  numbers : (ws.devices.map (·.number)).Nodup
  launches : w.Launches ws.devices

/-- What devices in scope provide may be launched on the streams that are there. -/
def Workspace.licence (ws : Workspace) (w : World) : Licence :=
  ⟨w.memories.length, fun i kernel => ∃ state, w.streams[i]? = some state ∧
    Provides ws.devices state.device kernel⟩

/-- The licence covers whatever is in scope. -/
theorem Workspace.Sited.licensed (sited : ws.Sited) (covered : ws.Covered .several L)
    (accounts : Accounts L w) : ws.Licensed (ws.licence w) where
  streams i s found kernel member := by
    obtain ⟨state, there, same, _⟩ := accounts.find (covered.streams i s found).opened
    exact ⟨state, there, s.device, sited.streams i s found, same.symm, member⟩
  arrays i a found kernel member := by
    have holds := covered.arrays i a found
    obtain ⟨state, there, same, _⟩ := accounts.find holds.stream.opened
    exact ⟨state, there, a.device, sited.arrays i a found, holds.same ▸ same.symm, member⟩

theorem Provides.mono {more : List Device} {number : Nat} {kernel : Kernel}
    (provides : Provides devices number kernel) (grown : devices ⊆ more) :
    Provides more number kernel := by
  obtain ⟨d, member, same, there⟩ := provides
  exact ⟨d, grown member, same, there⟩

/-- A call brings at most one device into scope, with a new number. -/
theorem Workspace.Extends.furnished {later : Workspace} {v : World}
    (extends_ : ws.Extends (ws.licence w) later) (numbers : (ws.devices.map (·.number)).Nodup)
    (below : ∀ d ∈ ws.devices, d.number < w.memories.length) (launches : v.Launches ws.devices) :
    v.Furnished later := by
  obtain ⟨sited, same | ⟨d, new, more⟩⟩ := extends_
  · exact ⟨sited, same ▸ numbers, same ▸ launches⟩
  · have fresh : d.number ∉ ws.devices.map (·.number) := by
      intro member
      obtain ⟨e, known, same⟩ := List.mem_map.mp member
      have less := below e known
      have : w.memories.length ≤ d.number := new
      omega
    refine ⟨sited, ?_, launches.mono fun _ _ _ provided kernel arguments launch => ?_⟩
    · rw [more, List.map_append, List.map_singleton]
      exact (List.perm_append_singleton _ _).nodup_iff.mpr (List.nodup_cons.mpr ⟨fresh, numbers⟩)
    · refine (provided kernel arguments launch).mono ?_
      rw [more]
      exact List.subset_append_left _ _

/-- What holds of scope and queues at the beginning holds at the end of a program. -/
theorem Program.furnished {p : Program} {log : List (Request × Option Reply)} {outcome : Outcome}
    {v : World} (within : p.Within .several) (covered : ws.Covered .several L)
    (accounts : Accounts L w) (known : w.Known L) (furnished : w.Furnished ws)
    (h : Reaches ⟨[p.client ws log], w⟩ ⟨[.done outcome], v⟩) :
    ∃ K, outcome.workspace.Covered .several K ∧ Accounts K v ∧ v.Known K ∧
      v.Furnished outcome.workspace := by
  induction p generalizing L w ws log with
  | done =>
    obtain ⟨d, K, rest, ended, still, queued⟩ := h.accounts rfl
      (Q := fun outcome K => outcome.workspace.Covered .several K ∧ outcome.workspace = ws)
      (show _ ∧ _ from ⟨covered, rfl⟩) accounts known
    cases rest
    obtain ⟨covered, same⟩ := ended
    obtain ⟨d, rest, _, launches⟩ := h.launches (E := ws.licence w) (Q := fun _ => True) rfl trivial
      ⟨Nat.le_refl _, fun _ _ allowed => allowed⟩ furnished.launches
    exact ⟨K, covered, still, queued, same ▸ furnished.sited, same ▸ furnished.numbers,
      same ▸ launches⟩
  | call request next ih =>
    unfold client at h
    cases performed : request.perform ws with
    | none =>
      rw [performed] at h
      exact ih none (within.2 none) covered accounts known furnished h
    | some work =>
      rw [performed] at h
      obtain ⟨⟨⟨reply, later⟩, issued⟩, u, first, rest⟩ := h.of_bind
      have careful := request.follows_perform covered within.1 performed
      obtain ⟨_, K, ended, followed, accounts', known'⟩ :=
        first.accounts rfl (careful.recording covered.issued) accounts known
      cases ended
      have licensed := Request.licensed_perform furnished.sited
        (furnished.sited.licensed covered accounts) performed
      obtain ⟨_, ended, extends_, launches⟩ := first.launches rfl licensed.recording
        ⟨Nat.le_refl _, fun _ _ allowed => allowed⟩ furnished.launches
      cases ended
      obtain ⟨ends, gave⟩ := followed
      have below : ∀ d ∈ ws.devices, d.number < w.memories.length := fun d member =>
        accounts.devices ▸ (covered.devices d member).number
      have next := extends_.furnished furnished.numbers below launches
      have reissued : { later with issued }.Covered .several K :=
        { ends.covered with issued := gave }
      exact ih (some reply) (within.2 (some reply)) reissued accounts' known'
        ⟨⟨next.sited.streams, next.sited.arrays, next.sited.bounded⟩, next.numbers,
          next.launches⟩ rest

theorem World.furnished_empty : World.empty.Furnished .empty where
  sited := ⟨fun i _ found => by simp [Workspace.stream?, Workspace.empty] at found,
    fun i _ found => by simp [Workspace.array?, Workspace.empty] at found,
    fun i _ found => by simp [Workspace.array?, Workspace.empty] at found⟩
  numbers := List.nodup_nil
  launches _ _ found := by cases found

end DeviceArrays

import DeviceArrays.Client
import DeviceArrays.DeviceArray.Basic
import DeviceArrays.Proofs.Kernel.Success
import Mathlib.Data.List.Perm.Basic

/-!
# What a client knows

A ledger is what a client can tell from its own actions and their answers, whatever the workers are
at: how many devices there are, which streams are open, how large its stores are, which buffers it
was given and which of them it has not yet submitted for release. `Ledger.Allows` says which action
a careful client may take, and `Ledger.Promises` what it may then expect of the answer.
-/
namespace DeviceArrays

/-- Which programs are looked at. On one stream buffers may or may not be released by hand; with
several devices and streams they may not, and kernels may do their work wrongly. -/
inductive Regime
  | manual
  | managed
  | several

/-- The error was found by a check of the library, not by a device or a stream. -/
def Error.IsRefusal : Error → Prop
  | .useAfterFree _ _ | .device _ | .streamClosed => False
  | _ => True

namespace Command

/-- The buffer that a command frees. -/
def released? : Command → Option BufferId
  | .release b => some b
  | _ => none

/-- Whether a command changes a host store. -/
def copiesToHost : Command → Bool
  | .copyToHost _ _ => true
  | _ => false

theorem eq_release_of_released? {c : Command} {b : BufferId} (h : c.released? = some b) :
    c = .release b := by
  cases c with
  | release d =>
    cases h
    rfl
  | _ => cases h

/-- The release of a live buffer succeeds. -/
theorem perform_release {b : BufferId} {n : Nat} {s : Surroundings}
    (live : s.memory.size? b = some n) :
    (release b).perform s = .ok { s with memory := s.memory.put b none } := by
  obtain ⟨bytes, there, _⟩ := Memory.contents?_of_size? live
  simp only [perform, Memory.free_eq_ok there]

end Command

/-- A buffer of a device. -/
structure Holding where
  device : Nat
  buffer : BufferId
  deriving DecidableEq

/-- The device of a stream, and whether it still takes commands. -/
structure StreamEntry where
  device : Nat
  opened : Bool

structure Ledger where
  devices : Nat
  streams : List StreamEntry
  /-- The streams whose workers were joined. -/
  joined : List Nat
  /-- The size of each host store. -/
  stores : List Nat
  /-- Every buffer that was ever allocated, with its size. -/
  allocated : List (Holding × Nat)
  /-- The buffers whose release was not submitted. -/
  owned : List Holding
  /-- The stream and the number of the newest command, until it has been waited for. -/
  newest : Option (Nat × Nat)
  /-- The stream whose commands were all done when last waited for, until the next one. -/
  settled : Option Nat
  /-- A copy to a host store may be outstanding. -/
  copying : Bool

namespace Regime

/-- The kernel libraries a device may have. -/
def Permits : Regime → Library → Prop
  | .several, library => ∀ k ∈ library.kernels, k.Steady
  | _, library => library = .standard

/-- The kernels a device may have for some work of arrays. -/
def Accepts : Regime → Kernel → ElementwiseKernel → Prop
  | .several, kernel, _ => kernel.Steady
  | _, kernel, k => kernel = k.toKernel

/-- The launches a client may submit, where `has b n` says that buffer `b` holds `n` bytes. -/
def Launches (r : Regime) (has : BufferId → Nat → Prop) (kernel : Kernel)
    (arguments : List Argument) : Prop :=
  ∃ (k : ElementwiseKernel) (values : Parameter.Values k.parameters),
    r.Accepts kernel k ∧ arguments = Contract.write k.parameters values ∧ k.Fits has values

end Regime

namespace Ledger

variable {L K M : Ledger} {r : Regime}

/-- The client was given a buffer of this size, and may still use it. -/
def Has (L : Ledger) (r : Regime) (device : Nat) (b : BufferId) (size : Nat) : Prop :=
  (⟨device, b⟩, size) ∈ L.allocated ∧ (r ≠ .manual → ⟨device, b⟩ ∈ L.owned)

/-- Nothing of what was allocated is too large, and no buffer is released by hand. -/
def Sound (L : Ledger) (r : Regime) : Prop :=
  r = .managed ∧ ∀ size ∈ L.stores, size ≤ largestAllocation

def deviceOf (L : Ledger) (stream : Nat) : Nat := (L.streams[stream]?.map (·.device)).getD 0

/-- The commands that may be submitted to a stream of a device. -/
def AllowsCommand (L : Ledger) (r : Regime) (device : Nat) : Command → Prop
  | .copyToDevice b bytes => ∃ n, L.Has r device b n ∧ bytes.length ≤ n
  | .copyToHost b store =>
    L.stores[store.number]? = some store.size ∧ ∃ n, L.Has r device b n ∧ store.size ≤ n
  | .launch kernel arguments => r.Launches (L.Has r device) kernel arguments
  | .release b => ∃ n, L.Has r device b n
  | .fence => True

/-- The actions a client may take. Stores are left alone while a copy to one may be outstanding,
only the newest command is waited for, and a worker is joined after its stream was closed. -/
def Allows (L : Ledger) (r : Regime) : Action → Prop
  | .openDevice => r = .several
  | .openStream device => r = .several ∧ device < L.devices
  | .createStore _ | .readStore _ | .patchStore .. => L.copying = false
  | .allocate device size => device < L.devices ∧ size ∈ L.stores
  | .liveBuffers _ => L.settled.isSome
  | .submit stream command =>
    ∃ device, L.streams[stream]? = some ⟨device, true⟩ ∧ L.AllowsCommand r device command
  | .await stream sequence => L.newest = some (stream, sequence)
  | .takeFailure stream => L.settled = some stream
  | .close _ => r = .several
  | .join stream => r = .several ∧ ∃ device, L.streams[stream]? = some ⟨device, false⟩

/-- What the answer to an allowed action is known to be. -/
def Promises (L : Ledger) (r : Regime) : (a : Action) → a.Reply → Prop
  | .openDevice, device => device = L.devices
  | .openStream _, stream => stream = L.streams.length
  | .createStore size, store => store = HostStore.mk L.stores.length size
  | .readStore store, bytes => ∀ size, L.stores[store]? = some size → bytes.length = size
  | .submit .., sequence => sequence.isSome
  | .takeFailure _, failure => L.Sound r → failure = none
  | _, _ => True

/-- The ledger after a command was submitted. -/
def submitted (L : Ledger) (stream : Nat) (command : Command) (sequence : Nat) : Ledger :=
  { L with
    owned :=
      match command.released? with
      | some b => L.owned.erase ⟨L.deviceOf stream, b⟩
      | none => L.owned
    newest := some (stream, sequence)
    settled := none
    copying := L.copying || command.copiesToHost }

/-- A command that may be submitted releases only what the client holds. -/
theorem mem_owned_of_allows {device : Nat} {c : Command} {b : BufferId} (careful : r ≠ .manual)
    (allowed : L.AllowsCommand r device c) (h : c.released? = some b) :
    ⟨device, b⟩ ∈ L.owned := by
  cases Command.eq_release_of_released? h
  obtain ⟨n, _, mine⟩ := allowed
  exact mine careful

/-- What was held before a command is held still, but for what the command releases. -/
theorem perm_owned_submitted (L : Ledger) (stream sequence : Nat) {c : Command}
    (mine : ∀ b, c.released? = some b → ⟨L.deviceOf stream, b⟩ ∈ L.owned) :
    L.owned.Perm ((L.submitted stream c sequence).owned ++
      c.released?.toList.map (⟨L.deviceOf stream, ·⟩)) := by
  unfold submitted
  cases released : c.released? with
  | none => simp
  | some b =>
    exact (List.perm_cons_erase (mine b released)).trans (List.perm_append_singleton _ _).symm

/-- The ledger after an action, given the answer. -/
def next (L : Ledger) : (a : Action) → a.Reply → Ledger
  | .openDevice, _ => { L with devices := L.devices + 1 }
  | .openStream device, _ => { L with streams := L.streams ++ [⟨device, true⟩] }
  | .createStore size, _ => { L with stores := L.stores ++ [size] }
  | .allocate device size, (b : BufferId) =>
    { L with allocated := (⟨device, b⟩, size) :: L.allocated, owned := ⟨device, b⟩ :: L.owned }
  | .submit stream command, some sequence => L.submitted stream command sequence
  | .await stream _, _ => { L with newest := none, settled := some stream, copying := false }
  | .close stream, _ =>
    { L with streams := L.streams.modify stream fun entry => { entry with opened := false } }
  | .join stream, _ => { L with joined := stream :: L.joined }
  | _, _ => L

/-- What a call leaves of a ledger: it may have made devices, stores and buffers, and it has waited
for every copy to a store. -/
structure Yields (L : Ledger) (owned : List Holding) (K : Ledger) : Prop where
  devices : L.devices ≤ K.devices
  streams : K.streams = L.streams
  joined : K.joined = L.joined
  stores : L.stores <+: K.stores
  allocated : L.allocated <:+ K.allocated
  owned : K.owned = owned
  copying : K.copying = false

theorem Yields.refl (still : L.copying = false) : L.Yields L.owned L where
  devices := Nat.le_refl _
  streams := rfl
  joined := rfl
  stores := List.prefix_refl _
  allocated := List.suffix_refl _
  owned := rfl
  copying := still

theorem Yields.trans {held kept : List Holding} (first : L.Yields held K)
    (later : K.Yields kept M) : L.Yields kept M where
  devices := Nat.le_trans first.devices later.devices
  streams := later.streams.trans first.streams
  joined := later.joined.trans first.joined
  stores := first.stores.trans later.stores
  allocated := first.allocated.trans later.allocated
  owned := later.owned
  copying := later.copying

theorem Sound.of_yields {owned : List Holding} (h : L.Yields owned K) (sound : K.Sound r) :
    L.Sound r :=
  ⟨sound.1, fun size member => sound.2 size (h.stores.subset member)⟩

theorem Has.of_yields {owned : List Holding} {device size : Nat} {b : BufferId}
    (has : L.Has r device b size) (h : L.Yields owned K)
    (kept : r ≠ .manual → ⟨device, b⟩ ∈ L.owned → ⟨device, b⟩ ∈ owned) : K.Has r device b size := by
  obtain ⟨given, mine⟩ := has
  refine ⟨h.allocated.subset given, fun careful => ?_⟩
  rw [h.owned]
  exact kept careful (mine careful)

/-- A device that arrays can be made on. -/
structure Knows (L : Ledger) (r : Regime) (d : Device) : Prop where
  number : d.number < L.devices
  library : r.Permits d.library

/-- A stream that commands can be submitted to. -/
structure Drives (L : Ledger) (r : Regime) (s : Stream) : Prop where
  device : L.Knows r s.device
  opened : L.streams[s.number]? = some ⟨s.device.number, true⟩

theorem getElem?_of_prefix {β : Type} {l k : List β} (grown : l <+: k) {i : Nat} {x : β}
    (h : l[i]? = some x) : k[i]? = some x := by
  obtain ⟨more, rfl⟩ := grown
  rw [List.getElem?_append_left (List.getElem?_eq_some_iff.mp h).1, h]

/-- Replacing an element exchanges it for the new one. -/
theorem perm_cons_set {β : Type} {l : List β} {i : Nat} {y : β} (found : l[i]? = some y) (x : β) :
    (x :: l).Perm (y :: l.set i x) := by
  obtain ⟨inside, rfl⟩ := List.getElem?_eq_some_iff.mp found
  have whole : (l[i] :: l.eraseIdx i).Perm l := List.getElem_cons_eraseIdx_perm inside
  have replaced : (l.set i x).Perm (x :: l.eraseIdx i) := List.set_perm_cons_eraseIdx inside x
  exact (whole.symm.cons x).trans ((List.Perm.swap _ _ _).trans (replaced.symm.cons l[i]))

theorem Knows.of_yields {owned : List Holding} {d : Device} (known : L.Knows r d)
    (h : L.Yields owned K) : K.Knows r d :=
  ⟨Nat.lt_of_lt_of_le known.number h.devices, known.library⟩

theorem Drives.of_yields {owned : List Holding} {s : Stream} (driven : L.Drives r s)
    (h : L.Yields owned K) : K.Drives r s :=
  ⟨driven.device.of_yields h, h.streams ▸ driven.opened⟩

theorem Drives.deviceOf {s : Stream} (driven : L.Drives r s) :
    L.deviceOf s.number = s.device.number := by
  simp [Ledger.deviceOf, driven.opened]

end Ledger

/-- The buffer of an array. -/
def DeviceArray.holding (a : DeviceArray) : Holding := ⟨a.device.number, a.buffer⟩

/-- An array that can be worked with: it is on a known device and its stream is one of that device,
and both its store and its buffer hold its elements. -/
structure Ledger.Holds (L : Ledger) (r : Regime) (a : DeviceArray) : Prop where
  device : L.Knows r a.device
  stream : L.Drives r a.stream
  same : a.stream.device.number = a.device.number
  size : a.store.size = a.byteSize
  store : L.stores[a.store.number]? = some a.byteSize
  buffer : L.Has r a.device.number a.buffer a.byteSize

theorem Ledger.Holds.of_yields {L K : Ledger} {r : Regime} {owned : List Holding} {a : DeviceArray}
    (holds : L.Holds r a) (h : L.Yields owned K)
    (kept : r ≠ .manual → a.holding ∈ L.owned → a.holding ∈ owned) : K.Holds r a where
  device := holds.device.of_yields h
  stream := holds.stream.of_yields h
  same := holds.same
  size := holds.size
  store := Ledger.getElem?_of_prefix h.stores holds.store
  buffer := holds.buffer.of_yields h kept

end DeviceArrays

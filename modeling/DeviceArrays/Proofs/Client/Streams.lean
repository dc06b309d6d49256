import DeviceArrays.DeviceArray.Transfer
import DeviceArrays.Proofs.Client.Discipline

/-!
# Streams and stores

The work of a stream as a careful client sees it: which commands it submits, and what it knows when
it has waited. On a stream of arrays that are not too large nothing that is waited for has failed.
-/
namespace DeviceArrays

variable {α : Type} {r : Regime} {L : Ledger} {Q : Unit → Ledger → Prop} {E : Error → Ledger → Prop}

namespace HostStore

theorem follows_create {Q : HostStore → Ledger → Prop} {size : Nat} (still : L.copying = false)
    (h : Q ⟨L.stores.length, size⟩ { L with stores := L.stores ++ [size] }) :
    Call.Follows r (create size) L Q E := by
  refine Call.follows_perform still fun store promised => ?_
  rw [promised]
  exact h

theorem follows_bytes {Q : Bytes → Ledger → Prop} {store : HostStore} {size : Nat}
    (still : L.copying = false) (found : L.stores[store.number]? = some size)
    (h : ∀ bytes, bytes.length = size → Q bytes L) : Call.Follows r store.bytes L Q E :=
  Call.follows_perform still fun bytes promised => h bytes (promised size found)

theorem follows_write {store : HostStore} {data : Bytes} (still : L.copying = false) (h : Q () L) :
    Call.Follows r (store.write data) L Q E :=
  Call.follows_perform still fun _ _ => h

end HostStore

/-- What a call that waits is told of the failure that was kept. -/
def told : Option Error → Except Error Unit
  | some e => .error e
  | none => .ok ()

theorem told_eq_ok {failure : Option Error} : told failure = .ok () ↔ failure = none := by
  cases failure <;> simp [told]

theorem told_eq_error {failure : Option Error} {e : Error} :
    told failure = .error e ↔ failure = some e := by
  cases failure <;> simp [told]

namespace Stream

variable {s : Stream}

theorem follows_submit {Q : Nat → Ledger → Prop} {command : Command} (driven : L.Drives r s)
    (allowed : L.AllowsCommand r s.device.number command)
    (h : ∀ sequence, Q sequence (L.submitted s.number command sequence)) :
    Call.Follows r (s.submit command) L Q E := by
  unfold submit
  refine Call.Follows.bind
    (Call.follows_perform ⟨_, driven.opened, allowed⟩ fun reply promised => ?_)
  cases reply with
  | none => cases promised
  | some sequence => exact h sequence

/-- Submitting a command that is no release and leaves the stores alone changes nothing that arrays
depend on. -/
theorem yields_submitted {command : Command} {sequence : Nat} (still : L.copying = false)
    (kept : command.released? = none) (copies : command.copiesToHost = false) :
    L.Yields L.owned (L.submitted s.number command sequence) where
  devices := Nat.le_refl _
  streams := rfl
  joined := rfl
  stores := List.prefix_refl _
  allocated := List.suffix_refl _
  owned := by simp [Ledger.submitted, kept]
  copying := by simp [Ledger.submitted, still, copies]

theorem follows_release {b : BufferId} {n : Nat} (driven : L.Drives r s)
    (has : L.Has r s.device.number b n) (still : L.copying = false)
    (h : ∀ K, L.Yields (L.owned.erase ⟨s.device.number, b⟩) K → Q () K) :
    Call.Follows r (s.release b) L Q E := by
  refine Call.Follows.bind (follows_submit driven ⟨n, has⟩ fun sequence => h _ ?_)
  constructor
  case devices => exact Nat.le_refl _
  case streams => rfl
  case joined => rfl
  case stores => exact List.prefix_refl _
  case allocated => exact List.suffix_refl _
  case owned => simp [Ledger.submitted, Command.released?, driven.deviceOf]
  case copying => simp [Ledger.submitted, still, Command.copiesToHost]

theorem follows_copyToDevice {b : BufferId} {store : HostStore} {n : Nat} (driven : L.Drives r s)
    (has : L.Has r s.device.number b n) (found : L.stores[store.number]? = some n)
    (still : L.copying = false) (h : ∀ K, L.Yields L.owned K → Q () K) :
    Call.Follows r (s.copyToDevice b store) L Q E := by
  refine Call.Follows.bind (HostStore.follows_bytes still found fun bytes length => ?_)
  have fits : L.AllowsCommand r s.device.number (.copyToDevice b bytes) :=
    ⟨n, has, Nat.le_of_eq length⟩
  refine Call.Follows.bind (follows_submit driven fits fun sequence => h _ ?_)
  exact yields_submitted still rfl rfl

/-- Waiting for the newest command ends with everything done. A failure is one that happened. -/
theorem follows_waitFor {sequence : Nat} (newest : L.newest = some (s.number, sequence))
    (h : ∀ K, L.Yields L.owned K → K.settled = some s.number → Q () K)
    (error : ∀ e K, L.Yields L.owned K → K.settled = some s.number → ¬ K.Sound r → E e K) :
    Call.Follows r (s.waitFor sequence) L Q E := by
  refine Call.Follows.bind (Call.follows_perform newest fun _ _ => ?_)
  have yields : L.Yields L.owned (L.next (.await s.number sequence) ()) :=
    ⟨Nat.le_refl _, rfl, rfl, List.prefix_refl _, List.suffix_refl _, rfl, rfl⟩
  refine Call.Follows.bind (Call.follows_perform rfl fun failure promised => ?_)
  cases failure with
  | none => exact h _ yields rfl
  | some e =>
    refine error e _ yields rfl fun sound => ?_
    cases promised sound

/-- A stream is closed, and then its worker is joined. -/
theorem follows_close (driven : L.Drives .several s)
    (h : Q () ((L.next (.close s.number) ()).next (.join s.number) ())) :
    Call.Follows .several s.close L Q E := by
  refine Call.Follows.bind (Call.follows_perform rfl fun _ _ => ?_)
  refine Call.follows_perform ⟨rfl, s.device.number, ?_⟩ fun _ _ => h
  change (L.streams.modify s.number _)[s.number]? = _
  rw [List.getElem?_modify, driven.opened]
  simp

theorem follows_synchronize (driven : L.Drives r s)
    (h : ∀ K, L.Yields L.owned K → K.settled = some s.number → Q () K)
    (error : ∀ e K, L.Yields L.owned K → K.settled = some s.number → ¬ K.Sound r → E e K) :
    Call.Follows r s.synchronize L Q E := by
  refine Call.Follows.bind (follows_submit driven trivial fun sequence => ?_)
  have same : ∀ {K}, (L.submitted s.number .fence sequence).Yields L.owned K → L.Yields L.owned K :=
    fun y => ⟨y.devices, y.streams, y.joined, y.stores, y.allocated, y.owned, y.copying⟩
  exact follows_waitFor rfl (fun K yields => h K (same yields))
    (fun e K yields => error e K (same yields))

theorem follows_launch {kernel : Kernel} {arguments : List Argument} (driven : L.Drives r s)
    (launches : r.Launches (L.Has r s.device.number) kernel arguments) (still : L.copying = false)
    (h : ∀ K, L.Yields L.owned K → Q () K)
    (error : ∀ e K, L.Yields L.owned K → ¬ K.Sound r → E e K) :
    Call.Follows r (s.launch kernel arguments) L Q E := by
  unfold launch
  refine Call.Follows.bind (follows_submit driven launches fun sequence => ?_)
  have yields : L.Yields L.owned (L.submitted s.number (.launch kernel arguments) sequence) :=
    yields_submitted still rfl rfl
  split
  case isTrue =>
    exact follows_waitFor rfl (fun K later _ => h K (yields.trans later))
      (fun e K later _ => error e K (yields.trans later))
  case isFalse => exact h _ yields

end Stream

/-- The buffer as the array's stream knows it. -/
theorem Ledger.Holds.has {a : DeviceArray} (holds : L.Holds r a) :
    L.Has r a.stream.device.number a.buffer a.byteSize := by
  rw [holds.same]
  exact holds.buffer

namespace DeviceArray

variable {a : DeviceArray}

/-- Queues the copy of a store that holds all elements. -/
theorem follows_updateDevice (holds : L.Holds r a) (still : L.copying = false)
    (h : ∀ K, L.Yields L.owned K → Q () K) : Call.Follows r a.updateDevice L Q E :=
  Stream.follows_copyToDevice holds.stream holds.has holds.store still h

theorem follows_updateHost (holds : L.Holds r a)
    (h : ∀ K, L.Yields L.owned K → K.settled = some a.stream.number → Q () K)
    (error : ∀ e K, L.Yields L.owned K → K.settled = some a.stream.number → ¬ K.Sound r → E e K) :
    Call.Follows r a.updateHost L Q E := by
  have fits : L.AllowsCommand r a.stream.device.number (.copyToHost a.buffer a.store) :=
    ⟨holds.size ▸ holds.store, a.byteSize, holds.has, Nat.le_of_eq holds.size⟩
  refine Call.Follows.bind (Call.Follows.bind (Stream.follows_submit holds.stream fits ?_))
  intro sequence
  have driven : (L.submitted a.stream.number (.copyToHost a.buffer a.store) sequence).Drives r
      a.stream := ⟨⟨holds.stream.device.number, holds.stream.device.library⟩, holds.stream.opened⟩
  have same : ∀ {K}, (L.submitted a.stream.number (.copyToHost a.buffer a.store) sequence).Yields
      L.owned K → L.Yields L.owned K :=
    fun y => ⟨y.devices, y.streams, y.joined, y.stores, y.allocated, y.owned, y.copying⟩
  exact Stream.follows_synchronize driven (fun K yields => h K (same yields))
    (fun e K yields => error e K (same yields))

/-- Dropping an owner submits the release of its buffer. -/
theorem follows_drop_owner {Q : Unit → Ledger → Prop} (holds : L.Holds r a)
    (owner : a.ownership = .owner) (still : L.copying = false)
    (h : ∀ K, L.Yields (L.owned.erase a.holding) K → Q () K) : a.drop.Follows r L Q := by
  unfold drop
  rw [owner]
  refine Client.Follows.bind (Client.Follows.mono
    (Stream.follows_release holds.stream holds.has still
      (Q := fun _ => Q ()) (E := fun _ _ => False) fun K yields => h K ?_) ?_)
  · rwa [holds.same] at yields
  · intro answer K ended
    cases answer with
    | ok _ => exact ended
    | error e => exact ended.elim

theorem follows_release_owner (holds : L.Holds r a) (owner : a.ownership = .owner)
    (still : L.copying = false) (h : ∀ K, L.Yields (L.owned.erase a.holding) K → Q () K) :
    Call.Follows r a.release L Q E := by
  unfold release
  rw [owner]
  refine Stream.follows_release holds.stream holds.has still fun K yields => h K ?_
  rwa [holds.same] at yields

/-- The bytes of the host store are read while nothing is being copied to it. -/
theorem follows_hostBytes {Q : Bytes → Ledger → Prop} (holds : L.Holds r a)
    (still : L.copying = false) (h : ∀ bytes, bytes.length = a.byteSize → Q bytes L) :
    Call.Follows r a.hostBytes L Q E :=
  HostStore.follows_bytes still holds.store h

theorem follows_elements {t : ElementType} {Q : List (Element t) → Ledger → Prop}
    (holds : L.Holds r a) (still : L.copying = false) (h : ∀ values, Q values L)
    (error : ∀ e, e.IsRefusal → E e L) : Call.Follows r (a.elements t) L Q E := by
  unfold elements
  refine Call.follows_guard (fun _ => error _ trivial) fun _ => ?_
  exact Call.Follows.bind (HostStore.follows_bytes still holds.store fun bytes _ => h _)

theorem follows_gridElements {t : ElementType} {Q : List (Element t) → Ledger → Prop}
    (holds : L.Holds r a) (still : L.copying = false) (h : ∀ values, Q values L)
    (error : ∀ e, e.IsRefusal → E e L) : Call.Follows r (a.gridElements t) L Q E :=
  Call.Follows.bind (follows_elements holds still (fun _ => h _) error)

theorem follows_text {Q : String → Ledger → Prop} (holds : L.Holds r a)
    (still : L.copying = false) (h : ∀ text, Q text L) (error : ∀ e, e.IsRefusal → E e L) :
    Call.Follows r a.text L Q E :=
  Call.Follows.bind (follows_gridElements holds still (fun _ => h _) error)

end DeviceArray

end DeviceArrays

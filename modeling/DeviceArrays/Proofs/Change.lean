import DeviceArrays.Proofs.Kernel.Locality
import DeviceArrays.Proofs.Memory.Lifetimes
import DeviceArrays.Proofs.Queue.Drain

/-!
# Changes that commands make

Whether a command fails, with which error, and what it changes is settled by what the buffers it
names hold. So what a worker does next is one change of at most one buffer or store, which it makes
in the same way whatever happens to other buffers and stores meanwhile.
-/
namespace DeviceArrays

namespace Memory

variable {m t : Memory} {b : BufferId}

theorem contents_congr (same : t.contents? b = m.contents? b) : t.contents b = m.contents b := by
  simp only [contents, same]

theorem copyIn_error_congr (same : t.contents? b = m.contents? b) {data : Bytes} {e : DeviceError}
    (h : m.copyIn b data = .error e) : t.copyIn b data = .error e := by
  unfold copyIn at h ⊢
  rw [contents_congr same]
  cases found : m.contents b with
  | error e => rwa [found] at h
  | ok bytes =>
    simp only [found, bind, Except.bind] at h ⊢
    split at h
    case isTrue short => rwa [if_pos short]
    case isFalse => cases h

theorem copyOut_congr (same : t.contents? b = m.contents? b) (count : Nat) :
    t.copyOut b count = m.copyOut b count := by
  simp only [copyOut, contents_congr same]

theorem free_error_congr (same : t.contents? b = m.contents? b) {e : DeviceError}
    (h : m.free b = .error e) : t.free b = .error e := by
  unfold free at h ⊢
  rw [contents_congr same]
  cases found : m.contents b with
  | error e => rwa [found] at h
  | ok bytes => simp [found, bind, Except.bind, pure, Except.pure] at h

end Memory

theorem Argument.mem_of_buffer? {arguments : List Argument} {b : BufferId}
    (named : b ∈ arguments.filterMap buffer?) : .buffer b ∈ arguments := by
  obtain ⟨argument, passed, is_buffer⟩ := List.mem_filterMap.mp named
  cases argument <;> cases is_buffer
  exact passed

namespace Command

/-- The host stores that a command names. Bytes that go to the device are fixed when they are
submitted, so only a copy to the host has one. -/
def stores : Command → List Nat
  | .copyToHost _ store => [store.number]
  | _ => []

end Command

/-- What the end of a command has changed: nothing, a buffer, or a host store. -/
inductive Change
  | keep
  | put (b : BufferId) (bytes : Option Bytes)
  | send (store : Nat) (bytes : Bytes)

namespace Change

def apply (s : Surroundings) : Change → Surroundings
  | keep => s
  | put b bytes => { s with memory := s.memory.put b bytes }
  | send store bytes => { s with stores := s.stores.set store bytes }

/-- Only some buffers and stores are changed, and only a live buffer. -/
def Within (buffers : List BufferId) (stores : List Nat) (s : Surroundings) : Change → Prop
  | keep => True
  | put b _ => b ∈ buffers ∧ (s.memory.contents? b).isSome
  | send store _ => store ∈ stores

theorem Within.mono {buffers more : List BufferId} {stores further : List Nat} {s : Surroundings}
    {x : Change} (h : x.Within buffers stores s) (among : buffers ⊆ more)
    (within : stores ⊆ further) : x.Within more further s := by
  cases x with
  | keep => trivial
  | put b bytes => exact ⟨among h.1, h.2⟩
  | send store bytes => exact within h

end Change

open Memory (AgreesOn)

/-- The buffers that a command names determine what it changes and how it ends. -/
theorem Command.determined {c : Command} (elementwise : c.IsElementwise) (s : Surroundings) :
    ∃ (x : Change) (e : Option Error), x.Within c.buffers c.stores s ∧
      ∀ t : Surroundings, AgreesOn c.buffers s.memory t.memory → c.run t = (x.apply t, e) := by
  cases c with
  | copyToDevice b bytes =>
    have here : b ∈ (copyToDevice b bytes).buffers := .head _
    cases copied : s.memory.copyIn b bytes with
    | ok m =>
      obtain ⟨old, live, fits, rfl⟩ := Memory.copyIn_cases copied
      refine ⟨.put b (some (old.splice 0 bytes)), none, ⟨here, by simp [live]⟩, fun t agrees => ?_⟩
      simp [run, perform, Memory.copyIn_eq_ok ((agrees b here).trans live) fits, Change.apply]
    | error e =>
      refine ⟨.keep, some (.ofDevice "copy to device" e), trivial, fun t agrees => ?_⟩
      simp [run, left, perform, Memory.copyIn_error_congr (agrees b here) copied, Change.apply]
  | copyToHost b store =>
    have here : b ∈ (copyToHost b store).buffers := .head _
    cases copied : s.memory.copyOut b store.size with
    | ok bytes =>
      refine ⟨.send store.number bytes, none, .head _, fun t agrees => ?_⟩
      simp [run, perform, Memory.copyOut_congr (agrees b here), copied, Change.apply]
    | error e =>
      refine ⟨.keep, some (.ofDevice "copy to host" e), trivial, fun t agrees => ?_⟩
      simp [run, left, perform, Memory.copyOut_congr (agrees b here), copied, Change.apply]
  | launch kernel arguments =>
    obtain ⟨k, rfl⟩ := elementwise
    obtain ⟨outcome, target, settled⟩ := ElementwiseKernel.determines_run s.memory k arguments
    cases outcome with
    | ok written =>
      obtain ⟨b, bytes⟩ := written
      have named := target b bytes rfl
      have ran := settled s.memory fun _ _ => rfl
      obtain ⟨old, live⟩ := ElementwiseKernel.live_of_run ran (Argument.mem_of_buffer? named)
      refine ⟨.put b (some bytes), none, ⟨named, by simp [live]⟩, fun t agrees => ?_⟩
      simp only [run, perform, ElementwiseKernel.toKernel, settled t.memory agrees]
      rfl
    | error fault =>
      refine ⟨.keep, ((launch k.toKernel arguments).run s).2, trivial, fun t agrees => ?_⟩
      have ran := settled s.memory fun _ _ => rfl
      simp only [run, perform, ElementwiseKernel.toKernel, settled t.memory agrees, ran]
      cases fault <;> rfl
  | release b =>
    have here : b ∈ (release b).buffers := .head _
    cases freed : s.memory.free b with
    | ok m =>
      obtain ⟨⟨bytes, live⟩, rfl⟩ := Memory.free_cases freed
      refine ⟨.put b none, none, ⟨here, by simp [live]⟩, fun t agrees => ?_⟩
      simp [run, perform, Memory.free_eq_ok ((agrees b here).trans live), Change.apply]
    | error e =>
      refine ⟨.keep, some (.ofDevice "release" e), trivial, fun t agrees => ?_⟩
      simp [run, left, perform, Memory.free_error_congr (agrees b here) freed, Change.apply]
  | fence => exact ⟨.keep, none, trivial, fun t _ => rfl⟩

namespace Queue

/-- The buffers that outstanding commands name. -/
def buffers (q : Queue Command Error) : List BufferId := q.outstanding.flatMap Command.buffers

/-- The host stores that outstanding commands name. -/
def stores (q : Queue Command Error) : List Nat := q.outstanding.flatMap Command.stores

/-- A turn of a worker makes one change, and makes the same one wherever the buffers that its
commands name are the same. -/
theorem Turn.determined {q after : Queue Command Error} {s next : Surroundings}
    (turn : Turn Command.run q s after next) (elementwise : ∀ c ∈ q.outstanding, c.IsElementwise) :
    ∃ x : Change, next = x.apply s ∧ x.Within q.buffers q.stores s ∧
      ∀ t : Surroundings, AgreesOn q.buffers s.memory t.memory →
        Turn Command.run q t after (x.apply t) := by
  cases turn with
  | fetch idle pending => exact ⟨.keep, rfl, trivial, fun t _ => .fetch idle pending⟩
  | stop idle none_left closing =>
    exact ⟨.keep, rfl, trivial, fun t _ => .stop idle none_left closing⟩
  | @perform sequence c holding =>
    have first : c ∈ q.outstanding := by simp [outstanding, holding]
    have buffers : c.buffers ⊆ q.buffers := fun b named => List.mem_flatMap.mpr ⟨c, first, named⟩
    have stores : c.stores ⊆ q.stores := fun i named => List.mem_flatMap.mpr ⟨c, first, named⟩
    obtain ⟨x, e, within, determined⟩ := Command.determined (elementwise c first) s
    have here := determined s fun _ _ => rfl
    refine ⟨x, by rw [here], within.mono buffers stores, fun t agrees => ?_⟩
    have there := determined t fun b named => agrees b (buffers named)
    have turn : Turn Command.run q t _ _ := .perform holding
    rw [there] at turn
    rwa [here]
  | report finished => exact ⟨.keep, rfl, trivial, fun t _ => .report finished⟩

end Queue

end DeviceArrays

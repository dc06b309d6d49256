import DeviceArrays.Proofs.Client.Ledger
import DeviceArrays.Proofs.Effect

/-!
# Commands that commute with a client

A local command names only buffers that were made before it and changes only a store that exists. It
does the same before and after an allocation, and unless it copies to a store it does the same
before and after a change of the stores.
-/
namespace DeviceArrays

/-- Surroundings with one more buffer. -/
def Surroundings.grow (s : Surroundings) (size : Nat) : Surroundings :=
  { s with memory := s.memory.grow size }

/-- Surroundings with other stores. -/
def Surroundings.restore (s : Surroundings) (f : List Bytes → List Bytes) : Surroundings :=
  { s with stores := f s.stores }

namespace Command

variable {c : Command} {s : Surroundings} {m : Memory} {sizes : List Nat}

/-- Only buffers that were given out and stores of the given sizes are named, and only standard
kernels are launched. -/
def Local (m : Memory) (sizes : List Nat) : Command → Prop
  | .copyToDevice b _ => m.Issued b
  | .copyToHost b store => m.Issued b ∧ sizes[store.number]? = some store.size
  | .launch kernel arguments =>
    ∃ (k : ElementwiseKernel) (values : Parameter.Values k.parameters), kernel = k.toKernel ∧
      arguments = Contract.write k.parameters values ∧ ∀ b ∈ k.buffers values, m.Issued b
  | .release b => m.Issued b
  | .fence => True

theorem Local.mono {k : Memory} {more : List Nat} (h : c.Local m sizes)
    (issued : ∀ b, m.Issued b → k.Issued b) (grown : sizes <+: more) : c.Local k more := by
  cases c with
  | copyToDevice b bytes => exact issued b h
  | copyToHost b store => exact ⟨issued b h.1, Ledger.getElem?_of_prefix grown h.2⟩
  | launch kernel arguments =>
    obtain ⟨k, values, same, written, given⟩ := h
    exact ⟨k, values, same, written, fun b member => issued b (given b member)⟩
  | release b => exact issued b h
  | fence => trivial

theorem Local.isElementwise (h : c.Local m sizes) : c.IsElementwise := by
  cases c with
  | launch kernel arguments =>
    obtain ⟨k, values, same, _⟩ := h
    exact ⟨k, same⟩
  | _ => trivial

theorem run_of_perform_map {f : Surroundings → Surroundings}
    (h : c.perform (f s) = (c.perform s).map f) (left : c.left (f s) = f (c.left s)) :
    c.run (f s) = (f (c.run s).1, (c.run s).2) := by
  unfold run
  rw [h, left]
  cases c.perform s <;> rfl

theorem perform_grow (h : c.Local s.memory sizes) (size : Nat) :
    c.perform (s.grow size) = (c.perform s).map (Surroundings.grow · size) := by
  cases c with
  | copyToDevice b bytes =>
    simp only [perform, Surroundings.grow, Memory.copyIn_grow h]
    cases s.memory.copyIn b bytes <;> rfl
  | copyToHost b store =>
    simp only [perform, Surroundings.grow, Memory.copyOut_grow h.1]
    cases s.memory.copyOut b store.size <;> rfl
  | launch kernel arguments =>
    obtain ⟨k, values, rfl, rfl, given⟩ := h
    simp only [perform, Surroundings.grow, ElementwiseKernel.toKernel, ElementwiseKernel.run_write,
      ElementwiseKernel.execute_grow k values given]
    cases k.execute s.memory values with
    | ok after => rfl
    | error fault => cases fault <;> rfl
  | release b =>
    simp only [perform, Surroundings.grow, Memory.free_grow h]
    cases s.memory.free b <;> rfl
  | fence => rfl

/-- An allocation can be made before or after a local command. -/
theorem run_grow (h : c.Local s.memory sizes) (size : Nat) :
    c.run (s.grow size) = ((c.run s).1.grow size, (c.run s).2) :=
  run_of_perform_map (f := (Surroundings.grow · size)) (perform_grow h size) (by
    rw [left_of_isElementwise h.isElementwise, left_of_isElementwise h.isElementwise])

theorem perform_restore (h : c.copiesToHost = false) (f : List Bytes → List Bytes) :
    c.perform (s.restore f) = (c.perform s).map (Surroundings.restore · f) := by
  cases c with
  | copyToDevice b bytes =>
    simp only [perform, Surroundings.restore]
    cases s.memory.copyIn b bytes <;> rfl
  | copyToHost b store => cases h
  | launch kernel arguments =>
    simp only [perform, Surroundings.restore]
    cases kernel.run s.memory arguments with
    | ok after => rfl
    | error fault => cases fault <;> rfl
  | release b =>
    simp only [perform, Surroundings.restore]
    cases s.memory.free b <;> rfl
  | fence => rfl

/-- The stores can be changed before or after a command that leaves them alone. -/
theorem run_restore (h : c.copiesToHost = false) (f : List Bytes → List Bytes) :
    c.run (s.restore f) = ((c.run s).1.restore f, (c.run s).2) :=
  run_of_perform_map (f := (Surroundings.restore · f)) (perform_restore h f) (by cases c <;> rfl)

theorem stores_run (h : c.copiesToHost = false) : (c.run s).1.stores = s.stores := by
  refine run_preserves (P := fun t => t.stores = s.stores) (c.stores_left s) fun after effect => ?_
  cases effect with
  | copyToHost copied => cases h
  | _ => rfl

/-- What a local command does to buffers is to change contents, or to free one. -/
theorem length_slots_run (h : c.Local s.memory sizes) :
    (c.run s).1.memory.slots.length = s.memory.slots.length := by
  refine run_preserves (P := fun t => t.memory.slots.length = s.memory.slots.length)
    (by rw [left_of_isElementwise h.isElementwise]) fun after effect => ?_
  cases effect with
  | copyToDevice copied => exact Memory.length_slots_congr (Memory.sizes_copyIn copied)
  | copyToHost copied => rfl
  | launch ran =>
    obtain ⟨k, values, rfl, rfl, _⟩ := h
    exact Memory.length_slots_congr (ElementwiseKernel.sizes_run ran)
  | release freed => exact Memory.length_slots_free freed
  | fence => rfl

theorem map_length_stores_run (h : c.Local s.memory sizes)
    (stores : s.stores.map List.length = sizes) :
    (c.run s).1.stores.map List.length = sizes := by
  refine run_preserves (P := fun t => t.stores.map List.length = sizes)
    (by rwa [stores_left]) fun after effect => ?_
  cases effect with
  | copyToHost copied =>
    have found := h.2
    rw [← stores, ← Memory.length_copyOut copied] at found
    exact (Bytes.map_length_set found).trans stores
  | _ => exact stores

end Command

end DeviceArrays

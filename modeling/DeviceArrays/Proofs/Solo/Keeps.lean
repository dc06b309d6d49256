import DeviceArrays.Proofs.Solo.Commands

/-!
# Settled memory

Once every command is done, the buffers a client still owns are live and have the sizes it asked
for. A command that such a client may submit then keeps this, and it succeeds unless something too
large was allocated.
-/
namespace DeviceArrays

variable {L : Ledger} {s t : Surroundings} {q : Queue Command Error} {c : Command}

/-- Memory is as a client on one stream knows it that releases nothing by hand. -/
structure Keeps (L : Ledger) (s : Surroundings) : Prop where
  live : ∀ h n, (h, n) ∈ L.allocated → h ∈ L.owned → s.memory.size? h.buffer = some n
  bounded : ∀ b n, s.memory.size? b = some n → n ∈ L.stores
  devices : ∀ h n, (h, n) ∈ L.allocated → h.device = 0 ∧ s.memory.Issued h.buffer
  given : ∀ h ∈ L.owned, ∃ n, (h, n) ∈ L.allocated
  distinct : L.owned.Nodup

namespace Keeps

theorem size_of_has {b : BufferId} {n : Nat} (kept : Keeps L s) (has : L.Has .managed 0 b n) :
    s.memory.size? b = some n ∧ n ∈ L.stores := by
  have size : s.memory.size? b = some n := kept.live ⟨0, b⟩ n has.1 (has.2 nofun)
  exact ⟨size, kept.bounded b n size⟩

/-- Work that keeps every size keeps everything. -/
theorem of_sizes {stream sequence : Nat} (kept : Keeps L s) (same : t.memory.sizes = s.memory.sizes)
    (holds : c.released? = none) : Keeps (L.submitted stream c sequence) t := by
  have owned : (L.submitted stream c sequence).owned = L.owned := by simp [Ledger.submitted, holds]
  constructor
  case live =>
    intro h n given mine
    rw [Memory.size?_congr same]
    exact kept.live h n given (owned ▸ mine)
  case bounded =>
    intro b n size
    rw [Memory.size?_congr same] at size
    exact kept.bounded b n size
  case devices =>
    intro h n given
    obtain ⟨device, issued⟩ := kept.devices h n given
    exact ⟨device, (Memory.issued_congr same).mpr issued⟩
  case given => exact fun h mine => kept.given h (owned ▸ mine)
  case distinct => exact owned.symm ▸ kept.distinct

/-- The buffers that were given out before are not the next one. -/
theorem ne_next {h : Holding} {n : Nat} (kept : Keeps L s) (given : (h, n) ∈ L.allocated) :
    h.buffer ≠ s.memory.next :=
  (kept.devices h n given).2.ne_next

/-- The next buffer is given out. -/
theorem grow {size : Nat} (kept : Keeps L s) (stored : size ∈ L.stores) :
    Keeps (L.next (.allocate 0 size) s.memory.next) (s.grow size) := by
  have size_of : ∀ b, (s.grow size).memory.size? b =
      if b = s.memory.next then some size else s.memory.size? b := s.memory.size?_grow size
  constructor
  case live =>
    intro h n given mine
    rw [size_of]
    cases given with
    | head => exact if_pos rfl
    | tail _ old =>
      have other := kept.ne_next old
      rw [if_neg other]
      cases mine with
      | head => exact absurd rfl other
      | tail _ mine => exact kept.live h n old mine
  case bounded =>
    intro b n found
    rw [size_of] at found
    split at found
    case isTrue =>
      cases found
      exact stored
    case isFalse => exact kept.bounded b n found
  case devices =>
    intro h n given
    cases given with
    | head => exact ⟨rfl, s.memory.issued_next_grow size⟩
    | tail _ old =>
      obtain ⟨device, issued⟩ := kept.devices h n old
      exact ⟨device, issued.grow size⟩
  case given =>
    intro h mine
    cases mine with
    | head => exact ⟨size, .head _⟩
    | tail _ mine =>
      obtain ⟨n, given⟩ := kept.given h mine
      exact ⟨n, .tail _ given⟩
  case distinct =>
    refine List.nodup_cons.mpr ⟨fun mine => ?_, kept.distinct⟩
    obtain ⟨n, given⟩ := kept.given _ mine
    exact kept.ne_next given rfl

/-- A released buffer is gone, and no other. -/
theorem of_release {b : BufferId} {m : Memory} {n stream sequence : Nat} (kept : Keeps L s)
    (has : L.Has .managed 0 b n) (device : L.deviceOf stream = 0)
    (freed : s.memory.free b = .ok m) :
    Keeps (L.submitted stream (.release b) sequence) { s with memory := m } := by
  have owned : (L.submitted stream (.release b) sequence).owned = L.owned.erase ⟨0, b⟩ := by
    simp [Ledger.submitted, Command.released?, device]
  have after : ∀ x, m.size? x = if x = b then none else s.memory.size? x := by
    intro x
    rw [(Memory.free_cases freed).2, Memory.size?_put (kept.size_of_has has).1]
    rfl
  constructor
  case live =>
    intro h k given mine
    rw [owned, kept.distinct.mem_erase_iff] at mine
    have other : h.buffer ≠ b := by
      rintro rfl
      obtain ⟨zero, _⟩ := kept.devices h k given
      exact mine.1 (by rw [← zero])
    change m.size? h.buffer = some k
    rw [after, if_neg other]
    exact kept.live h k given mine.2
  case bounded =>
    intro x k size
    change m.size? x = some k at size
    rw [after] at size
    split at size
    case isTrue => cases size
    case isFalse => exact kept.bounded x k size
  case devices =>
    intro h k given
    obtain ⟨zero, issued⟩ := kept.devices h k given
    refine ⟨zero, ?_⟩
    change m.Issued h.buffer
    rw [(Memory.free_cases freed).2]
    exact (Memory.issued_put _ _ _ _).mpr issued
  case given =>
    intro h mine
    rw [owned] at mine
    exact kept.given h (List.mem_of_mem_erase mine)
  case distinct =>
    rw [owned]
    exact kept.distinct.erase _

/-- A command that may be submitted keeps the settled memory as the client knows it. -/
theorem run {stream sequence : Nat} (kept : Keeps L s) (allowed : L.AllowsCommand .managed 0 c)
    (device : L.deviceOf stream = 0) : Keeps (L.submitted stream c sequence) (c.run s).1 := by
  obtain ⟨e, failed⟩ | ⟨effect, _⟩ := c.run_cases s
  · rw [failed]
    cases c with
    -- Only a release changes what is owned, and that of an owned buffer does not fail.
    | release b =>
      obtain ⟨n, has⟩ := allowed
      have performed := Command.perform_release (kept.size_of_has has).1
      rw [Command.run_of_perform performed] at failed
      cases congrArg Prod.snd failed
    | launch kernel arguments =>
      obtain ⟨k, values, rfl, _⟩ := allowed
      exact kept.of_sizes rfl rfl
    | _ => exact kept.of_sizes rfl rfl
  · generalize (c.run s).1 = after at effect
    cases effect with
    | copyToDevice copied => exact kept.of_sizes (Memory.sizes_copyIn copied) rfl
    | copyToHost copied => exact kept.of_sizes rfl rfl
    | launch ran =>
      obtain ⟨k, values, rfl, rfl, fits⟩ := allowed
      exact kept.of_sizes (ElementwiseKernel.sizes_run ran) rfl
    | release freed =>
      obtain ⟨n, has⟩ := allowed
      exact kept.of_release has device freed
    | fence => exact kept.of_sizes rfl rfl

/-- Where nothing too large was allocated, the command succeeds. -/
theorem run_succeeds (kept : Keeps L s) (allowed : L.AllowsCommand .managed 0 c)
    (small : ∀ size ∈ L.stores, size ≤ largestAllocation) : (c.run s).2 = none := by
  have known : ∀ b n, L.Has .managed 0 b n → s.memory.size? b = some n ∧ n ≤ largestAllocation := by
    intro b n has
    obtain ⟨size, stored⟩ := kept.size_of_has has
    exact ⟨size, small n stored⟩
  have performed : ∃ after, c.perform s = .ok after := by
    cases c with
    | copyToDevice b bytes =>
      obtain ⟨n, has, fits⟩ := allowed
      obtain ⟨old, live, length⟩ := Memory.contents?_of_size? (known b n has).1
      exact ⟨_, by simp [Command.perform, Memory.copyIn_eq_ok live (length ▸ fits)]; rfl⟩
    | copyToHost b store =>
      obtain ⟨_, n, has, fits⟩ := allowed
      obtain ⟨old, live, length⟩ := Memory.contents?_of_size? (known b n has).1
      exact ⟨_, by simp [Command.perform, Memory.copyOut_eq_ok live (length ▸ fits)]; rfl⟩
    | launch kernel arguments =>
      obtain ⟨k, values, rfl, rfl, fits⟩ := allowed
      obtain ⟨m, ran⟩ := ElementwiseKernel.execute_of_fits known fits
      refine ⟨{ s with memory := m }, ?_⟩
      simp only [Command.perform, ElementwiseKernel.toKernel, ElementwiseKernel.run_write, ran]
    | release b =>
      obtain ⟨n, has⟩ := allowed
      exact ⟨_, Command.perform_release (known b n has).1⟩
    | fence => exact ⟨s, rfl⟩
  obtain ⟨after, performed⟩ := performed
  rw [Command.run_of_perform performed]

end Keeps

end DeviceArrays

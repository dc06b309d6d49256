import DeviceArrays.Command
import DeviceArrays.Proofs.Kernel.Footprint

/-!
# What kernels write, and how they fail

An elementwise kernel writes one of the buffers it is given, its target, and leaves the contents of
all others as they were. Whatever stops it while it works, it is not that a kernel is missing, so
the failures of commands are told apart from those of a look-up in a library.
-/
namespace DeviceArrays

theorem Memory.contents?_writeElements {m after : Memory} {b c : BufferId} {t : ElementType}
    {offset : Nat} {values : List (Element t)} (h : m.writeElements b offset values = .ok after)
    (other : c ≠ b) : after.contents? c = m.contents? c := by
  obtain ⟨old, live, _, rfl⟩ := writeElements_cases h
  rw [contents?_put m (by simp [live]), if_neg other]

/-- The first bytes of a run change nothing when they are written over it. -/
theorem Bytes.splice_take (bytes : Bytes) (n : Nat) : bytes.splice 0 (bytes.take n) = bytes := by
  apply List.ext_getElem?
  intro i
  by_cases inside : i < bytes.length
  · rw [getElem?_splice _ _ _ _ inside, Nat.sub_zero, List.length_take]
    split
    case isTrue taken => rw [List.getElem?_take_of_lt (by omega)]
    case isFalse => rfl
  · rw [List.getElem?_eq_none (by rw [length_splice]; omega), List.getElem?_eq_none (by omega)]

namespace ElementwiseKernel

/-- The buffer a kernel writes to. -/
def target : (k : ElementwiseKernel) → Parameter.Values k.parameters → BufferId
  | .binary _, (_, _, _, _, _, _, r, _, ()) => r
  | .abs, (_, _, _, r, ()) => r
  | .fill, (_, _, x, _, ()) => x
  | .reverse, (_, _, _, r, ()) => r
  | .setSlice, (_, _, _, x, _, ()) => x

theorem contents?_store {m after : Memory} {b c : BufferId} {t : ElementType}
    {values : List (Element t)} {stride : Nat} (h : store m b values stride = .ok after)
    (other : c ≠ b) : after.contents? c = m.contents? c := by
  unfold store at h
  split at h
  case h_1 => cases h
  case h_2 => exact Memory.contents?_writeElements h other
  case h_3 =>
    obtain ⟨count, _, h⟩ := Attempt.bind_eq_ok h
    obtain ⟨region, _, h⟩ := Attempt.bind_eq_ok h
    exact Memory.contents?_writeElements h other

/-- Only the target of a kernel changes. -/
theorem contents?_execute {m after : Memory} {k : ElementwiseKernel}
    {values : Parameter.Values k.parameters} (h : k.execute m values = .ok after) {c : BufferId}
    (other : c ≠ k.target values) : after.contents? c = m.contents? c := by
  cases k with
  | binary operation =>
    obtain ⟨left, _, h⟩ := Attempt.bind_eq_ok h
    obtain ⟨right, _, h⟩ := Attempt.bind_eq_ok h
    obtain ⟨_, _, h⟩ := Attempt.bind_eq_ok h
    obtain ⟨_, _, h⟩ := Attempt.bind_eq_ok h
    exact contents?_store h other
  | abs =>
    obtain ⟨elements, _, h⟩ := Attempt.bind_eq_ok h
    exact Memory.contents?_writeElements h other
  | fill =>
    obtain ⟨value, _, h⟩ := Attempt.bind_eq_ok h
    obtain ⟨_, _, h⟩ := Attempt.bind_eq_ok h
    exact Memory.contents?_writeElements h other
  | reverse =>
    obtain ⟨elements, _, h⟩ := Attempt.bind_eq_ok h
    exact Memory.contents?_writeElements h other
  | setSlice =>
    obtain ⟨t, lower, upper, x, source, ⟨⟩⟩ := values
    simp only [execute, runSetSlice] at h
    split at h
    case isTrue => cases h
    case isFalse =>
      obtain ⟨elements, _, h⟩ := Attempt.bind_eq_ok h
      exact Memory.contents?_writeElements h other

/-- The work changes nothing, wherever it can be done. -/
def Idle (k : ElementwiseKernel) (values : Parameter.Values k.parameters) : Prop :=
  ∀ m after, k.execute m values = .ok after → after = m

theorem eq_of_runSetSlice_self {m after : Memory} {t : ElementType} {upper : Nat} {b : BufferId}
    (h : runSetSlice m t 0 upper b b = .ok after) : after = m := by
  simp only [runSetSlice, Nat.not_lt_zero, if_false, Nat.sub_zero] at h
  obtain ⟨values, read, h⟩ := Attempt.bind_eq_ok h
  obtain ⟨bytes, live, fits, rfl⟩ := Memory.readElements_cases read
  obtain ⟨old, there, _, rfl⟩ := Memory.writeElements_cases h
  cases live.symm.trans there
  rw [Nat.zero_mul, Element.listToBytes_listOfBytes t upper bytes fits, Bytes.splice_take,
    Memory.put_self live]

/-- Nothing changes where the first elements of a buffer are assigned to themselves. -/
theorem idle_setSlice_self (t : ElementType) (upper : Nat) (b : BufferId) :
    Idle .setSlice (t, (0 : Nat), upper, b, b, ()) :=
  fun _ _ => eq_of_runSetSlice_self

end ElementwiseKernel

/-! ### Failures -/

/-- The error is not that a kernel is missing. -/
def DeviceError.IsFound : DeviceError → Prop
  | .unknownKernel _ => False
  | _ => True

namespace Attempt

variable {α β : Type}

/-- The work is not stopped by a kernel that is missing. -/
def Equipped (x : Attempt α) : Prop := ∀ e, x = .error (.error e) → e.IsFound

theorem equipped_ok (a : α) : Equipped (.ok a) := nofun

theorem equipped_crash (message : String) : Equipped (crash message : Attempt α) := nofun

theorem equipped_fail {e : DeviceError} (found : e.IsFound) : Equipped (fail e : Attempt α) := by
  intro other same
  cases same
  exact found

theorem Equipped.bind {x : Attempt α} {f : α → Attempt β} (first : x.Equipped)
    (later : ∀ a, (f a).Equipped) : (x >>= f).Equipped := by
  cases x with
  | ok a => exact later a
  | error fault =>
    intro e same
    cases same
    exact first e rfl

theorem equipped_guard {p : Prop} [Decidable p] {e : DeviceError} {f : β → Attempt α}
    {x : Attempt α} (found : e.IsFound) (rest : x.Equipped) :
    (if p then fail e >>= f else x).Equipped := by
  split
  case isTrue =>
    intro other same
    cases same
    exact found
  case isFalse => exact rest

theorem equipped_product (a b : Nat) : (product a b).Equipped := by
  unfold product
  split
  case isTrue => exact equipped_ok _
  case isFalse => exact equipped_crash _

theorem equipped_sum (a b : Nat) : (sum a b).Equipped := by
  unfold sum
  split
  case isTrue => exact equipped_ok _
  case isFalse => exact equipped_crash _

theorem equipped_reserve (count width : Nat) : (reserve count width).Equipped := by
  unfold reserve
  split
  case isTrue => exact equipped_ok _
  case isFalse => exact equipped_crash _

end Attempt

open Attempt

namespace Memory

variable {m : Memory}

theorem isFound_of_contents {b : BufferId} {e : DeviceError} (h : m.contents b = .error e) :
    e.IsFound := by
  unfold contents at h
  split at h
  case h_1 => cases h
  case h_2 =>
    cases h
    trivial

/-- A buffer is looked up first, and what is done with its bytes may fail as well. -/
theorem isFound_of_bind {α : Type} {b : BufferId} {f : Bytes → Except DeviceError α}
    {e : DeviceError} (h : m.contents b >>= f = .error e)
    (later : ∀ bytes, f bytes = .error e → e.IsFound) : e.IsFound := by
  cases found : m.contents b with
  | error lost =>
    simp only [found, bind, Except.bind, Except.error.injEq] at h
    exact h ▸ isFound_of_contents found
  | ok bytes =>
    rw [found] at h
    exact later bytes h

theorem isFound_of_copyIn {b : BufferId} {data : Bytes} {e : DeviceError}
    (h : m.copyIn b data = .error e) : e.IsFound := by
  refine isFound_of_bind h fun bytes short => ?_
  split at short
  case isTrue =>
    cases short
    trivial
  case isFalse => cases short

theorem isFound_of_copyOut {b : BufferId} {count : Nat} {e : DeviceError}
    (h : m.copyOut b count = .error e) : e.IsFound := by
  refine isFound_of_bind h fun bytes short => ?_
  split at short
  case isTrue =>
    cases short
    trivial
  case isFalse => cases short

theorem isFound_of_free {b : BufferId} {e : DeviceError} (h : m.free b = .error e) : e.IsFound :=
  isFound_of_bind h fun _ => nofun

theorem equipped_contents (m : Memory) (b : BufferId) : (ofAnswer (m.contents b)).Equipped := by
  cases found : m.contents b with
  | ok bytes => exact equipped_ok _
  | error e => exact equipped_fail (isFound_of_contents found)

theorem equipped_readElements (t : ElementType) (b : BufferId) (count : Nat) :
    (m.readElements t b count).Equipped := by
  unfold readElements
  refine (equipped_contents m b).bind fun bytes => (equipped_product _ _).bind fun size => ?_
  exact equipped_guard trivial (equipped_ok _)

theorem equipped_writeElements {t : ElementType} (b : BufferId) (offset : Nat)
    (values : List (Element t)) : (m.writeElements b offset values).Equipped := by
  unfold writeElements
  refine (equipped_contents m b).bind fun bytes => (equipped_product _ _).bind fun start => ?_
  refine (equipped_sum _ _).bind fun stop => ?_
  exact equipped_guard trivial (equipped_ok _)

end Memory

namespace ElementwiseKernel

variable {m : Memory}

theorem equipped_span (n stride : Nat) : (span n stride).Equipped := by
  unfold span
  split
  case isTrue => exact equipped_ok _
  case isFalse => exact (equipped_product _ _).bind fun last => equipped_sum _ _

theorem equipped_loadBuffer (t : ElementType) (b : BufferId) (n stride : Nat) :
    (loadBuffer m t b n stride).Equipped :=
  (equipped_span n stride).bind fun count =>
    (Memory.equipped_readElements t b count).bind fun _ => equipped_ok _

theorem equipped_loadScalar (t : ElementType) (s : Scalar) : (loadScalar t s).Equipped := by
  unfold loadScalar
  split
  case h_1 => exact equipped_ok _
  case h_2 => exact equipped_fail trivial

theorem equipped_loadOperand (t : ElementType) (n stride : Nat) (y : KernelOperand) :
    (loadOperand m t n stride y).Equipped := by
  cases y with
  | buffer b => exact equipped_loadBuffer t b n stride
  | scalar s => exact (equipped_loadScalar t s).bind fun _ => equipped_ok _

theorem equipped_store {t : ElementType} (b : BufferId) (values : List (Element t))
    (stride : Nat) : (store m b values stride).Equipped := by
  unfold store
  split
  case h_1 => exact equipped_fail trivial
  case h_2 => exact Memory.equipped_writeElements b 0 values
  case h_3 =>
    exact (equipped_span _ _).bind fun count =>
      (Memory.equipped_readElements t b count).bind fun _ => Memory.equipped_writeElements b 0 _

theorem equipped_runSetSlice (t : ElementType) (lower upper : Nat) (x source : BufferId) :
    (runSetSlice m t lower upper x source).Equipped := by
  unfold runSetSlice
  refine equipped_guard trivial ?_
  exact (Memory.equipped_readElements _ _ _).bind fun _ => Memory.equipped_writeElements _ _ _

/-- A kernel at work does not find that a kernel is missing. -/
theorem equipped_execute (k : ElementwiseKernel) (values : Parameter.Values k.parameters) :
    (k.execute m values).Equipped := by
  cases k with
  | binary operation =>
    refine (equipped_loadBuffer _ _ _ _).bind fun left => ?_
    refine (equipped_loadOperand _ _ _ _).bind fun right => ?_
    refine (equipped_reserve _ _).bind fun _ => (equipped_product _ _).bind fun _ => ?_
    exact equipped_store _ _ _
  | abs =>
    exact (Memory.equipped_readElements _ _ _).bind fun _ => Memory.equipped_writeElements _ _ _
  | fill =>
    refine (equipped_loadScalar _ _).bind fun value => (equipped_reserve _ _).bind fun _ => ?_
    exact Memory.equipped_writeElements _ _ _
  | reverse =>
    exact (Memory.equipped_readElements _ _ _).bind fun _ => Memory.equipped_writeElements _ _ _
  | setSlice =>
    obtain ⟨t, lower, upper, x, source, ⟨⟩⟩ := values
    exact equipped_runSetSlice t lower upper x source

theorem equipped_run (k : ElementwiseKernel) (m : Memory) (arguments : List Argument) :
    (k.run m arguments).Equipped := by
  refine Attempt.Equipped.bind ?_ fun values => equipped_execute k values
  unfold Contract.read
  split
  case h_1 => exact equipped_ok _
  case h_2 => exact equipped_fail trivial

end ElementwiseKernel

end DeviceArrays

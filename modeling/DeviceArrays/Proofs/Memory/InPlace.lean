import DeviceArrays.Command
import DeviceArrays.Proofs.Kernel.Footprint

/-!
# Memory operations in place

The operations of a memory give a new memory or a failure. A device has only one memory: it checks,
then overwrites bytes one after another, and a program that is stopped half way leaves what it has
written by then. Here the operations are such programs, and each is shown to do what the operation
says where it succeeds and to have written nothing where it fails.
-/
namespace DeviceArrays

/-- A program that changes bytes in place. Stopped by a fault, it leaves what it has changed. -/
abbrev InPlace := EStateM Fault Surroundings

/-- Bytes that can be overwritten: a buffer of the device, or a store of the host. -/
inductive Place
  | buffer (id : BufferId)
  | store (number : Nat)

namespace Surroundings

def bytes? (s : Surroundings) : Place → Option Bytes
  | .buffer b => s.memory.contents? b
  | .store number => s.stores[number]?

/-- Puts bytes in the place of others. -/
def exchange (s : Surroundings) (bytes : Bytes) : Place → Surroundings
  | .buffer b => { s with memory := s.memory.put b (some bytes) }
  | .store number => { s with stores := s.stores.set number bytes }

variable {s : Surroundings} {p : Place} {old : Bytes}

theorem bytes?_exchange (there : s.bytes? p = some old) (new : Bytes) :
    (s.exchange new p).bytes? p = some new := by
  cases p with
  | buffer b =>
    have live : s.memory.contents? b = some old := there
    exact (Memory.contents?_put s.memory (by simp [live]) _ b).trans (if_pos rfl)
  | store number =>
    obtain ⟨inside, _⟩ := List.getElem?_eq_some_iff.mp there
    exact List.getElem?_set_self inside

theorem exchange_exchange (s : Surroundings) (p : Place) (first later : Bytes) :
    (s.exchange first p).exchange later p = s.exchange later p := by
  cases p <;> simp [exchange, Memory.put]

theorem exchange_self (there : s.bytes? p = some old) : s.exchange old p = s := by
  cases p with
  | buffer b =>
    have same := Memory.put_self (m := s.memory) (b := b) there
    simp only [exchange, same]
  | store number =>
    obtain ⟨inside, here⟩ := List.getElem?_eq_some_iff.mp there
    subst here
    simp only [exchange, List.set_getElem_self]

end Surroundings

/-- A run of bytes is replaced by replacing its first byte and then the others. -/
theorem Bytes.splice_cons {bytes rest : Bytes} {start : Nat} {byte : UInt8}
    (inside : start < bytes.length) :
    bytes.splice start (byte :: rest) = splice (bytes.set start byte) (start + 1) rest := by
  apply List.ext_getElem?
  intro i
  by_cases short : i < bytes.length
  · rw [getElem?_splice _ _ _ _ short, getElem?_splice _ _ _ _ (by simpa using short),
      List.length_cons, List.getElem?_set]
    rcases Nat.lt_trichotomy i start with before | rfl | after
    · rw [if_neg (by omega), if_neg (by omega), if_neg (by omega)]
    · rw [if_pos (by omega), if_neg (by omega), if_pos rfl, if_pos inside, Nat.sub_self,
        List.getElem?_cons_zero]
    · have place : i - start = i - (start + 1) + 1 := by omega
      rw [place, List.getElem?_cons_succ, if_neg (by omega : start ≠ i)]
      congr 1
      simp only [eq_iff_iff]
      omega
  · rw [List.getElem?_eq_none (by rw [length_splice]; omega),
      List.getElem?_eq_none (by rw [length_splice, List.length_set]; omega)]

theorem Bytes.splice_nil (bytes : Bytes) (start : Nat) : bytes.splice start [] = bytes := by
  simp [splice, List.take_append_drop]

theorem Attempt.ofAnswer_bind {α β : Type} (x : Except DeviceError α)
    (f : α → Except DeviceError β) :
    ofAnswer (x >>= f) = ofAnswer x >>= fun a => ofAnswer (f a) := by
  cases x <;> rfl

namespace InPlace

variable {α : Type}

/-! ### Steps -/

/-- Looks at the memory, and is stopped if what is looked for cannot be had. -/
def look (f : Memory → Attempt α) : InPlace α := fun s =>
  match f s.memory with
  | .ok a => .ok a s
  | .error fault => .error fault s

def fail (e : DeviceError) : InPlace α := throw (.error e)

/-- Overwrites one byte, and crashes where there is none. -/
def poke (p : Place) (k : Nat) (byte : UInt8) : InPlace Unit := fun s =>
  match (s.bytes? p).filter (k < ·.length) with
  | some bytes => .ok () (s.exchange (bytes.set k byte) p)
  | none => .error (.crash (some "index out of bounds")) s

/-- Overwrites bytes one after another. -/
def overwrite (p : Place) : Nat → Bytes → InPlace Unit
  | _, [] => pure ()
  | k, byte :: rest => do
    poke p k byte
    overwrite p (k + 1) rest

/-- Bytes are written as far as there is room for them. -/
example : overwrite (.store 0) 1 [7, 8] ⟨.empty, [[0, 0]]⟩ =
    .error (.crash (some "index out of bounds")) ⟨.empty, [[0, 7]]⟩ := rfl

/-- Takes a buffer out of the memory and gives what it held, if there was one. -/
def remove (b : BufferId) : InPlace (Option Bytes) := fun s =>
  match s.memory.contents? b with
  | some bytes => .ok (some bytes) { s with memory := s.memory.put b none }
  | none => .ok none s

/-- The number of bytes of a host store. -/
def storeSize (number : Nat) : InPlace Nat := fun s => .ok (s.stores[number]?.getD []).length s

/-! ### Operations -/

/-- Overwrites the first bytes of a buffer. -/
def copyIn (b : BufferId) (data : Bytes) : InPlace Unit := do
  let bytes ← look fun m => Attempt.ofAnswer (m.contents b)
  if bytes.length < data.length then fail (.outOfBounds 0 data.length bytes.length)
  overwrite (.buffer b) 0 data

/-- Overwrites a host store by the first bytes of a buffer. -/
def copyOut (b : BufferId) (number : Nat) : InPlace Unit := do
  let count ← storeSize number
  let bytes ← look fun m => Attempt.ofAnswer (m.contents b)
  if bytes.length < count then fail (.outOfBounds 0 count bytes.length)
  overwrite (.store number) 0 (bytes.take count)

/-- Frees a buffer: it is gone before it is known whether it was there. -/
def free (b : BufferId) : InPlace Unit := do
  let removed ← remove b
  if removed.isNone then fail (.unknownBuffer b)

/-- Overwrites the elements of a buffer from position `offset` on. -/
def writeElements {t : ElementType} (b : BufferId) (offset : Nat) (values : List (Element t)) :
    InPlace Unit := do
  let bytes ← look fun m => Attempt.ofAnswer (m.contents b)
  let start ← look fun _ => Attempt.product offset t.width
  let data := Element.listToBytes values
  let stop ← look fun _ => Attempt.sum start data.length
  if bytes.length < stop then fail (.outOfBounds start data.length bytes.length)
  overwrite (.buffer b) start data

/-! ### All or nothing -/

/-- Where the outcome is another state, the program leaves that state; where it is a fault, the
program is stopped by it and has changed nothing. -/
def Settles (p : InPlace Unit) (s : Surroundings) (outcome : Attempt Surroundings) : Prop :=
  p s = match outcome with
    | .ok after => .ok () after
    | .error fault => .error fault s

/-- The outcome is one of the memory, and the stores are left alone. -/
abbrev SettlesMemory (p : InPlace Unit) (s : Surroundings) (outcome : Attempt Memory) : Prop :=
  p.Settles s (outcome.map fun memory => { s with memory })

variable {s : Surroundings} {f : Memory → Attempt α} {p : α → InPlace Unit}

theorem settles_fail (e : DeviceError) : (fail e : InPlace Unit).Settles s (Attempt.fail e) := rfl

/-- A look changes nothing, so what comes after it begins in the same state. -/
theorem Settles.look {g : α → Attempt Surroundings}
    (later : ∀ a, f s.memory = .ok a → (p a).Settles s (g a)) :
    (InPlace.look f >>= p).Settles s (f s.memory >>= g) := by
  unfold Settles at later ⊢
  simp only [bind, EStateM.bind, InPlace.look]
  cases seen : f s.memory with
  | error fault => rfl
  | ok a => exact later a seen

theorem SettlesMemory.look {g : α → Attempt Memory}
    (later : ∀ a, f s.memory = .ok a → (p a).SettlesMemory s (g a)) :
    (InPlace.look f >>= p).SettlesMemory s (f s.memory >>= g) := by
  unfold SettlesMemory
  rw [Attempt.map_bind]
  exact Settles.look later

theorem settles_overwrite (place : Place) {data : Bytes} {start : Nat} {old : Bytes}
    (there : s.bytes? place = some old) (fits : start + data.length ≤ old.length) :
    (overwrite place start data).Settles s (.ok (s.exchange (old.splice start data) place)) := by
  unfold Settles
  -- What is left to write fits because the byte before it did, and poking keeps the length.
  induction data generalizing s start old with
  | nil =>
    rw [Bytes.splice_nil, s.exchange_self there]
    rfl
  | cons byte rest ih =>
    rw [List.length_cons] at fits
    have poked : poke place start byte s = .ok () (s.exchange (old.set start byte) place) := by
      simp [poke, there, Option.filter, show start < old.length by omega]
    have left : start + 1 + rest.length ≤ (old.set start byte).length := by
      rw [List.length_set]
      omega
    have later := ih (s.bytes?_exchange there (old.set start byte)) left
    rw [s.exchange_exchange, ← Bytes.splice_cons (by omega)] at later
    simp only [overwrite, bind, EStateM.bind, poked, later]

theorem settles_copyIn (s : Surroundings) (b : BufferId) (data : Bytes) :
    (copyIn b data).SettlesMemory s (Attempt.ofAnswer (s.memory.copyIn b data)) := by
  unfold copyIn Memory.copyIn
  rw [Attempt.ofAnswer_bind]
  refine .look fun bytes found => ?_
  have live := Memory.contents?_of_answer found
  split
  case isTrue => exact settles_fail _
  case isFalse fits => exact settles_overwrite (.buffer b) live (by omega)

theorem settles_free (s : Surroundings) (b : BufferId) :
    (free b).SettlesMemory s (Attempt.ofAnswer (s.memory.free b)) := by
  unfold SettlesMemory Settles
  simp only [free, Memory.free, Memory.contents, remove, bind, EStateM.bind]
  cases s.memory.contents? b <;> rfl

/-- As many bytes as a store has replace all of them; where there is no store, these are none. -/
theorem settles_overwrite_store {number : Nat} {data : Bytes}
    (same : data.length = (s.stores[number]?.getD []).length) :
    (overwrite (.store number) 0 data).Settles s
      (.ok { s with stores := s.stores.set number data }) := by
  cases there : s.stores[number]? with
  | none =>
    rw [there, Option.getD_none, List.length_nil, List.length_eq_zero_iff] at same
    subst same
    rw [List.set_eq_of_length_le (List.getElem?_eq_none_iff.mp there)]
    rfl
  | some old =>
    rw [there, Option.getD_some] at same
    have written : (overwrite (.store number) 0 data).Settles s _ :=
      settles_overwrite (.store number) there (by omega)
    rwa [Bytes.splice_all same] at written

theorem settles_copyOut (s : Surroundings) (b : BufferId) (number : Nat) :
    (copyOut b number).Settles s
      ((Attempt.ofAnswer (s.memory.copyOut b (s.stores[number]?.getD []).length)).map fun bytes =>
        { s with stores := s.stores.set number bytes }) := by
  have sized : copyOut b number s = (do
      let bytes ← look fun m => Attempt.ofAnswer (m.contents b)
      if bytes.length < (s.stores[number]?.getD []).length then
        fail (.outOfBounds 0 (s.stores[number]?.getD []).length bytes.length)
      overwrite (.store number) 0 (bytes.take (s.stores[number]?.getD []).length)) s := rfl
  unfold Settles
  rw [sized]
  unfold Memory.copyOut
  rw [Attempt.ofAnswer_bind, Attempt.map_bind]
  refine Settles.look fun bytes found => ?_
  split
  case isTrue => exact settles_fail _
  case isFalse fits =>
    exact settles_overwrite_store (by rw [List.length_take]; omega)

theorem settles_writeElements (s : Surroundings) {t : ElementType} (b : BufferId) (offset : Nat)
    (values : List (Element t)) :
    (writeElements b offset values).SettlesMemory s (s.memory.writeElements b offset values) := by
  unfold writeElements Memory.writeElements
  refine .look fun bytes found => .look fun start _ => .look fun stop sum => ?_
  have live := Memory.contents?_of_answer found
  cases Attempt.eq_of_sum sum
  split
  case isTrue => exact settles_fail _
  case isFalse fits => exact settles_overwrite (.buffer b) live (by omega)

end InPlace

end DeviceArrays

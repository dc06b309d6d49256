import DeviceArrays.Fault

/-!
# Device memory

A memory holds buffers under the numbers 1, 2, 3, …, given out in order and never again. The bytes
of a buffer that is not live cannot be reached, so a stale identifier is always refused.
-/
namespace DeviceArrays

/-- Slot `n` belongs to buffer `n + 1` and is empty once that buffer is freed. -/
structure Memory where
  slots : List (Option Bytes)

namespace Memory

def empty : Memory := ⟨[]⟩

/-- The bytes of a live buffer. -/
def contents? (m : Memory) (b : BufferId) : Option Bytes :=
  match b.number with
  | 0 => none
  | slot + 1 => m.slots[slot]?.join

/-- The identifier the next allocation will return. -/
def next (m : Memory) : BufferId := ⟨m.slots.length + 1⟩

/-- Puts bytes under an identifier given out before, or empties it. -/
def put (m : Memory) (b : BufferId) (bytes : Option Bytes) : Memory :=
  ⟨m.slots.set (b.number - 1) bytes⟩

/-- A new buffer of zero bytes, of a size that can be had. -/
def allocate (m : Memory) (size : Nat) : Memory × BufferId :=
  (⟨m.slots ++ [some (Bytes.zeros size)]⟩, m.next)

/-- A buffer that was to be allocated and could not be had. Its identifier is used up. -/
def skip (m : Memory) : Memory := ⟨m.slots ++ [none]⟩

def liveCount (m : Memory) : Nat := m.slots.countP Option.isSome

/-- The bytes of a buffer, or the refusal of an unknown identifier. -/
def contents (m : Memory) (b : BufferId) : Except DeviceError Bytes :=
  match m.contents? b with
  | some bytes => .ok bytes
  | none => .error (.unknownBuffer b)

def size (m : Memory) (b : BufferId) : Except DeviceError Nat := do
  return (← m.contents b).length

def free (m : Memory) (b : BufferId) : Except DeviceError Memory := do
  let _ ← m.contents b
  return m.put b none

/-- Overwrites the first bytes of a buffer. -/
def copyIn (m : Memory) (b : BufferId) (data : Bytes) : Except DeviceError Memory := do
  let bytes ← m.contents b
  if bytes.length < data.length then throw (.outOfBounds 0 data.length bytes.length)
  return m.put b (some (bytes.splice 0 data))

/-- The first `count` bytes of a buffer. -/
def copyOut (m : Memory) (b : BufferId) (count : Nat) : Except DeviceError Bytes := do
  let bytes ← m.contents b
  if bytes.length < count then throw (.outOfBounds 0 count bytes.length)
  return bytes.take count

/-- The first `count` elements of a buffer. -/
def readElements (m : Memory) (t : ElementType) (b : BufferId) (count : Nat) :
    Attempt (List (Element t)) := do
  let bytes ← Attempt.ofAnswer (m.contents b)
  let size ← Attempt.product count t.width
  if bytes.length < size then Attempt.fail (.outOfBounds 0 size bytes.length)
  return Element.listOfBytes t count bytes

/-- Overwrites the elements of a buffer from position `offset` on. -/
def writeElements {t : ElementType} (m : Memory) (b : BufferId) (offset : Nat)
    (values : List (Element t)) : Attempt Memory := do
  let bytes ← Attempt.ofAnswer (m.contents b)
  let start ← Attempt.product offset t.width
  let data := Element.listToBytes values
  let stop ← Attempt.sum start data.length
  if bytes.length < stop then Attempt.fail (.outOfBounds start data.length bytes.length)
  return m.put b (some (bytes.splice start data))

theorem contents?_allocate (m : Memory) (size : Nat) (b : BufferId) :
    (m.allocate size).1.contents? b =
      if b = m.next then some (Bytes.zeros size) else m.contents? b := by
  rcases b with ⟨_ | slot⟩
  · simp [contents?, next]
  · simp only [contents?, allocate, next, BufferId.mk.injEq, Nat.add_right_cancel_iff]
    rcases Nat.lt_trichotomy slot m.slots.length with h | h | h
    · rw [if_neg (by omega), List.getElem?_append_left h]
    · subst h
      simp
    · rw [if_neg (by omega), List.getElem?_eq_none (by simp; omega),
        List.getElem?_eq_none (by omega)]

theorem contents?_put (m : Memory) {b : BufferId} (live : (m.contents? b).isSome)
    (bytes : Option Bytes) (c : BufferId) :
    (m.put b bytes).contents? c = if c = b then bytes else m.contents? c := by
  rcases b with ⟨_ | slot⟩
  · simp [contents?] at live
  · have bound : slot < m.slots.length := Nat.lt_of_not_le fun h => by
      simp [contents?, List.getElem?_eq_none h] at live
    rcases c with ⟨_ | other⟩
    · simp [contents?]
    · simp only [contents?, put, Nat.add_sub_cancel, List.getElem?_set, BufferId.mk.injEq,
        Nat.add_right_cancel_iff]
      by_cases h : other = slot
      · subst h
        simp [bound]
      · rw [if_neg (Ne.symm h), if_neg h]

end Memory

end DeviceArrays

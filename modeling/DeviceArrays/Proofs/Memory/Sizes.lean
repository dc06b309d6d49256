import DeviceArrays.Memory

/-!
# Sizes of buffers

Which buffers are live, and how long they are, is all that releases and allocations change. Writing
to a buffer keeps every size. A new buffer gets an identifier that was never given out, so what is
done to older buffers can be done before or after an allocation.
-/
namespace DeviceArrays

/-- As many bytes as there are replace them all. -/
theorem Bytes.splice_all {old new : Bytes} (same : new.length = old.length) :
    old.splice 0 new = new := by
  simp [splice, List.take_of_length_le, same]

/-! ### Host stores -/

/-- Overwriting bytes of a store keeps the size of every store. -/
theorem Bytes.map_length_modify_splice (stores : List Bytes) (i offset : Nat) (bytes : Bytes) :
    (stores.modify i (·.splice offset bytes)).map List.length = stores.map List.length := by
  apply List.ext_getElem?
  intro j
  rw [List.getElem?_map, List.getElem?_map, List.getElem?_modify]
  cases stores[j]? with
  | none => rfl
  | some old => by_cases same : i = j <;> simp [same]

/-- So does exchanging a store for as many bytes. -/
theorem Bytes.map_length_set {stores : List Bytes} {i : Nat} {bytes : Bytes}
    (found : (stores.map List.length)[i]? = some bytes.length) :
    (stores.set i bytes).map List.length = stores.map List.length := by
  obtain ⟨inside, there⟩ := List.getElem?_eq_some_iff.mp found
  rw [List.map_set, ← there, List.set_getElem_self]

/-! ### Buffers -/

namespace Memory

/-- The size of each buffer that was ever allocated, as long as it is live. -/
def sizes (m : Memory) : List (Option Nat) := m.slots.map (Option.map List.length)

/-- The size of a live buffer. -/
def size? (m : Memory) (b : BufferId) : Option Nat := (m.contents? b).map List.length

/-- The identifier was given out by an allocation, whether or not the buffer is live still. -/
def Issued (m : Memory) (b : BufferId) : Prop := 0 < b.number ∧ b.number ≤ m.slots.length

/-- Every buffer fits in the address space. -/
def Addressable (m : Memory) : Prop := ∀ b n, m.size? b = some n → n ≤ largestAllocation

/-- Memory with one more buffer. -/
def grow (m : Memory) (size : Nat) : Memory := (m.allocate size).1

theorem size?_eq_sizes (m : Memory) (b : BufferId) :
    m.size? b = match b.number with
      | 0 => none
      | slot + 1 => m.sizes[slot]?.join := by
  unfold size? contents? sizes
  cases b.number with
  | zero => rfl
  | succ slot =>
    simp only [List.getElem?_map]
    cases m.slots[slot]? with
    | none => rfl
    | some bytes? => rfl

theorem size?_congr {m k : Memory} (h : m.sizes = k.sizes) (b : BufferId) :
    m.size? b = k.size? b := by
  rw [size?_eq_sizes, size?_eq_sizes, h]

theorem length_slots_congr {m k : Memory} (h : m.sizes = k.sizes) :
    m.slots.length = k.slots.length := by
  simpa [sizes] using congrArg List.length h

theorem issued_congr {m k : Memory} (h : m.sizes = k.sizes) {b : BufferId} :
    m.Issued b ↔ k.Issued b := by
  rw [Issued, Issued, length_slots_congr h]

theorem contents?_of_size? {m : Memory} {b : BufferId} {n : Nat} (h : m.size? b = some n) :
    ∃ bytes, m.contents? b = some bytes ∧ bytes.length = n := by
  simpa [size?] using h

theorem size?_of_contents? {m : Memory} {b : BufferId} {bytes : Bytes}
    (h : m.contents? b = some bytes) : m.size? b = some bytes.length := by
  simp [size?, h]

theorem issued_of_size? {m : Memory} {b : BufferId} {n : Nat} (h : m.size? b = some n) :
    m.Issued b := by
  rw [size?_eq_sizes] at h
  unfold Issued
  split at h
  case h_1 => cases h
  case h_2 slot number =>
    have bound : slot < m.sizes.length := by
      refine Nat.lt_of_not_le fun outside => ?_
      rw [List.getElem?_eq_none outside] at h
      cases h
    rw [sizes, List.length_map] at bound
    omega

theorem not_issued_next (m : Memory) : ¬ m.Issued m.next := by
  simp [Issued, next]

theorem contents?_next (m : Memory) : m.contents? m.next = none := by
  cases h : m.contents? m.next with
  | none => rfl
  | some bytes => exact absurd (issued_of_size? (size?_of_contents? h)) m.not_issued_next

theorem size?_next (m : Memory) : m.size? m.next = none := by
  rw [size?, contents?_next]
  rfl

/-! ### Writing -/

theorem length_slots_put (m : Memory) (b : BufferId) (bytes : Option Bytes) :
    (m.put b bytes).slots.length = m.slots.length := by
  simp [put]

theorem issued_put (m : Memory) (b c : BufferId) (bytes : Option Bytes) :
    (m.put b bytes).Issued c ↔ m.Issued c := by
  simp [Issued, length_slots_put]

theorem size?_put {m : Memory} {b : BufferId} {n : Nat} (live : m.size? b = some n)
    (bytes : Option Bytes) (c : BufferId) :
    (m.put b bytes).size? c = if c = b then bytes.map List.length else m.size? c := by
  obtain ⟨old, found, _⟩ := contents?_of_size? live
  unfold size?
  rw [contents?_put m (by simp [found])]
  split <;> rfl

/-- The slot of a live buffer. -/
theorem exists_slot {m : Memory} {b : BufferId} {bytes : Bytes}
    (live : m.contents? b = some bytes) :
    ∃ slot, b.number = slot + 1 ∧ m.slots[slot]? = some (some bytes) := by
  unfold contents? at live
  split at live
  case h_1 => cases live
  case h_2 slot number =>
    refine ⟨slot, number, ?_⟩
    cases there : m.slots[slot]? with
    | none => simp [there] at live
    | some bytes? => simpa [there] using live

/-- Bytes that replace as many keep every size. -/
theorem sizes_put {m : Memory} {b : BufferId} {old new : Bytes} (live : m.contents? b = some old)
    (h : new.length = old.length) : (m.put b (some new)).sizes = m.sizes := by
  obtain ⟨slot, number, found⟩ := exists_slot live
  simp only [sizes, put, number, List.map_set, Option.map_some, h]
  apply List.ext_getElem?
  intro i
  rw [List.getElem?_set]
  split
  case isTrue same =>
    subst same
    have bound := (List.getElem?_eq_some_iff.mp found).1
    rw [List.length_map, if_pos (by simpa using bound), List.getElem?_map]
    simp [found]
  case isFalse => rfl

/-- Bytes that are put back where they are change nothing. -/
theorem put_self {m : Memory} {b : BufferId} {bytes : Bytes} (live : m.contents? b = some bytes) :
    m.put b (some bytes) = m := by
  obtain ⟨slot, number, found⟩ := exists_slot live
  obtain ⟨inside, there⟩ := List.getElem?_eq_some_iff.mp found
  have same : m.slots.set slot (some bytes) = m.slots := by
    rw [← there, List.set_getElem_self]
  rw [put, number, Nat.add_sub_cancel, same]

theorem contents?_of_contents {m : Memory} {b : BufferId} {bytes : Bytes}
    (h : m.contents b = .ok bytes) : m.contents? b = some bytes := by
  unfold contents at h
  split at h
  case h_1 found =>
    cases h
    exact found
  case h_2 => cases h

/-- What it takes to overwrite the first bytes of a buffer, and what comes of it. -/
theorem copyIn_cases {m after : Memory} {b : BufferId} {data : Bytes}
    (h : m.copyIn b data = .ok after) :
    ∃ bytes, m.contents? b = some bytes ∧ data.length ≤ bytes.length ∧
      after = m.put b (some (bytes.splice 0 data)) := by
  unfold copyIn at h
  cases found : m.contents b with
  | error e => simp [found, bind, Except.bind] at h
  | ok bytes =>
    simp only [found, bind, Except.bind] at h
    split at h
    case isTrue => cases h
    case isFalse fits =>
      cases h
      exact ⟨bytes, contents?_of_contents found, by omega, rfl⟩

theorem copyOut_cases {m : Memory} {b : BufferId} {count : Nat} {data : Bytes}
    (h : m.copyOut b count = .ok data) :
    ∃ bytes, m.contents? b = some bytes ∧ count ≤ bytes.length ∧ data = bytes.take count := by
  unfold copyOut at h
  cases found : m.contents b with
  | error e => simp [found, bind, Except.bind] at h
  | ok bytes =>
    simp only [found, bind, Except.bind] at h
    split at h
    case isTrue => cases h
    case isFalse fits =>
      cases h
      exact ⟨bytes, contents?_of_contents found, by omega, rfl⟩

theorem free_cases {m after : Memory} {b : BufferId} (h : m.free b = .ok after) :
    (∃ bytes, m.contents? b = some bytes) ∧ after = m.put b none := by
  unfold free at h
  cases found : m.contents b with
  | error e => simp [found, bind, Except.bind] at h
  | ok bytes =>
    simp only [found, bind, Except.bind] at h
    cases h
    exact ⟨⟨bytes, contents?_of_contents found⟩, rfl⟩

theorem sizes_copyIn {m after : Memory} {b : BufferId} {data : Bytes}
    (h : m.copyIn b data = .ok after) : after.sizes = m.sizes := by
  obtain ⟨bytes, live, _, rfl⟩ := copyIn_cases h
  exact sizes_put live (Bytes.length_splice _ _ _)

theorem length_copyOut {m : Memory} {b : BufferId} {count : Nat} {data : Bytes}
    (h : m.copyOut b count = .ok data) : data.length = count := by
  obtain ⟨bytes, _, fits, rfl⟩ := copyOut_cases h
  rw [List.length_take, Nat.min_eq_left fits]

theorem length_slots_free {m after : Memory} {b : BufferId} (h : m.free b = .ok after) :
    after.slots.length = m.slots.length := by
  rw [(free_cases h).2, length_slots_put]

/-! ### Allocation -/

@[simp] theorem length_slots_grow (m : Memory) (size : Nat) :
    (m.grow size).slots.length = m.slots.length + 1 := by
  simp [grow, allocate]

theorem issued_next_grow (m : Memory) (size : Nat) : (m.grow size).Issued m.next := by
  simp [Issued, next]

theorem Issued.grow {m : Memory} {b : BufferId} (h : m.Issued b) (size : Nat) :
    (m.grow size).Issued b := by
  unfold Issued at h ⊢
  rw [length_slots_grow]
  omega

theorem contents?_skip (m : Memory) (b : BufferId) : m.skip.contents? b = m.contents? b := by
  obtain ⟨_ | slot⟩ := b
  · rfl
  · simp only [contents?, skip, List.getElem?_append, List.getElem?_singleton]
    grind

theorem size?_skip (m : Memory) (b : BufferId) : m.skip.size? b = m.size? b := by
  rw [size?, contents?_skip, size?]

theorem Issued.skip {m : Memory} {b : BufferId} (h : m.Issued b) : m.skip.Issued b := by
  obtain ⟨positive, bound⟩ := h
  refine ⟨positive, Nat.le_trans bound ?_⟩
  simp [Memory.skip]

theorem issued_grow_iff (m : Memory) (size : Nat) (b : BufferId) :
    (m.grow size).Issued b ↔ m.Issued b ∨ b = m.next := by
  rcases b with ⟨number⟩
  simp only [Issued, length_slots_grow, next, BufferId.mk.injEq]
  omega

theorem Issued.ne_next {m : Memory} {b : BufferId} (h : m.Issued b) : b ≠ m.next := by
  rintro rfl
  exact m.not_issued_next h

theorem contents?_grow {m : Memory} {b : BufferId} (h : m.Issued b) (size : Nat) :
    (m.grow size).contents? b = m.contents? b := by
  rw [grow, contents?_allocate, if_neg h.ne_next]

theorem size?_grow (m : Memory) (size : Nat) (b : BufferId) :
    (m.grow size).size? b = if b = m.next then some size else m.size? b := by
  unfold size? grow
  rw [contents?_allocate]
  split <;> simp

theorem put_grow {m : Memory} {b : BufferId} (h : m.Issued b) (bytes : Option Bytes) (size : Nat) :
    (m.grow size).put b bytes = (m.put b bytes).grow size := by
  unfold Issued at h
  simp only [put, grow, allocate, Memory.mk.injEq]
  rw [List.set_append_left _ _ (by omega)]

theorem contents_grow {m : Memory} {b : BufferId} (h : m.Issued b) (size : Nat) :
    (m.grow size).contents b = m.contents b := by
  simp only [contents, contents?_grow h]

theorem free_grow {m : Memory} {b : BufferId} (h : m.Issued b) (size : Nat) :
    (m.grow size).free b = (m.free b).map (grow · size) := by
  simp only [free, contents_grow h, put_grow h]
  cases m.contents b <;> rfl

theorem copyIn_grow {m : Memory} {b : BufferId} (h : m.Issued b) (data : Bytes) (size : Nat) :
    (m.grow size).copyIn b data = (m.copyIn b data).map (grow · size) := by
  simp only [copyIn, contents_grow h, put_grow h]
  cases m.contents b with
  | error e => rfl
  | ok bytes =>
    simp only [bind, Except.bind, pure, Except.pure]
    split <;> rfl

theorem copyOut_grow {m : Memory} {b : BufferId} (h : m.Issued b) (count size : Nat) :
    (m.grow size).copyOut b count = m.copyOut b count := by
  simp only [copyOut, contents_grow h]

theorem readElements_grow {m : Memory} {b : BufferId} (h : m.Issued b) (t : ElementType)
    (count size : Nat) : (m.grow size).readElements t b count = m.readElements t b count := by
  simp only [readElements, contents_grow h]

theorem writeElements_grow {m : Memory} {b : BufferId} (h : m.Issued b) {t : ElementType}
    (offset : Nat) (values : List (Element t)) (size : Nat) :
    (m.grow size).writeElements b offset values =
      (m.writeElements b offset values).map (grow · size) := by
  simp only [writeElements, contents_grow h, put_grow h]
  cases m.contents b with
  | error e => rfl
  | ok bytes =>
    simp only [bind, Except.bind, pure, Except.pure, Attempt.ofAnswer]
    cases Attempt.product offset t.width with
    | error f => rfl
    | ok start =>
      simp only
      cases Attempt.sum start (Element.listToBytes values).length with
      | error f => rfl
      | ok stop =>
        simp only
        split <;> rfl

end Memory

end DeviceArrays

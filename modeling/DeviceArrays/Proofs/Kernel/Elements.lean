import DeviceArrays.Proofs.Kernel.Success

/-!
# Elements in buffers

A buffer is a run of bytes, and to a kernel of some type it is a row of elements. Where buffers fit
in the address space no size leaves the word, so elements can be read and written exactly where the
buffer is live and long enough. `Attempt.Meets` states such a condition together with the result.
-/
namespace DeviceArrays

namespace Attempt

variable {α β : Type} {p q : Prop} {P : α → Prop} {Q : β → Prop}

/-- The work succeeds exactly under a condition, and then its result is as described. -/
structure Meets (x : Attempt α) (condition : Prop) (result : α → Prop) : Prop where
  succeeds_iff : (∃ a, x = .ok a) ↔ condition
  result : ∀ a, x = .ok a → result a

theorem Meets.bind {x : Attempt α} {f : α → Attempt β} (first : x.Meets p P)
    (later : ∀ a, P a → (f a).Meets q Q) : (x >>= f).Meets (p ∧ q) Q where
  succeeds_iff := by
    constructor
    · rintro ⟨b, h⟩
      obtain ⟨a, found, h⟩ := bind_eq_ok h
      exact ⟨first.succeeds_iff.mp ⟨a, found⟩,
        (later a (first.result a found)).succeeds_iff.mp ⟨b, h⟩⟩
    · rintro ⟨now, then_⟩
      obtain ⟨a, rfl⟩ := first.succeeds_iff.mpr now
      exact (later a (first.result a rfl)).succeeds_iff.mpr then_
  result b h := by
    obtain ⟨a, found, h⟩ := bind_eq_ok h
    exact (later a (first.result a found)).result b h

/-- A condition that says the same, and a result of which more is known once it holds. -/
theorem Meets.mono {x : Attempt α} {r : Prop} {R : α → Prop} (h : x.Meets p P) (same : p ↔ r)
    (more : ∀ a, r → P a → R a) : x.Meets r R where
  succeeds_iff := h.succeeds_iff.trans same
  result a found := more a (same.mp (h.succeeds_iff.mp ⟨a, found⟩)) (h.result a found)

theorem Meets.congr {x : Attempt α} {r : Prop} (h : x.Meets p P) (same : p ↔ r) : x.Meets r P :=
  h.mono same fun _ _ found => found

theorem meets_ok {a : α} (met : p) (described : P a) : Meets (.ok a) p P :=
  ⟨⟨fun _ => met, fun _ => ⟨a, rfl⟩⟩, fun _ h => Except.ok.inj h ▸ described⟩

theorem meets_error (fault : Fault) (unmet : ¬ p) : Meets (.error fault) p P :=
  ⟨⟨nofun, fun met => absurd met unmet⟩, nofun⟩

theorem meets_ite {c : Prop} [Decidable c] (a : α) (fault : Fault) :
    Meets (if c then .ok a else .error fault) c (· = a) := by
  split
  case isTrue holds => exact meets_ok holds rfl
  case isFalse fails => exact meets_error fault fails

theorem meets_product (a b : Nat) : (product a b).Meets (a * b < wordBound) (· = a * b) :=
  meets_ite _ _

theorem meets_sum (a b : Nat) : (sum a b).Meets (a + b < wordBound) (· = a + b) := meets_ite _ _

theorem meets_reserve (count width : Nat) :
    (reserve count width).Meets (count * width ≤ largestAllocation) fun _ => True :=
  (meets_ite () _).mono .rfl fun _ _ _ => trivial

end Attempt

/-! ### Elements in bytes -/

namespace Element

variable {t : ElementType}

/-- The element at a position of some bytes, if they reach that far. -/
def at? (t : ElementType) (bytes : Bytes) (i : Nat) : Option (Element t) :=
  if (i + 1) * t.width ≤ bytes.length then
    some (ofBytes t ((bytes.drop (i * t.width)).take t.width))
  else none

theorem getElem?_listOfBytes {n i : Nat} (inside : i < n) (bytes : Bytes) :
    (listOfBytes t n bytes)[i]? = some (ofBytes t ((bytes.drop (i * t.width)).take t.width)) := by
  induction n generalizing i bytes with
  | zero => omega
  | succ n ih =>
    cases i with
    | zero => simp [listOfBytes]
    | succ i =>
      rw [listOfBytes, List.getElem?_cons_succ, ih (by omega), List.drop_drop, Nat.succ_mul,
        Nat.add_comm t.width]

theorem at?_eq_getElem? {n i : Nat} {bytes : Bytes} (fits : n * t.width ≤ bytes.length)
    (inside : i < n) : at? t bytes i = (listOfBytes t n bytes)[i]? := by
  have reached : (i + 1) * t.width ≤ n * t.width := Nat.mul_le_mul_right _ inside
  rw [at?, if_pos (by omega), getElem?_listOfBytes inside]

theorem toBytes_of_at? {bytes : Bytes} {i : Nat} {v : Element t} (h : at? t bytes i = some v) :
    v.toBytes = (bytes.drop (i * t.width)).take t.width := by
  unfold at? at h
  split at h
  case isTrue reached =>
    cases h
    rw [Nat.succ_mul] at reached
    exact toBytes_ofBytes (by rw [List.length_take, List.length_drop]; omega)
  case isFalse => cases h

/-- A byte is one of the bytes of the element it lies in. -/
theorem getElem?_of_at? {bytes : Bytes} {k : Nat} {v : Element t}
    (h : at? t bytes (k / t.width) = some v) : bytes[k]? = v.toBytes[k % t.width]? := by
  have place : k / t.width * t.width + k % t.width = k := by
    rw [Nat.mul_comm]
    exact Nat.div_add_mod k t.width
  rw [toBytes_of_at? h, List.getElem?_take_of_lt (Nat.mod_lt k t.width_pos), List.getElem?_drop,
    place]

/-- Bytes that hold some elements are the bytes of these. -/
theorem take_eq_listToBytes {bytes : Bytes} {values : List (Element t)}
    (fits : values.length * t.width ≤ bytes.length)
    (found : ∀ i < values.length, at? t bytes i = values[i]?) :
    bytes.take (values.length * t.width) = listToBytes values := by
  have same : listOfBytes t values.length bytes = values := by
    apply List.ext_getElem?
    intro i
    by_cases inside : i < values.length
    · rw [← at?_eq_getElem? fits inside, found i inside]
    · rw [List.getElem?_eq_none (by rw [length_listOfBytes]; omega),
        List.getElem?_eq_none (by omega)]
  rw [← listToBytes_listOfBytes t _ bytes fits, same]

/-- What was written over some bytes is found at the positions it was written to. -/
theorem at?_splice {bytes : Bytes} {offset i : Nat} {values : List (Element t)}
    (fits : (offset + values.length) * t.width ≤ bytes.length) (inside : i < values.length) :
    at? t (bytes.splice (offset * t.width) (listToBytes values)) (offset + i) = values[i]? := by
  have reached : (offset + i + 1) * t.width ≤ (offset + values.length) * t.width :=
    Nat.mul_le_mul_right _ (by omega)
  have whole : ∃ rest, (bytes.splice (offset * t.width) (listToBytes values)).drop
      (offset * t.width) = listToBytes values ++ rest := by
    rw [Nat.add_mul] at fits
    refine ⟨bytes.drop (offset * t.width + (listToBytes values).length), ?_⟩
    have start : (bytes.take (offset * t.width)).length = offset * t.width := by
      rw [List.length_take]
      omega
    have all : (listToBytes values).take (bytes.length - offset * t.width) = listToBytes values :=
      List.take_of_length_le (by rw [length_listToBytes]; omega)
    rw [Bytes.splice, all, List.append_assoc, List.drop_left' start]
  obtain ⟨rest, whole⟩ := whole
  rw [at?, if_pos (by rw [Bytes.length_splice]; omega), Nat.add_mul, ← List.drop_drop, whole,
    ← getElem?_listOfBytes inside, listOfBytes_listToBytes]

/-- What lies apart from what was written is as it was. -/
theorem at?_splice_of_apart {bytes : Bytes} {offset i : Nat} {values : List (Element t)}
    (apart : i < offset ∨ offset + values.length ≤ i) :
    at? t (bytes.splice (offset * t.width) (listToBytes values)) i = at? t bytes i := by
  unfold at?
  rw [Bytes.length_splice]
  by_cases reached : (i + 1) * t.width ≤ bytes.length
  case neg => rw [if_neg reached, if_neg reached]
  case pos =>
    rw [if_pos reached, if_pos reached]
    congr 2
    apply List.ext_getElem?
    intro k
    by_cases within : k < t.width
    case neg =>
      rw [List.getElem?_take_eq_none (by omega), List.getElem?_take_eq_none (by omega)]
    case pos =>
      have place : i * t.width + k < (i + 1) * t.width := by rw [Nat.succ_mul]; omega
      rw [List.getElem?_take_of_lt within, List.getElem?_take_of_lt within, List.getElem?_drop,
        List.getElem?_drop, Bytes.getElem?_splice _ _ _ _ (by omega), length_listToBytes,
        ← Nat.add_mul, if_neg]
      rintro ⟨from_start, to_end⟩
      obtain before | behind := apart
      · have le : (i + 1) * t.width ≤ offset * t.width := Nat.mul_le_mul_right _ before
        omega
      · have le := Nat.mul_le_mul_right t.width behind
        omega

end Element

/-! ### Elements in memory -/

namespace Memory

variable {m after : Memory} {b : BufferId} {t : ElementType}

/-- The buffer is live and has so many bytes at least. -/
def Holds (m : Memory) (b : BufferId) (size : Nat) : Prop := ∃ n, m.size? b = some n ∧ size ≤ n

/-- One byte of a live buffer. -/
def byte? (m : Memory) (b : BufferId) (k : Nat) : Option UInt8 := (m.contents? b).bind (·[k]?)

/-- The element at a position of a buffer, if the buffer is live and reaches that far. -/
def element? (m : Memory) (t : ElementType) (b : BufferId) (i : Nat) : Option (Element t) :=
  (m.contents? b).bind (Element.at? t · i)

/-- In a live buffer there are elements as far as it reaches. -/
theorem isSome_element? {m : Memory} {t : ElementType} {b : BufferId} {n i : Nat}
    (sized : m.size? b = some (n * t.width)) (inside : i < n) : (m.element? t b i).isSome := by
  obtain ⟨bytes, live, length⟩ := contents?_of_size? sized
  have reached : (i + 1) * t.width ≤ n * t.width := Nat.mul_le_mul_right _ inside
  rw [element?, live, Option.bind_some, Element.at?, if_pos (by omega)]
  rfl

/-- The same buffers are live and as long as before, and all bytes are as before but for those of
one buffer that `written` tells. -/
structure ChangesOnly (m : Memory) (b : BufferId) (written : Nat → Prop) (after : Memory) :
    Prop where
  sizes : after.sizes = m.sizes
  bytes : ∀ c k, ¬ (c = b ∧ written k) → after.byte? c k = m.byte? c k

theorem ChangesOnly.mono {written more : Nat → Prop} (h : m.ChangesOnly b written after)
    (within : ∀ k, written k → more k) : m.ChangesOnly b more after :=
  ⟨h.sizes, fun c k other => h.bytes c k fun mine => other ⟨mine.1, within k mine.2⟩⟩

/-- Where an element is as before, so are its bytes. -/
theorem byte?_of_element?_eq {k : Nat} {v : Element t}
    (before : m.element? t b (k / t.width) = some v)
    (later : after.element? t b (k / t.width) = some v) : after.byte? b k = m.byte? b k := by
  obtain ⟨old, live, here⟩ := Option.bind_eq_some_iff.mp before
  obtain ⟨new, there, same⟩ := Option.bind_eq_some_iff.mp later
  rw [byte?, byte?, live, there, Option.bind_some, Option.bind_some, Element.getElem?_of_at? here,
    Element.getElem?_of_at? same]

/-- Of the elements that were written over, those that are as before do not count as written. -/
theorem ChangesOnly.elements {count : Nat} (h : m.ChangesOnly b (· < count * t.width) after)
    (written : Nat → Prop)
    (kept : ∀ i < count, ¬ written i →
      ∃ v, m.element? t b i = some v ∧ after.element? t b i = some v) :
    m.ChangesOnly b (fun k => written (k / t.width)) after where
  sizes := h.sizes
  bytes c k other := by
    by_cases within : c = b ∧ k / t.width < count
    · obtain ⟨rfl, within⟩ := within
      obtain ⟨v, before, later⟩ := kept _ within fun mine => other ⟨rfl, mine⟩
      exact byte?_of_element?_eq before later
    · exact h.bytes c k fun ⟨same, inside⟩ =>
        within ⟨same, Nat.div_lt_of_lt_mul (Nat.mul_comm _ _ ▸ inside)⟩

theorem holds_iff {size : Nat} :
    m.Holds b size ↔ ∃ bytes, m.contents? b = some bytes ∧ size ≤ bytes.length := by
  constructor
  · rintro ⟨n, sized, fits⟩
    obtain ⟨bytes, live, rfl⟩ := contents?_of_size? sized
    exact ⟨bytes, live, fits⟩
  · rintro ⟨bytes, live, fits⟩
    exact ⟨bytes.length, size?_of_contents? live, fits⟩

theorem Holds.le {size : Nat} (addressable : m.Addressable) (h : m.Holds b size) :
    size ≤ largestAllocation := by
  obtain ⟨n, sized, fits⟩ := h
  exact Nat.le_trans fits (addressable b n sized)

/-- Reading elements, in exact arithmetic. -/
theorem meets_readElements (addressable : m.Addressable) (t : ElementType) (b : BufferId)
    (n : Nat) : (m.readElements t b n).Meets (m.Holds b (n * t.width)) fun values =>
      values.length = n ∧ ∀ i < n, m.element? t b i = values[i]? where
  succeeds_iff := by
    rw [holds_iff]
    constructor
    · rintro ⟨values, read⟩
      obtain ⟨bytes, live, fits, _⟩ := readElements_cases read
      exact ⟨bytes, live, fits⟩
    · rintro ⟨bytes, live, fits⟩
      have bounded := addressable b _ (size?_of_contents? live)
      exact ⟨_, readElements_eq_ok live fits (wordBound_of_largestAllocation bounded)⟩
  result values read := by
    obtain ⟨bytes, live, fits, rfl⟩ := readElements_cases read
    refine ⟨Element.length_listOfBytes t n bytes, fun i inside => ?_⟩
    rw [element?, live, Option.bind_some, Element.at?_eq_getElem? fits inside]

/-- Writing elements, in exact arithmetic. -/
theorem meets_writeElements (addressable : m.Addressable) (b : BufferId) (offset : Nat)
    (values : List (Element t)) :
    (m.writeElements b offset values).Meets (m.Holds b ((offset + values.length) * t.width))
      fun after => m.ChangesOnly b (fun k => offset * t.width ≤ k ∧
          k < (offset + values.length) * t.width) after ∧
        ∀ i < values.length, after.element? t b (offset + i) = values[i]? where
  succeeds_iff := by
    rw [holds_iff]
    constructor
    · rintro ⟨after, written⟩
      obtain ⟨old, live, fits, _⟩ := writeElements_cases written
      exact ⟨old, live, Nat.add_mul _ _ _ ▸ fits⟩
    · rintro ⟨old, live, fits⟩
      have bounded := addressable b _ (size?_of_contents? live)
      exact ⟨_, writeElements_eq_ok live fits (wordBound_of_largestAllocation bounded)⟩
  result after written := by
    obtain ⟨old, live, fits, rfl⟩ := writeElements_cases written
    rw [← Nat.add_mul] at fits
    have isSome : (m.contents? b).isSome := by simp [live]
    refine ⟨⟨sizes_writeElements written, fun c k other => ?_⟩, fun i inside => ?_⟩
    · unfold byte?
      rw [contents?_put m isSome]
      split
      case isTrue same =>
        subst same
        rw [live, Option.bind_some, Option.bind_some]
        by_cases short : k < old.length
        · rw [Bytes.getElem?_splice _ _ _ _ short, Element.length_listToBytes, ← Nat.add_mul,
            if_neg fun mine => other ⟨rfl, mine⟩]
        · rw [List.getElem?_eq_none (by rw [Bytes.length_splice]; omega),
            List.getElem?_eq_none (by omega)]
      case isFalse => rfl
    · rw [element?, contents?_put m isSome, if_pos rfl, Option.bind_some,
        Element.at?_splice fits inside]

end Memory

end DeviceArrays

import DeviceArrays.Proofs.Kernel.Elements
import DeviceArrays.Proofs.Kernel.Target
import DeviceArrays.Proofs.Memory.Lifetimes
import DeviceArrays.Scalar

/-!
# Windows of elements

Elements of a type are written to a run of bytes and read back from it, bit for bit. Reading after
writing gives the values written where they were written and the elements from before everywhere
else; writing what was read changes nothing. A scalar has the bytes that its value has in memory.
-/
namespace DeviceArrays

/-! ### Bytes of elements -/

-- Powers of natural numbers are those of the core library, whatever else is in scope.
attribute [local instance (high)] instPowNat

/-- A number in two parts has the bytes of its low part and then those of its high part. -/
theorem Bytes.ofNat_add (a b : Nat) {low : Nat} (bounded : low < 256 ^ a) (high : Nat) :
    ofNat (a + b) (low + 256 ^ a * high) = ofNat a low ++ ofNat b high := by
  induction a generalizing low with
  | zero =>
    obtain rfl : low = 0 := by simpa using bounded
    simp [ofNat]
  | succ a ih =>
    have shift : 256 ^ (a + 1) * high = 256 * (256 ^ a * high) := by
      rw [Nat.pow_succ, Nat.mul_comm (256 ^ a), Nat.mul_assoc]
    have rest : low / 256 < 256 ^ a := by
      rw [Nat.pow_succ] at bounded
      exact Nat.div_lt_of_lt_mul (by omega)
    have first : UInt8.ofNat (low + 256 * (256 ^ a * high)) = UInt8.ofNat low := by
      apply UInt8.toNat_inj.mp
      simp
    rw [Nat.succ_add, ofNat, shift, first, Nat.add_mul_div_left _ _ (by decide), ih rest, ofNat,
      List.cons_append]

namespace Element

/-- A complex number is stored as its real part followed by its imaginary part. -/
theorem toBytes_complex {p : Precision} (z : ComplexBits p) :
    toBytes (t := .complex p) z.toBits =
      toBytes (t := .float p) z.re ++ toBytes (t := .float p) z.im := by
  have bound : 256 ^ p.bytes = 2 ^ (8 * p.bytes) := pow_width (.float p)
  have bounded : z.re.toNat < 256 ^ p.bytes := bound ▸ z.re.isLt
  have parts : z.toBits.toNat = z.re.toNat + 256 ^ p.bytes * z.im.toNat := by
    rw [ComplexBits.toBits, BitVec.toNat_cast, BitVec.toNat_append,
      ← Nat.shiftLeft_add_eq_or_of_lt z.re.isLt, Nat.shiftLeft_eq, Nat.add_comm,
      Nat.mul_comm z.im.toNat, bound]
  have written := Bytes.ofNat_add p.bytes p.bytes bounded z.im.toNat
  rw [← parts, ← Nat.two_mul] at written
  exact written

end Element

namespace Memory

variable {m after : Memory} {b : BufferId} {t : ElementType} {offset : Nat}
  {values : List (Element t)}

/-- Reading after writing. -/
theorem element?_writeElements (written : m.writeElements b offset values = .ok after) (i : Nat) :
    after.element? t b i =
      if offset ≤ i ∧ i < offset + values.length then values[i - offset]?
      else m.element? t b i := by
  obtain ⟨old, live, fits, rfl⟩ := writeElements_cases written
  rw [← Nat.add_mul] at fits
  rw [element?, contents?_put m (by simp [live]), if_pos rfl, Option.bind_some]
  split
  case isTrue inside =>
    have found := Element.at?_splice fits (show i - offset < values.length by omega)
    rwa [Nat.add_sub_cancel' inside.1] at found
  case isFalse apart =>
    rw [Element.at?_splice_of_apart (by omega), element?, live, Option.bind_some]

/-- Writing what was read. -/
theorem writeElements_of_readElements (addressable : m.Addressable) {count : Nat}
    (read : m.readElements t b count = .ok values) : m.writeElements b 0 values = .ok m := by
  obtain ⟨bytes, live, fits, rfl⟩ := readElements_cases read
  have bounded := wordBound_of_largestAllocation (addressable b _ (size?_of_contents? live))
  have same : bytes.splice (0 * t.width) (Element.listToBytes (Element.listOfBytes t count bytes)) =
      bytes := by
    rw [Nat.zero_mul, Element.listToBytes_listOfBytes t count bytes fits, Bytes.splice_take]
  rw [writeElements_eq_ok live (by simpa using fits) bounded, same, put_self live]

/-- Where an element is stored there are its bytes. -/
theorem byte?_of_element? {v : Element t} {i k : Nat} (stored : m.element? t b i = some v)
    (within : k < t.width) : m.byte? b (i * t.width + k) = v.toBytes[k]? := by
  obtain ⟨bytes, live, here⟩ := Option.bind_eq_some_iff.mp stored
  rw [byte?, live, Option.bind_some, Element.toBytes_of_at? here, List.getElem?_take_of_lt within,
    List.getElem?_drop]

theorem ChangesOnly.addressable {changed : Nat → Prop} (h : m.ChangesOnly b changed after)
    (addressable : m.Addressable) : after.Addressable := fun c n live =>
  addressable c n (size?_congr h.sizes c ▸ live)

/-- Reading the same length before a write and after it. -/
theorem exists_readElements_writeElements (addressable : m.Addressable) {n count : Nat}
    (live : m.size? b = some n) (fits : count * t.width ≤ n)
    (written : m.writeElements b offset values = .ok after) :
    ∃ old new : List (Element t),
      m.readElements t b count = .ok old ∧ after.readElements t b count = .ok new ∧
      old.length = count ∧ new.length = count ∧
      ∀ i < count, new[i]? =
        if offset ≤ i ∧ i < offset + values.length then values[i - offset]? else old[i]? := by
  have only := ((meets_writeElements addressable b offset values).result after written).1
  have liveAfter : after.size? b = some n := (size?_congr only.sizes b).trans live
  have first := meets_readElements addressable t b count
  have second := meets_readElements (only.addressable addressable) t b count
  obtain ⟨old, before⟩ := first.succeeds_iff.mpr ⟨n, live, fits⟩
  obtain ⟨new, later⟩ := second.succeeds_iff.mpr ⟨n, liveAfter, fits⟩
  obtain ⟨oldLength, oldFound⟩ := first.result old before
  obtain ⟨newLength, newFound⟩ := second.result new later
  refine ⟨old, new, before, later, oldLength, newLength, fun i inside => ?_⟩
  rw [← newFound i inside, ← oldFound i inside, element?_writeElements written]

end Memory

/-- Typed access to a live buffer is a window on its bytes, for every type of elements and every bit
pattern of an element. A write succeeds exactly if it ends inside the buffer. It changes only the
bytes of the window, and a later read of any length gives the elements from before with the written
ones in their places. Writing what was read changes nothing. A scalar has the bytes that are stored
for its value, a complex one those of its real part and then those of its imaginary part; it gives
the value back, as these bytes do, and only as its own type. Buffers have to fit in the address
space, as all do that were allocated (`Journal.addressable_after`). -/
theorem typed_access_is_a_window {m : Memory} (addressable : m.Addressable) {b : BufferId} {n : Nat}
    (live : m.size? b = some n) (t : ElementType) :
    (∀ (offset : Nat) (values : List (Element t)),
      (m.writeElements b offset values).Meets ((offset + values.length) * t.width ≤ n)
        fun after =>
          m.ChangesOnly b (fun k => offset * t.width ≤ k ∧
            k < (offset + values.length) * t.width) after ∧
          ∀ count, count * t.width ≤ n → ∃ old new : List (Element t),
            m.readElements t b count = .ok old ∧ after.readElements t b count = .ok new ∧
            old.length = count ∧ new.length = count ∧
            ∀ i < count, new[i]? =
              if offset ≤ i ∧ i < offset + values.length then values[i - offset]?
              else old[i]?) ∧
    (∀ count, (m.readElements t b count).Meets (count * t.width ≤ n) fun values =>
      m.writeElements b 0 values = .ok m) ∧
    (∀ v : Element t, let s : Scalar := ⟨t, v⟩
      s.toBytes.length = t.width ∧ Element.ofBytes t s.toBytes = v ∧
      (∀ offset after, m.writeElements b offset [v] = .ok after →
        ∀ k < t.width, after.byte? b (offset * t.width + k) = s.toBytes[k]?) ∧
      s.get? t = some v ∧ ∀ u, u ≠ t → s.get? u = none) ∧
    ∀ (p : Precision) (z : ComplexBits p), Scalar.toBytes ⟨.complex p, z.toBits⟩ =
      Scalar.toBytes ⟨.float p, z.re⟩ ++ Scalar.toBytes ⟨.float p, z.im⟩ := by
  have holds (size : Nat) : m.Holds b size ↔ size ≤ n := by simp [Memory.Holds, live]
  refine ⟨fun offset values => ?_, fun count => ?_, fun v => ?_, fun p => Element.toBytes_complex⟩
  · have meets := m.meets_writeElements addressable b offset values
    refine ⟨meets.succeeds_iff.trans (holds _), fun after written => ?_⟩
    exact ⟨(meets.result after written).1, fun count fits =>
      m.exists_readElements_writeElements addressable live fits written⟩
  · have meets := m.meets_readElements addressable t b count
    exact ⟨meets.succeeds_iff.trans (holds _),
      fun values read => m.writeElements_of_readElements addressable read⟩
  · refine ⟨v.length_toBytes, Element.ofBytes_toBytes v, fun offset after written k within => ?_,
      Scalar.get?_self v, fun u other => Scalar.get?_eq_none v other.symm⟩
    have stored : after.element? t b offset = some v := by
      simp [Memory.element?_writeElements written]
    exact Memory.byte?_of_element? stored within

/-- A complex number whose real part is a signaling NaN is put behind a zero; there is no room for
another one behind it. -/
theorem typed_access_is_a_window_complex :
    let m := (Journal.after [.allocate 16]).memory
    let t := ElementType.complex .single
    let z : Element t := 0x3f8000007fa00001#64
    m.Addressable ∧ m.size? ⟨1⟩ = some 16 ∧
      (¬ ∃ after, m.writeElements ⟨1⟩ 2 [z] = .ok after) ∧
      ∃ after new, m.writeElements ⟨1⟩ 1 [z] = .ok after ∧
        after.readElements t ⟨1⟩ 2 = .ok new ∧ new[0]? = some 0 ∧ new[1]? = some z ∧
        after.byte? ⟨1⟩ 10 = some 0xa0 ∧
        Scalar.get? ⟨t, z⟩ t = some z ∧ Scalar.get? ⟨t, z⟩ (.unsigned .w64) = none := by
  intro m t z
  have addressable : m.Addressable := Journal.addressable_after _
  have live : m.size? ⟨1⟩ = some 16 := by decide
  obtain ⟨writes, -, scalars, -⟩ := typed_access_is_a_window addressable live t
  obtain ⟨-, -, stored, back, others⟩ := scalars z
  have behind : ¬ ∃ after, m.writeElements ⟨1⟩ 2 [z] = .ok after := fun done =>
    absurd ((writes 2 [z]).succeeds_iff.mp done) (by decide)
  obtain ⟨after, done⟩ := (writes 1 [z]).succeeds_iff.mpr (by decide)
  obtain ⟨-, reads⟩ := (writes 1 [z]).result after done
  obtain ⟨old, new, before, later, -, -, found⟩ := reads 2 (by decide)
  have zeros : old = [0, 0] := (Except.ok.inj before).symm
  have byte : after.byte? ⟨1⟩ 10 = some 0xa0 :=
    (stored 1 after done 2 (by decide)).trans (by decide)
  refine ⟨addressable, live, behind, after, new, done, later, ?_, found 1 (by decide), byte, back,
    others _ (by decide)⟩
  rw [found 0 (by decide), zeros]
  rfl

end DeviceArrays

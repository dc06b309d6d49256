/-!
# Byte strings

Memory contents are lists of bytes. `Bytes.ofNat` and `Bytes.toNat` read and write numbers with the
least significant byte first and undo each other; `Bytes.splice` replaces a run of bytes in place.
-/
namespace DeviceArrays

abbrev Bytes := List UInt8

namespace Bytes

-- Powers of natural numbers are those of the core library, whatever else is in scope.
attribute [local instance (high)] instPowNat

/-- The number written by some bytes, least significant byte first. -/
def toNat : Bytes → Nat
  | [] => 0
  | b :: bs => b.toNat + 256 * toNat bs

/-- The lowest `count` bytes of a number, least significant byte first. -/
def ofNat : (count : Nat) → Nat → Bytes
  | 0, _ => []
  | count + 1, n => UInt8.ofNat n :: ofNat count (n / 256)

@[simp] theorem length_ofNat (count n : Nat) : (ofNat count n).length = count := by
  induction count generalizing n with
  | zero => rfl
  | succ count ih => simp [ofNat, ih]

@[simp] theorem toNat_ofNat (count n : Nat) : toNat (ofNat count n) = n % 256 ^ count := by
  induction count generalizing n with
  | zero => simp [ofNat, toNat, Nat.mod_one]
  | succ count ih =>
    have low : (UInt8.ofNat n).toNat = n % 256 := UInt8.toNat_ofNat'
    rw [ofNat, toNat, ih, low, Nat.pow_succ, Nat.mul_comm (256 ^ count) 256, Nat.mod_mul]

theorem toNat_lt (bs : Bytes) : toNat bs < 256 ^ bs.length := by
  induction bs with
  | nil => simp [toNat]
  | cons b bs ih =>
    have low := b.toNat_lt
    simp only [toNat, List.length_cons, Nat.pow_succ]
    omega

@[simp] theorem ofNat_toNat (bs : Bytes) : ofNat bs.length (toNat bs) = bs := by
  induction bs with
  | nil => rfl
  | cons b bs ih =>
    have low := b.toNat_lt
    have high : (b.toNat + 256 * toNat bs) / 256 = toNat bs := by omega
    simp only [List.length_cons, toNat, ofNat, high, ih]
    congr 1
    apply UInt8.toNat_inj.mp
    simp only [UInt8.toNat_ofNat']
    omega

/-- A run of zero bytes. -/
def zeros (count : Nat) : Bytes := List.replicate count 0

@[simp] theorem length_zeros (count : Nat) : (zeros count).length = count := by simp [zeros]

/-- Replaces the bytes from `offset` on by `source`. What would lie past the end is dropped. -/
def splice (bytes : Bytes) (offset : Nat) (source : Bytes) : Bytes :=
  bytes.take offset ++ source.take (bytes.length - offset) ++ bytes.drop (offset + source.length)

@[simp] theorem length_splice (bytes : Bytes) (offset : Nat) (source : Bytes) :
    (splice bytes offset source).length = bytes.length := by
  simp only [splice, List.length_append, List.length_take, List.length_drop]
  omega

/-- Inside the replaced run a byte comes from `source`, elsewhere it stays. -/
theorem getElem?_splice (bytes : Bytes) (offset : Nat) (source : Bytes) (i : Nat)
    (h : i < bytes.length) :
    (splice bytes offset source)[i]? =
      if offset ≤ i ∧ i < offset + source.length then source[i - offset]? else bytes[i]? := by
  have shown : (bytes.take offset).length = min offset bytes.length := List.length_take
  unfold splice
  rw [List.append_assoc]
  by_cases before : i < offset
  · rw [if_neg (by omega), List.getElem?_append_left (by omega), List.getElem?_take_of_lt before]
  · have reached : offset ≤ bytes.length := by omega
    rw [List.getElem?_append_right (by omega), shown, Nat.min_eq_left reached]
    by_cases inside : i < offset + source.length
    · rw [if_pos (by omega), List.getElem?_append_left (by rw [List.length_take]; omega),
        List.getElem?_take_of_lt (by omega)]
    · rw [if_neg (by omega), List.getElem?_append_right (by rw [List.length_take]; omega),
        List.getElem?_drop, List.length_take]
      congr 1
      omega

end Bytes

end DeviceArrays

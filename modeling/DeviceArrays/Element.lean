import DeviceArrays.ElementType
import DeviceArrays.Bytes

/-!
# Elements

An element of a type is its bit pattern: all that memory keeps of a number, payloads of NaNs
included. Writing an element as bytes and reading it back loses nothing in either direction.
-/
namespace DeviceArrays

/-- The bit pattern of one number of type `t`. -/
abbrev Element (t : ElementType) := BitVec (8 * t.width)

namespace Element

-- Powers of natural numbers are those of the core library, whatever else is in scope.
attribute [local instance (high)] instPowNat

theorem pow_width (t : ElementType) : 256 ^ t.width = 2 ^ (8 * t.width) := by
  rw [Nat.pow_mul]

/-- The bytes of an element in memory, least significant first. -/
def toBytes {t : ElementType} (x : Element t) : Bytes := Bytes.ofNat t.width x.toNat

/-- The element in the first bytes of memory; bytes that are not there count as zero. -/
def ofBytes (t : ElementType) (bytes : Bytes) : Element t := BitVec.ofNat _ bytes.toNat

@[simp] theorem length_toBytes {t : ElementType} (x : Element t) : x.toBytes.length = t.width := by
  simp [toBytes]

@[simp] theorem ofBytes_toBytes {t : ElementType} (x : Element t) : ofBytes t x.toBytes = x := by
  apply BitVec.eq_of_toNat_eq
  simp [ofBytes, toBytes, pow_width]

theorem toBytes_ofBytes {t : ElementType} {bytes : Bytes} (h : bytes.length = t.width) :
    (ofBytes t bytes).toBytes = bytes := by
  have bound := Bytes.toNat_lt bytes
  rw [h, pow_width] at bound
  unfold toBytes ofBytes
  rw [BitVec.toNat_ofNat, Nat.mod_eq_of_lt bound, ← h, Bytes.ofNat_toNat]

/-- Elements one after another in memory. -/
def listToBytes {t : ElementType} (xs : List (Element t)) : Bytes := xs.flatMap toBytes

/-- The first `count` elements of memory. -/
def listOfBytes (t : ElementType) : (count : Nat) → Bytes → List (Element t)
  | 0, _ => []
  | count + 1, bytes => ofBytes t (bytes.take t.width) :: listOfBytes t count (bytes.drop t.width)

/-- All elements of memory; the last one is filled up with zero bytes. -/
def allOfBytes (t : ElementType) (bytes : Bytes) : List (Element t) :=
  listOfBytes t ((bytes.length + (t.width - 1)) / t.width) bytes

@[simp] theorem length_listToBytes {t : ElementType} (xs : List (Element t)) :
    (listToBytes xs).length = xs.length * t.width := by
  induction xs with
  | nil => simp [listToBytes]
  | cons x xs ih =>
    simp only [listToBytes, List.flatMap_cons, List.length_append, length_toBytes,
      List.length_cons, Nat.succ_mul] at ih ⊢
    omega

@[simp] theorem length_listOfBytes (t : ElementType) (count : Nat) (bytes : Bytes) :
    (listOfBytes t count bytes).length = count := by
  induction count generalizing bytes with
  | zero => rfl
  | succ count ih => simp [listOfBytes, ih]

@[simp] theorem listOfBytes_listToBytes {t : ElementType} (xs : List (Element t)) (rest : Bytes) :
    listOfBytes t xs.length (listToBytes xs ++ rest) = xs := by
  induction xs with
  | nil => rfl
  | cons x xs ih =>
    have first : (x.toBytes ++ (listToBytes xs ++ rest)).take t.width = x.toBytes :=
      List.take_left' x.length_toBytes
    have later : (x.toBytes ++ (listToBytes xs ++ rest)).drop t.width = listToBytes xs ++ rest :=
      List.drop_left' x.length_toBytes
    have split : listToBytes (x :: xs) ++ rest = x.toBytes ++ (listToBytes xs ++ rest) := by
      simp [listToBytes]
    rw [split, List.length_cons, listOfBytes, first, later, ofBytes_toBytes, ih]

theorem listToBytes_listOfBytes (t : ElementType) (count : Nat) (bytes : Bytes)
    (h : count * t.width ≤ bytes.length) :
    listToBytes (listOfBytes t count bytes) = bytes.take (count * t.width) := by
  induction count generalizing bytes with
  | zero => simp [listOfBytes, listToBytes]
  | succ count ih =>
    rw [Nat.succ_mul] at h
    have here : (bytes.take t.width).length = t.width := by
      rw [List.length_take]
      omega
    have later := ih (bytes.drop t.width) (by rw [List.length_drop]; omega)
    have step : listToBytes (listOfBytes t (count + 1) bytes) =
        (ofBytes t (bytes.take t.width)).toBytes
          ++ listToBytes (listOfBytes t count (bytes.drop t.width)) := by
      simp [listOfBytes, listToBytes]
    rw [step, toBytes_ofBytes here, later, Nat.succ_mul, Nat.add_comm (count * t.width),
      List.take_add]

end Element

end DeviceArrays

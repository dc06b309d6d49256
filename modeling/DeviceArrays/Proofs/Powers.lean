import DeviceArrays.Arithmetic
import Mathlib.Data.BitVec
import Mathlib.Data.Int.ModEq
import Mathlib.Data.Nat.Size
import Mathlib.Data.Rat.Floor
import Mathlib.Algebra.Order.Field.Power
import Mathlib.Tactic.Ring

/-!
# Powers of integers are exact

Powers are computed by a loop of squarings, in words. Here the same loop runs at the width of the
type, as integers of that width are multiplied: a turn keeps the power that is still to be taken,
and it drops one binary digit of the exponent. What comes out is the power in the ring of integers
modulo the width, whatever wraps on the way. A negative exponent gives the exact fraction, cut off
toward zero.
-/
namespace DeviceArrays

namespace IntegerPower

variable {w : Nat}

/-- What the loop holds between two turns. -/
structure Squaring (w : Nat) where
  base : BitVec w
  exponent : UInt64
  result : BitVec w

namespace Squaring

/-- One turn: the base is multiplied in where the exponent is odd, and squared in any case. -/
def turn (s : Squaring w) : Squaring w where
  base := s.base * s.base
  exponent := s.exponent >>> 1
  result := if s.exponent &&& 1 = 1 then s.result * s.base else s.result

/-- The loop turns as long as something is left of the exponent: it ends after so many turns, with
this result. -/
inductive Ends : (turns : Nat) → Squaring w → (result : BitVec w) → Prop
  | done {s : Squaring w} (nothing : s.exponent = 0) : Ends 0 s s.result
  | turn {s : Squaring w} {turns : Nat} {result : BitVec w} (left : s.exponent ≠ 0)
      (later : Ends turns s.turn result) : Ends (turns + 1) s result

/-- The result with the power that is still to be taken. -/
def value (s : Squaring w) : BitVec w := s.result * s.base ^ s.exponent.toNat

theorem toNat_exponent_turn (s : Squaring w) : s.turn.exponent.toNat = s.exponent.toNat / 2 := by
  simp [turn, Nat.shiftRight_eq_div_pow]

theorem odd_iff (n : UInt64) : n &&& 1 = 1 ↔ n.toNat % 2 = 1 := by
  rw [← UInt64.toNat_inj]
  simp

theorem value_turn (s : Squaring w) : s.turn.value = s.value := by
  have digits : s.exponent.toNat = 2 * (s.exponent.toNat / 2) + s.exponent.toNat % 2 := by omega
  have squared : (s.base * s.base) ^ (s.exponent.toNat / 2) =
      s.base ^ (2 * (s.exponent.toNat / 2)) := by
    rw [← pow_two, pow_mul]
  rw [value, value, toNat_exponent_turn]
  -- An odd exponent hands one factor over to the result, the rest is a power of the square.
  by_cases odd : s.exponent.toNat % 2 = 1
  · have taken : s.turn.result = s.result * s.base := if_pos ((odd_iff _).mpr odd)
    conv_rhs => rw [digits, odd, pow_succ]
    rw [taken, turn, squared]
    ring
  · have kept : s.turn.result = s.result := if_neg fun one => odd ((odd_iff _).mp one)
    conv_rhs => rw [digits, Nat.mod_two_ne_one.mp odd, Nat.add_zero]
    rw [kept, turn, squared]

theorem value_of_done {s : Squaring w} (nothing : s.exponent = 0) : s.value = s.result := by
  simp [value, nothing]

theorem size_exponent_turn {s : Squaring w} (left : s.exponent ≠ 0) :
    s.exponent.toNat.size = s.turn.exponent.toNat.size + 1 := by
  have positive : Nat.bit s.exponent.toNat.bodd s.exponent.toNat.div2 ≠ 0 := by
    rw [Nat.bit_bodd_div2]
    intro zero
    exact left (UInt64.toNat_inj.mp (by simpa using zero))
  have digits := Nat.size_bit positive
  rwa [Nat.bit_bodd_div2, Nat.div2_val, ← toNat_exponent_turn] at digits

/-- There are as many turns as the exponent has binary digits. -/
theorem ends (s : Squaring w) : s.Ends s.exponent.toNat.size s.value := by
  induction turns : s.exponent.toNat.size generalizing s with
  | zero =>
    have nothing : s.exponent = 0 := UInt64.toNat_inj.mp (Nat.size_eq_zero.mp turns)
    rw [value_of_done nothing]
    exact .done nothing
  | succ n ih =>
    have left : s.exponent ≠ 0 := by
      intro nothing
      simp [nothing] at turns
    have fewer : s.turn.exponent.toNat.size = n := by
      have := size_exponent_turn left
      omega
    rw [← value_turn]
    exact .turn left (ih s.turn fewer)

theorem Ends.eq {s : Squaring w} {turns : Nat} {result : BitVec w} (h : s.Ends turns result) :
    turns = s.exponent.toNat.size ∧ result = s.value := by
  induction h with
  | done nothing => simp [nothing, value_of_done nothing]
  | turn left later ih =>
    rw [size_exponent_turn left, ← value_turn, ← ih.1, ← ih.2]
    exact ⟨rfl, rfl⟩

/-- The loop ends from every state, and in one way only. -/
theorem ends_iff {s : Squaring w} {turns : Nat} {result : BitVec w} :
    s.Ends turns result ↔ turns = s.exponent.toNat.size ∧ result = s.value := by
  constructor
  · exact Ends.eq
  · rintro ⟨rfl, rfl⟩
    exact s.ends

end Squaring

/-! ### Powers in the ring of integers modulo the width -/

theorem power_eq_pow (wide : w ≤ 64) (base exponent : BitVec w) :
    power base exponent = base ^ exponent.toNat := by
  have cast : base ^ exponent.toNat = ((base.toNat ^ exponent.toNat : ℕ) : BitVec w) := by
    simp
  apply BitVec.eq_of_toNat_eq
  rw [toNat_power wide, cast, BitVec.natCast_eq_ofNat, BitVec.toNat_ofNat]

/-- Integers are the same element exactly where they are congruent modulo the width. -/
theorem intCast_eq_intCast_iff {z y : ℤ} : (z : BitVec w) = y ↔ z ≡ y [ZMOD 2 ^ w] := by
  rw [← BitVec.toInt_inj, BitVec.toInt_intCast, BitVec.toInt_intCast]
  have width : ((2 ^ w : ℕ) : ℤ) = 2 ^ w := by simp
  constructor
  · intro same
    have remainders := congrArg (· % ((2 ^ w : ℕ) : ℤ)) same
    simp only [Int.bmod_emod] at remainders
    rwa [width] at remainders
  · intro congruent
    rw [← width] at congruent
    rw [← Int.emod_bmod, congruent, Int.emod_bmod]

theorem toNat_toInt {x : BitVec w} (notBelow : 0 ≤ x.toInt) : x.toInt.toNat = x.toNat := by
  have bound := x.isLt
  rw [BitVec.toInt_eq_toNat_cond] at notBelow ⊢
  split at notBelow
  case isTrue small => simp [small]
  case isFalse => omega

/-! ### Negative exponents -/

/-- A fraction cut off toward zero. -/
def towardZero (q : ℚ) : ℤ := if 0 ≤ q then ⌊q⌋ else ⌈q⌉

theorem towardZero_intCast (z : ℤ) : towardZero z = z := by
  simp [towardZero]

theorem towardZero_of_abs_lt_one {q : ℚ} (small : |q| < 1) : towardZero q = 0 := by
  obtain ⟨above, below⟩ := abs_lt.mp small
  unfold towardZero
  by_cases notBelow : 0 ≤ q
  · rw [if_pos notBelow, Int.floor_eq_zero_iff]
    exact ⟨notBelow, below⟩
  · rw [if_neg notBelow, Int.ceil_eq_zero_iff]
    exact ⟨above, le_of_not_ge notBelow⟩

/-- Only 1 and -1 have an inverse that is not cut off to zero. -/
theorem towardZero_zpow {b e : ℤ} (negative : e < 0) :
    towardZero ((b : ℚ) ^ e) =
      if b = 1 then 1 else if b = -1 then if e % 2 = 0 then 1 else -1 else 0 := by
  by_cases one : b = 1
  · subst one
    simpa using towardZero_intCast 1
  by_cases minus : b = -1
  · subst minus
    have sign : ((-1 : ℤ) : ℚ) ^ e = ((if e % 2 = 0 then 1 else -1 : ℤ) : ℚ) := by
      push_cast
      rw [neg_one_zpow_eq_ite]
      simp only [Int.even_iff]
    rw [sign, towardZero_intCast]
    simp
  rw [if_neg one, if_neg minus]
  -- Every other base gives a fraction between -1 and 1.
  apply towardZero_of_abs_lt_one
  by_cases zero : b = 0
  · subst zero
    simp [zero_zpow e negative.ne]
  · have wide : 1 < |b| := by
      rw [lt_abs]
      omega
    rw [abs_zpow]
    exact zpow_lt_one_of_neg₀ (by exact_mod_cast wide) negative

theorem toInt_signedPower (wide : 1 < w) {b e : BitVec w} (negative : e.toInt < 0) :
    (signedPower b e).toInt = towardZero ((b.toInt : ℚ) ^ e.toInt) := by
  have one : (1 : BitVec w).toInt = 1 := BitVec.toInt_one wide
  have minus : (-1 : BitVec w).toInt = -1 := by
    show (-1#w).toInt = -1
    rw [BitVec.neg_one_eq_allOnes, BitVec.toInt_allOnes, if_pos (by omega)]
  have zero : (0 : BitVec w).toInt = 0 := BitVec.toInt_zero
  rw [towardZero_zpow negative, signedPower, if_pos negative]
  by_cases h : b.toInt = 1
  · rw [if_pos h, if_pos h, one]
  rw [if_neg h, if_neg h]
  by_cases h : b.toInt = -1
  · rw [if_pos h, if_pos h, apply_ite BitVec.toInt, one, minus]
  · rw [if_neg h, if_neg h, zero]

end IntegerPower

open IntegerPower

/-! ### Elements of integer types -/

theorem ElementType.signed_or_unsigned {t : ElementType} (integral : t.category = .integer) :
    (∃ w, t = .signed w) ∨ ∃ w, t = .unsigned w := by
  cases t with
  | signed w => exact .inl ⟨w, rfl⟩
  | unsigned w => exact .inr ⟨w, rfl⟩
  | float p => cases integral
  | complex p => cases integral

theorem ElementType.width_le_of_integer {t : ElementType} (integral : t.category = .integer) :
    8 * t.width ≤ 64 := by
  obtain ⟨w, rfl⟩ | ⟨w, rfl⟩ := signed_or_unsigned integral <;> cases w <;> decide

namespace Element

variable {t : ElementType}

/-- The integer that an element of an integer type stands for, and zero for other types. -/
def integer : {t : ElementType} → Element t → ℤ
  | .signed _, x => x.toInt
  | .unsigned _, x => x.toNat
  | .float _, _ => 0
  | .complex _, _ => 0

theorem intCast_integer (integral : t.category = .integer) (x : Element t) :
    (x.integer : BitVec (8 * t.width)) = x := by
  obtain ⟨w, rfl⟩ | ⟨w, rfl⟩ := ElementType.signed_or_unsigned integral
  · exact BitVec.ofInt_toInt
  · simp [integer]

theorem toNat_integer (integral : t.category = .integer) {x : Element t}
    (notBelow : 0 ≤ x.integer) : x.integer.toNat = x.toNat := by
  obtain ⟨w, rfl⟩ | ⟨w, rfl⟩ := ElementType.signed_or_unsigned integral
  · exact toNat_toInt notBelow
  · rfl

/-- Without a negative exponent, the power is that of the ring. -/
theorem pow_eq_pow (integral : t.category = .integer) {e : Element t} (notBelow : 0 ≤ e.integer)
    (b : Element t) : b.pow e = (b ^ e.toNat : BitVec (8 * t.width)) := by
  have wide := ElementType.width_le_of_integer integral
  obtain ⟨w, rfl⟩ | ⟨w, rfl⟩ := ElementType.signed_or_unsigned integral
  · have kept : signedPower b e = power b e := if_neg (not_lt.mpr notBelow)
    exact kept.trans (power_eq_pow wide b e)
  · exact power_eq_pow wide b e

/-- The power is the one element whose value is congruent to the power of the values. -/
theorem eq_pow_iff (integral : t.category = .integer) {e : Element t} (notBelow : 0 ≤ e.integer)
    (b r : Element t) :
    r = b.pow e ↔ r.integer ≡ b.integer ^ e.integer.toNat [ZMOD 2 ^ (8 * t.width)] := by
  rw [pow_eq_pow integral notBelow, ← intCast_eq_intCast_iff, Int.cast_pow,
    intCast_integer integral, intCast_integer integral, toNat_integer integral notBelow]

theorem pow_of_integer_eq_zero (integral : t.category = .integer) (b : Element t) {e : Element t}
    (zero : e.integer = 0) : b.pow e = one t := by
  have none : e.toNat = 0 := by
    rw [← toNat_integer integral zero.ge, zero]
    rfl
  rw [pow_eq_pow integral zero.ge, none, pow_zero]
  obtain ⟨w, rfl⟩ | ⟨w, rfl⟩ := ElementType.signed_or_unsigned integral <;> rfl

/-- At the width of the type, the loop of squarings ends with the power. -/
theorem ends_iff_pow (integral : t.category = .integer) {e : Element t} (notBelow : 0 ≤ e.integer)
    (b : Element t) {turns : ℕ} {r : Element t} :
    Squaring.Ends turns ⟨b, .ofNat e.integer.toNat, 1⟩ r ↔
      turns = e.integer.toNat.size ∧ r = b.pow e := by
  have wide := ElementType.width_le_of_integer integral
  have bound : e.toNat < 2 ^ 64 := lt_of_lt_of_le e.isLt (Nat.pow_le_pow_right (by decide) wide)
  have exponent : (UInt64.ofNat e.integer.toNat).toNat = e.toNat := by
    rw [toNat_integer integral notBelow, UInt64.toNat_ofNat', Nat.mod_eq_of_lt bound]
  rw [Squaring.ends_iff, Squaring.value, pow_eq_pow integral notBelow, exponent, one_mul,
    toNat_integer integral notBelow]

theorem integer_pow_of_negative (integral : t.category = .integer) (b : Element t) {e : Element t}
    (negative : e.integer < 0) :
    (b.pow e).integer = towardZero ((b.integer : ℚ) ^ e.integer) := by
  obtain ⟨w, rfl⟩ | ⟨w, rfl⟩ := ElementType.signed_or_unsigned integral
  · have wide : 1 < 8 * (ElementType.signed w).width := by
      have := (ElementType.signed w).width_pos
      omega
    exact toInt_signedPower wide negative
  · exact absurd negative (not_lt.mpr (Int.natCast_nonneg _))

end Element

/-- Powers of integers are exact. With an exponent that is not negative, the power is the element
congruent to the exact power modulo the width, which is one for exponent zero, and the loop of
squarings ends with it after as many turns as the exponent has binary digits. With a negative
exponent it is the exact fraction cut off toward zero, and zero for base zero. -/
theorem integer_powers_are_exact {t : ElementType} (integral : t.category = .integer)
    (b e : Element t) :
    (0 ≤ e.integer →
      (∀ r : Element t,
        r = b.pow e ↔ r.integer ≡ b.integer ^ e.integer.toNat [ZMOD 2 ^ (8 * t.width)]) ∧
      (e.integer = 0 → b.pow e = Element.one t) ∧
      ∀ turns r, Squaring.Ends turns ⟨b, .ofNat e.integer.toNat, 1⟩ r ↔
        turns = e.integer.toNat.size ∧ r = b.pow e) ∧
    (e.integer < 0 → (b.pow e).integer =
      if b.integer = 0 then 0 else towardZero ((b.integer : ℚ) ^ e.integer)) := by
  constructor
  · intro notBelow
    exact ⟨Element.eq_pow_iff integral notBelow b, Element.pow_of_integer_eq_zero integral b,
      fun turns r => Element.ends_iff_pow integral notBelow b⟩
  · intro negative
    rw [Element.integer_pow_of_negative integral b negative]
    by_cases zero : b.integer = 0
    · have nothing := towardZero_intCast 0
      rw [if_pos zero, zero, Int.cast_zero, zero_zpow _ negative.ne]
      simpa using nothing
    · rw [if_neg zero]

/-- In signed bytes, 3 ^ 6 wraps to -39 in three turns, and the power of -1 to the least exponent
is one. -/
theorem integer_powers_are_exact_bytes :
    let t := ElementType.signed .w8
    t.category = .integer ∧ 0 ≤ Element.integer (t := t) 6#8 ∧
      Element.pow (t := t) 3#8 6#8 = -39#8 ∧ Squaring.Ends (w := 8) 3 ⟨3#8, 6, 1⟩ (-39#8) ∧
      Element.integer (t := t) (-128#8) < 0 ∧
      (Element.pow (t := t) (-1#8) (-128#8)).integer = 1 := by
  intro t
  have integral : t.category = .integer := rfl
  have notBelow : 0 ≤ Element.integer (t := t) 6#8 := by decide
  have negative : Element.integer (t := t) (-128#8) < 0 := by decide
  obtain ⟨exact, -, loop⟩ := (integer_powers_are_exact (t := t) integral 3#8 6#8).1 notBelow
  have wrapped : -39#8 = Element.pow (t := t) 3#8 6#8 := (exact (-39#8)).mpr (by decide)
  have fraction := (integer_powers_are_exact (t := t) integral (-1#8) (-128#8)).2 negative
  refine ⟨integral, notBelow, wrapped.symm, (loop 3 (-39#8)).mpr ⟨by decide, wrapped⟩, negative, ?_⟩
  have base : Element.integer (t := t) (-1#8) = -1 := by decide
  have exponent : Element.integer (t := t) (-128#8) = -128 := by decide
  rw [fraction, base, exponent]
  norm_num [towardZero]

end DeviceArrays

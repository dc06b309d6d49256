/-!
# Powers of integers

Integer arithmetic wraps at the width of the type. Powers are computed by repeated squaring in words
of 64 bits, the widest integers, and then cut to the width; the exponent of a signed power may be
negative, and the exact fraction is then cut off toward zero.
-/
namespace DeviceArrays.IntegerPower

-- Powers of natural numbers are those of the core library, whatever else is in scope.
attribute [local instance (high)] instPowNat

/-- `acc * base ^ exponent`, halving the exponent at each step. -/
def squareAndMultiply (base exponent acc : UInt64) : UInt64 :=
  if exponent = 0 then acc
  else
    squareAndMultiply (base * base) (exponent / 2)
      (if exponent % 2 = 1 then acc * base else acc)
  termination_by exponent.toNat
  decreasing_by
    rename_i h
    have pos : exponent.toNat ≠ 0 := fun zero => h (UInt64.toNat_inj.mp (by simpa using zero))
    rw [UInt64.toNat_div]
    exact Nat.div_lt_self (Nat.pos_of_ne_zero pos) (by decide)

theorem toNat_squareAndMultiply (base exponent acc : UInt64) :
    (squareAndMultiply base exponent acc).toNat =
      acc.toNat * base.toNat ^ exponent.toNat % 2 ^ (64 : Nat) := by
  fun_induction squareAndMultiply base exponent acc with
  | case1 base acc =>
    rw [show (0 : UInt64).toNat = 0 from rfl, Nat.pow_zero, Nat.mul_one,
      Nat.mod_eq_of_lt acc.toNat_lt]
  | case2 base exponent acc h ih =>
    simp only [dite_eq_ite] at ih
    have split : exponent.toNat = 2 * (exponent.toNat / 2) + exponent.toNat % 2 :=
      (Nat.div_add_mod exponent.toNat 2).symm
    have squared : (base * base).toNat ^ (exponent.toNat / 2) % 2 ^ (64 : Nat) =
        base.toNat ^ (2 * (exponent.toNat / 2)) % 2 ^ (64 : Nat) := by
      rw [UInt64.toNat_mul, ← Nat.pow_mod, ← Nat.pow_two, ← Nat.pow_mul]
    rw [ih, UInt64.toNat_div, show (2 : UInt64).toNat = 2 from rfl, Nat.mul_mod, squared,
      ← Nat.mul_mod]
    split
    · rename_i odd
      have one : exponent.toNat % 2 = 1 :=
        (UInt64.toNat_mod exponent 2).symm.trans (congrArg UInt64.toNat odd)
      conv => rhs; rw [split, one, Nat.pow_succ]
      rw [UInt64.toNat_mul, Nat.mod_mul_mod, Nat.mul_assoc, Nat.mul_comm base.toNat]
    · rename_i even
      have zero : exponent.toNat % 2 = 0 :=
        (Nat.mod_two_eq_zero_or_one _).resolve_right fun one =>
          even (UInt64.toNat_inj.mp ((UInt64.toNat_mod exponent 2).trans one))
      conv => rhs; rw [split, zero, Nat.add_zero]

/-- A power whose exponent has no sign. -/
def power {w : Nat} (base exponent : BitVec w) : BitVec w :=
  (squareAndMultiply (UInt64.ofBitVec (base.setWidth 64)) (UInt64.ofBitVec (exponent.setWidth 64))
    1).toBitVec.setWidth w

/-- Up to the width of a word, a power is the exact one modulo the width. -/
theorem toNat_power {w : Nat} (wide : w ≤ 64) (base exponent : BitVec w) :
    (power base exponent).toNat = base.toNat ^ exponent.toNat % 2 ^ w := by
  have fits (x : BitVec w) : x.toNat % 2 ^ (64 : Nat) = x.toNat :=
    Nat.mod_eq_of_lt (Nat.lt_of_lt_of_le x.isLt (Nat.pow_le_pow_right (by decide) wide))
  have divides : 2 ^ w ∣ 2 ^ (64 : Nat) := Nat.pow_dvd_pow 2 wide
  simp only [power, BitVec.toNat_setWidth, UInt64.toNat_toBitVec, toNat_squareAndMultiply,
    UInt64.toNat_ofBitVec, fits]
  rw [show (1 : UInt64).toNat = 1 from rfl, Nat.one_mul, Nat.mod_mod_of_dvd _ divides]

/-- A power whose exponent is signed. Only 1 and -1 have a power with a negative exponent that is
not cut off to zero. -/
def signedPower {w : Nat} (base exponent : BitVec w) : BitVec w :=
  if exponent.toInt < 0 then
    if base.toInt = 1 then 1
    else if base.toInt = -1 then
      if exponent.toInt % 2 = 0 then 1 else -1
    else 0
  else power base exponent

end DeviceArrays.IntegerPower

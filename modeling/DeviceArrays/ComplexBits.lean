import DeviceArrays.FloatBits

/-!
# Complex arithmetic

A complex number is a pair of floating-point patterns, stored with the real part in the low half of
its bits. Products are the textbook four products without fused steps; a power is taken through
the logarithm.
-/
namespace DeviceArrays

structure ComplexBits (p : Precision) where
  re : FloatBits p
  im : FloatBits p
  deriving DecidableEq

namespace ComplexBits

variable {p : Precision}

/-- The pair as one bit pattern, real part low. -/
def toBits (z : ComplexBits p) : BitVec (8 * (2 * p.bytes)) := (z.im ++ z.re).cast (by omega)

def ofBits (bits : BitVec (8 * (2 * p.bytes))) : ComplexBits p where
  re := bits.extractLsb' 0 _
  im := bits.extractLsb' (8 * p.bytes) _

@[simp] theorem ofBits_toBits (z : ComplexBits p) : ofBits z.toBits = z := by
  rcases z with ⟨re, im⟩
  simp only [toBits, ofBits, ComplexBits.mk.injEq]
  constructor <;> apply BitVec.eq_of_getLsbD_eq <;> intro i h
  · simp [BitVec.getLsbD_append, h]
  · simp [BitVec.getElem_append, h, show ¬ 8 * p.bytes + i < 8 * p.bytes by omega]

@[simp] theorem toBits_ofBits (bits : BitVec (8 * (2 * p.bytes))) :
    (ofBits bits).toBits = bits := by
  apply BitVec.eq_of_getLsbD_eq
  intro i h
  simp only [toBits, ofBits, BitVec.getLsbD_cast, BitVec.getLsbD_append, BitVec.getLsbD_extractLsb']
  by_cases low : i < 8 * p.bytes
  · simp [low]
  · rw [show 8 * p.bytes + (i - 8 * p.bytes) = i by omega]
    simp [low, show i - 8 * p.bytes < 8 * p.bytes by omega]

def add (z w : ComplexBits p) : ComplexBits p := ⟨z.re.add w.re, z.im.add w.im⟩

def sub (z w : ComplexBits p) : ComplexBits p := ⟨z.re.sub w.re, z.im.sub w.im⟩

def mul (z w : ComplexBits p) : ComplexBits p where
  re := (z.re.mul w.re).sub (z.im.mul w.im)
  im := (z.re.mul w.im).add (z.im.mul w.re)

/-- The distance from zero. -/
def norm (z : ComplexBits p) : FloatBits p := z.re.hypotenuse z.im

/-- The principal logarithm. -/
def log (z : ComplexBits p) : ComplexBits p := ⟨z.norm.log, z.im.angle z.re⟩

/-- The exponential. With an infinite real part the direction is kept where it is known: toward
minus infinity an unknown angle gives zero, toward plus infinity an angle of zero stays zero. -/
def exp (z : ComplexBits p) : ComplexBits p :=
  if z.re.isInfinite && z.re.isNegative && !z.im.isFinite then ⟨.zero, .zero⟩
  else if z.re.isInfinite && !z.re.isNegative && z.im.isZero then z
  else if z.re.isInfinite && !z.re.isNegative && !z.im.isFinite then
    ⟨z.re, if z.im.isInfinite then .quietNaN else z.im⟩
  else if z.re.isNaN && z.im.isZero then z
  else ⟨z.re.exp.mul z.im.cos, z.re.exp.mul z.im.sin⟩

/-- A complex power; every power with exponent zero is one. -/
def pow (z w : ComplexBits p) : ComplexBits p :=
  if w.re.isZero && w.im.isZero then ⟨.one, .zero⟩ else (w.mul z.log).exp

end ComplexBits

end DeviceArrays

import DeviceArrays.ElementType

/-!
# Floating-point bit patterns

A floating-point number is kept as its bit pattern, so that a NaN keeps its payload. The functions
here give the pattern its exact value `m * 2 ^ q`, round such a value to the nearest pattern, and
do arithmetic. An operation that yields a NaN yields its first NaN operand, made quiet, and the
default NaN where no operand is one. Powers and lengths can have a number for an answer although an
operand is a NaN, but only if the NaN is quiet.
-/
namespace DeviceArrays

/-- The bit pattern of a floating-point number. -/
abbrev FloatBits (p : Precision) := BitVec (8 * p.bytes)

namespace Precision

/-- Bits of the fraction field. -/
def fractionBits : Precision → Nat
  | .single => 23
  | .double => 52

/-- The pattern of positive infinity. Larger patterns without a sign are NaNs. -/
def infinity : Precision → Nat
  | .single => 0x7f800000
  | .double => 0x7ff0000000000000

/-- The value of the sign bit. -/
def signBit : Precision → Nat
  | .single => 0x80000000
  | .double => 0x8000000000000000

/-- The exponent of the last bit of the smallest numbers. -/
def leastExponent : Precision → Int
  | .single => -149
  | .double => -1074

end Precision

namespace FloatBits

variable {p : Precision}

-- Powers of natural numbers are those of the core library, whatever else is in scope.
attribute [local instance (high)] instPowNat

/-- The pattern without its sign. -/
def unsigned (x : FloatBits p) : Nat := x.toNat % p.signBit

def isNegative (x : FloatBits p) : Bool := p.signBit ≤ x.toNat

def isNaN (x : FloatBits p) : Bool := p.infinity < x.unsigned

/-- A NaN that is not yet quiet: the highest bit of its fraction is clear. -/
def isSignaling (x : FloatBits p) : Bool :=
  x.isNaN && x.unsigned < p.infinity + 2 ^ (p.fractionBits - 1)

def isInfinite (x : FloatBits p) : Bool := x.unsigned = p.infinity

def isFinite (x : FloatBits p) : Bool := x.unsigned < p.infinity

/-- Positive or negative zero. -/
def isZero (x : FloatBits p) : Bool := x.unsigned = 0

/-- Equality of numbers: the zeros are equal, and a NaN equals nothing. -/
def sameNumber (x y : FloatBits p) : Bool :=
  !x.isNaN && !y.isNaN && (x == y || (x.isZero && y.isZero))

/-- Below zero; the negative zero and NaNs are not. -/
def isBelowZero (x : FloatBits p) : Bool := x.isNegative && !x.isNaN && !x.isZero

/-- The whole number `m` of a finite value `m * 2 ^ q`. -/
def significand (x : FloatBits p) : Nat :=
  let fraction := x.unsigned % 2 ^ p.fractionBits
  if x.unsigned < 2 ^ p.fractionBits then fraction else fraction + 2 ^ p.fractionBits

/-- The exponent `q` of a finite value `m * 2 ^ q`. -/
def exponent (x : FloatBits p) : Int :=
  p.leastExponent + (x.unsigned / 2 ^ p.fractionBits - 1 : Nat)

/-- An odd whole number. -/
def isOdd (x : FloatBits p) : Bool :=
  if x.exponent ≤ 0 then
    let fraction := 2 ^ (-x.exponent).toNat
    x.isFinite && x.significand % fraction = 0 && x.significand / fraction % 2 = 1
  else false

def zero : FloatBits p := 0

def one : FloatBits p := BitVec.ofNat _ (p.infinity / 2 ^ p.fractionBits / 2 * 2 ^ p.fractionBits)

def infinity : FloatBits p := BitVec.ofNat _ p.infinity

/-- The NaN with payload zero, without a sign. -/
def quietNaN : FloatBits p := BitVec.ofNat _ (p.infinity + 2 ^ (p.fractionBits - 1))

/-- The NaN of an operation that has no NaN among its operands. -/
def defaultNaN : FloatBits p := quietNaN ||| BitVec.ofNat _ p.signBit

/-- The number nearest to `m * 2 ^ q`, the even one of two, infinity beyond the largest. -/
def nearest (p : Precision) (m : Nat) (q : Int) : FloatBits p :=
  if m = 0 then zero
  else
    let last := max (q + (Nat.log2 m : Int) - (p.fractionBits : Int)) p.leastExponent
    let kept :=
      if last ≤ q then m <<< (q - last).toNat
      else
        let drop := (last - q).toNat
        let quotient := m >>> drop
        let rest := m % 2 ^ drop
        let half := 2 ^ (drop - 1)
        if rest < half then quotient
        else if half < rest then quotient + 1
        else quotient + quotient % 2
    let pattern := (last - p.leastExponent).toNat * 2 ^ p.fractionBits + kept
    BitVec.ofNat _ (min pattern p.infinity)

def toSingle (x : FloatBits .single) : Float32 := Float32.ofBits (UInt32.ofBitVec x)

def ofSingle (x : Float32) : FloatBits .single := x.toBits.toBitVec

def toDouble (x : FloatBits .double) : Float := Float.ofBits (UInt64.ofBitVec x)

def ofDouble (x : Float) : FloatBits .double := x.toBits.toBitVec

/-- Applies a function of one number, given in both precisions. -/
def map₁ (single : Float32 → Float32) (double : Float → Float) : {p : Precision} →
    FloatBits p → FloatBits p
  | .single, x => ofSingle (single (toSingle x))
  | .double, x => ofDouble (double (toDouble x))

/-- Applies a function of two numbers, given in both precisions. -/
def map₂ (single : Float32 → Float32 → Float32) (double : Float → Float → Float) :
    {p : Precision} → FloatBits p → FloatBits p → FloatBits p
  | .single, x, y => ofSingle (single (toSingle x) (toSingle y))
  | .double, x, y => ofDouble (double (toDouble x) (toDouble y))

/-- Sets the bit that makes a NaN quiet. -/
def quieted (x : FloatBits p) : FloatBits p := x ||| quietNaN

/-- The result of an operation on `x` and `y`, with the NaN the operands call for. -/
def withNaNOf (x y result : FloatBits p) : FloatBits p :=
  if !result.isNaN then result
  else if x.isNaN then x.quieted
  else if y.isNaN then y.quieted
  else defaultNaN

def add (x y : FloatBits p) : FloatBits p := withNaNOf x y (map₂ Float32.add Float.add x y)

def sub (x y : FloatBits p) : FloatBits p := withNaNOf x y (map₂ Float32.sub Float.sub x y)

def mul (x y : FloatBits p) : FloatBits p := withNaNOf x y (map₂ Float32.mul Float.mul x y)

/-- Clears the sign. -/
def abs (x : FloatBits p) : FloatBits p := BitVec.ofNat _ x.unsigned

/-- Turns the sign round. -/
def neg (x : FloatBits p) : FloatBits p := x ^^^ BitVec.ofNat _ p.signBit

/-- A power. The exponent zero and the base one give one whatever the other operand is, unless that
is a signaling NaN. A NaN to the power of an odd whole number takes part in the sign: a negative one
gives a positive one. -/
def pow (x y : FloatBits p) : FloatBits p :=
  if y.isZero then if x.isSignaling then x.quieted else one
  else if x = one then if y.isSignaling then y.quieted else one
  else if x.isNaN then if x.isNegative && y.isOdd then x.quieted.neg else x.quieted
  else withNaNOf x y (map₂ Float32.pow Float.pow x y)

/-- A function of one number; a NaN stays what it is. -/
def map (single : Float32 → Float32) (double : Float → Float) (x : FloatBits p) : FloatBits p :=
  withNaNOf x x (map₁ single double x)

def exp (x : FloatBits p) : FloatBits p := map Float32.exp Float.exp x

def log (x : FloatBits p) : FloatBits p := map Float32.log Float.log x

def cos (x : FloatBits p) : FloatBits p := map Float32.cos Float.cos x

def sin (x : FloatBits p) : FloatBits p := map Float32.sin Float.sin x

/-- The angle of the point `(x, y)`. -/
def angle (y x : FloatBits p) : FloatBits p :=
  withNaNOf x y (map₂ Float32.atan2 Float.atan2 y x)

/-- The largest number whose square is at most `n`. -/
def floorSqrt (n : Nat) : Nat :=
  if n = 0 then 0
  else
    let root := 2 * floorSqrt (n / 4)
    if (root + 1) * (root + 1) ≤ n then root + 1 else root
  termination_by n
  decreasing_by omega

/-- The length of the hypotenuse over `x` and `y`, rounded once. The squares are summed exactly. Of
the root only some bits more than a number holds are computed, and one last bit tells whether it was
cut off. An infinite side outweighs a quiet NaN, and any other NaN is the one of the sum. -/
def hypotenuse (x y : FloatBits p) : FloatBits p :=
  if (x.isInfinite || y.isInfinite) && !x.isSignaling && !y.isSignaling then infinity
  else if x.isNaN || y.isNaN then x.add y
  else
    let q := min x.exponent y.exponent
    let a := x.significand <<< (x.exponent - q).toNat
    let b := y.significand <<< (y.exponent - q).toNat
    let square := a * a + b * b
    let computed := p.fractionBits + 3
    let size := Nat.log2 square / 2
    let added := computed - size
    let dropped := size - computed
    let root := floorSqrt ((square <<< (2 * added)) >>> (2 * dropped))
    let exact := (root * root) <<< (2 * dropped) = square <<< (2 * added)
    nearest p (2 * root + if exact then 0 else 1) (q + dropped - added - 1)

end FloatBits

end DeviceArrays

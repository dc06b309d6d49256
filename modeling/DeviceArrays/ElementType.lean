/-!
# Element types

The twelve numeric types an array can hold. A type is known to kernels by its tag and to people by
its name; the numbering of the tags is the order of `ElementType.all`.
-/
namespace DeviceArrays

/-- Width of an integer type. -/
inductive IntWidth
  | w8
  | w16
  | w32
  | w64
  deriving DecidableEq, Repr

/-- Format of a binary floating-point number. -/
inductive Precision
  | single
  | double
  deriving DecidableEq, Repr

/-- The type of one array element. A complex number is a pair of floating-point numbers. -/
inductive ElementType
  | signed (width : IntWidth)
  | unsigned (width : IntWidth)
  | float (precision : Precision)
  | complex (precision : Precision)
  deriving DecidableEq, Repr

def IntWidth.bytes : IntWidth → Nat
  | .w8 => 1
  | .w16 => 2
  | .w32 => 4
  | .w64 => 8

def Precision.bytes : Precision → Nat
  | .single => 4
  | .double => 8

theorem IntWidth.bytes_pos (w : IntWidth) : 0 < w.bytes := by cases w <;> decide

theorem Precision.bytes_pos (p : Precision) : 0 < p.bytes := by cases p <;> decide

namespace ElementType

/-- Bytes of one element; a complex element holds its real part and then its imaginary part. -/
def width : ElementType → Nat
  | .signed w => w.bytes
  | .unsigned w => w.bytes
  | .float p => p.bytes
  | .complex p => 2 * p.bytes

theorem width_pos (t : ElementType) : 0 < t.width := by
  cases t with
  | signed w => exact w.bytes_pos
  | unsigned w => exact w.bytes_pos
  | float p => exact p.bytes_pos
  | complex p => exact Nat.mul_pos (by decide) p.bytes_pos

/-- Every element type, in the order of the tags. -/
def all : List ElementType :=
  [.signed .w8, .signed .w16, .signed .w32, .signed .w64,
    .unsigned .w8, .unsigned .w16, .unsigned .w32, .unsigned .w64,
    .float .single, .float .double, .complex .single, .complex .double]

/-- The number that stands for the type in a kernel's argument list. -/
def tag : ElementType → Nat
  | .signed .w8 => 0
  | .signed .w16 => 1
  | .signed .w32 => 2
  | .signed .w64 => 3
  | .unsigned .w8 => 4
  | .unsigned .w16 => 5
  | .unsigned .w32 => 6
  | .unsigned .w64 => 7
  | .float .single => 8
  | .float .double => 9
  | .complex .single => 10
  | .complex .double => 11

/-- The type with a given tag, if there is one. -/
def ofTag? (tag : Nat) : Option ElementType := all[tag]?

@[simp] theorem ofTag?_tag (t : ElementType) : ofTag? t.tag = some t := by
  rcases t with (_ | _ | _ | _) | (_ | _ | _ | _) | (_ | _) | (_ | _) <;> rfl

theorem tag_of_ofTag? {tag : Nat} {t : ElementType} (h : ofTag? tag = some t) : t.tag = tag := by
  have bound : tag < 12 := by
    have := (List.getElem?_eq_some_iff.mp h).1
    simpa [all] using this
  have every : ∀ n : Fin 12, ∀ u, ofTag? n.val = some u → u.tag = n.val := by decide
  exact every ⟨tag, bound⟩ t h

def name : ElementType → String
  | .signed .w8 => "i8"
  | .signed .w16 => "i16"
  | .signed .w32 => "i32"
  | .signed .w64 => "i64"
  | .unsigned .w8 => "u8"
  | .unsigned .w16 => "u16"
  | .unsigned .w32 => "u32"
  | .unsigned .w64 => "u64"
  | .float .single => "f32"
  | .float .double => "f64"
  | .complex .single => "c64"
  | .complex .double => "c128"

/-- The name with its letter in upper case, used where a value is described field by field. -/
def upperName (t : ElementType) : String := t.name.toUpper

/-- The type with a given name, if there is one. -/
def ofName? (name : String) : Option ElementType := all.find? (·.name = name)

/-- Integer, floating-point or complex. -/
inductive Category
  | integer
  | float
  | complex
  deriving DecidableEq, Repr

def category : ElementType → Category
  | .signed _ | .unsigned _ => .integer
  | .float _ => .float
  | .complex _ => .complex

def isSigned : ElementType → Bool
  | .signed _ => true
  | _ => false

/-- The type of magnitudes. That of a complex number is real, every other type keeps its own. -/
def magnitudeType : ElementType → ElementType
  | .complex p => .float p
  | t => t

end ElementType

end DeviceArrays

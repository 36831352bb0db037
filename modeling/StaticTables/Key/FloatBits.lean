import StaticTables.Key.Order

/-!
Floating-point keys, given by their bits. The order is that of the numbers they denote, so both
zeros are one key; a value that is no number sorts beyond both infinities, on the side of its sign
and by its payload. All of this is the order of sign and magnitude.
-/
namespace StaticTables

/-- The interchange formats of floating-point numbers. -/
inductive FloatFormat where
  /-- Single precision. -/
  | binary32
  /-- Double precision. -/
  | binary64
deriving DecidableEq

namespace FloatFormat

/-- The number of bits. -/
def width : FloatFormat → Nat
  | binary32 => 32
  | binary64 => 64

/-- The number of bits of the fraction. -/
def fractionBits : FloatFormat → Nat
  | binary32 => 23
  | binary64 => 52

/-- The weight of the sign bit, which is the highest. -/
def signBit : FloatFormat → Nat
  | binary32 => 0x80000000
  | binary64 => 0x8000000000000000

end FloatFormat

/-- The bits of a floating-point value. -/
structure FloatBits (f : FloatFormat) where
  /-- The bits as a number, the sign in the highest place. -/
  bits : Nat
  /-- There are no more bits than the format has. -/
  bits_lt : bits < 2 * f.signBit
deriving DecidableEq

namespace FloatBits

variable {f : FloatFormat}

/-- Whether the sign bit is set. -/
def isNegative (x : FloatBits f) : Bool := f.signBit ≤ x.bits

/-- The bits below the sign: the exponent and the fraction. -/
def magnitude (x : FloatBits f) : Nat := x.bits % f.signBit

/-- The place of the value among all values of the format; both zeros are at place zero. -/
def place (x : FloatBits f) : Int :=
  if x.isNegative then -(x.magnitude : Int) else x.magnitude

/-- Floating-point values compare by place. -/
def compare (x y : FloatBits f) : Ordering := Ord.compare x.place y.place

instance : IndexKey (FloatBits f) := ⟨compare⟩

end FloatBits

end StaticTables

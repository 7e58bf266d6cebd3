/-!
# Single-precision numbers as bit patterns

A `Binary32` is the 32 bits of an IEEE 754 single-precision number. Vertex
data, viewport sizes and colours are carried as such patterns, so that a NaN
keeps its sign and payload from one end of a frame to the other; arithmetic
rounds each operation to nearest, ties to even, through `Float32`.

Where an operation meets a NaN the result is fixed to the bit: the first NaN
operand, made quiet, or `invalid` when an operation on numbers has no value.
-/

namespace SpriteRenderer

/-- A single-precision number, by its interchange bits. -/
structure Binary32 where
  bits : UInt32
deriving DecidableEq, Inhabited

namespace Binary32

open Float.Model (UnpackedFloat)

/-! ## Classes of bit patterns -/

def isNaN (x : Binary32) : Bool := decide (0x7f800000 < x.bits &&& 0x7fffffff)

def isInfinite (x : Binary32) : Bool := x.bits &&& 0x7fffffff == 0x7f800000

def isZero (x : Binary32) : Bool := x.bits &&& 0x7fffffff == 0

def isNegative (x : Binary32) : Bool := x.bits >>> 31 == 1

/-- A NaN with its quiet bit set; the sign and the rest of the payload stay. -/
def quiet (x : Binary32) : Binary32 := ⟨x.bits ||| 0x00400000⟩

/-- The NaN of an operation that has no value, such as `∞ / ∞`. -/
def invalid : Binary32 := ⟨0xffc00000⟩

def zero : Binary32 := ⟨0⟩

def one : Binary32 := ⟨0x3f800000⟩

def half : Binary32 := ⟨0x3f000000⟩

def two : Binary32 := ⟨0x40000000⟩

/-! ## Arithmetic -/

def toFloat32 (x : Binary32) : Float32 := Float32.ofBits x.bits

def ofFloat32 (x : Float32) : Binary32 := if x.isNaN then invalid else ⟨x.toBits⟩

/-- Lifts a rounded operation, with the rule for NaN operands in front. -/
def combine (op : Float32 → Float32 → Float32) (x y : Binary32) : Binary32 :=
  if x.isNaN then x.quiet
  else if y.isNaN then y.quiet
  else ofFloat32 (op x.toFloat32 y.toFloat32)

instance : Add Binary32 := ⟨combine (· + ·)⟩

instance : Sub Binary32 := ⟨combine (· - ·)⟩

instance : Mul Binary32 := ⟨combine (· * ·)⟩

instance : Div Binary32 := ⟨combine (· / ·)⟩

/-- Negation flips the sign bit, also of a NaN. -/
instance : Neg Binary32 := ⟨fun x => ⟨x.bits ^^^ 0x80000000⟩⟩

def lt (x y : Binary32) : Bool := decide (x.toFloat32 < y.toFloat32)

def le (x y : Binary32) : Bool := decide (x.toFloat32 ≤ y.toFloat32)

/-- The larger of `x` and `low`, and `low` where `x` is a NaN. -/
def atLeast (low x : Binary32) : Binary32 := if low.lt x then x else low

/-! ## Conversions -/

/-- The nearest number to an integer below `2 ^ 64`. -/
def ofNat (n : Nat) : Binary32 := ⟨n.toUInt64.toFloat32.toBits⟩

/-- The integer part, pressed into `[0, 2 ^ 32)`; a NaN gives zero. -/
def toUInt32 (x : Binary32) : UInt32 := x.toFloat32.toUInt32

/-- The integer part, pressed into `[0, 2 ^ 8)`; a NaN gives zero. -/
def toUInt8 (x : Binary32) : UInt8 := x.toFloat32.toUInt8

/-- Reads a sign, a mantissa and a binary exponent, rounding once. -/
def ofDyadic (negative : Bool) (mantissa : Nat) (exponent : Int) : Binary32 :=
  let sign : UnpackedFloat.Sign := if negative then .negative else .positive
  ⟨.ofBitVec (UnpackedFloat.pack .binary32 (.round .binary32 sign mantissa exponent))⟩

/-- The bits of the same number in double precision. Every single-precision
number is one in double precision too, so nothing is rounded; a NaN gives
the one quiet NaN of the wider format. -/
def widen (x : Binary32) : UInt64 :=
  match UnpackedFloat.unpack .binary32 x.bits.toBitVec with
  | .finite sign mantissa exponent _ =>
      .ofBitVec (UnpackedFloat.pack .binary64 (.round .binary64 sign mantissa exponent))
  | other => .ofBitVec (UnpackedFloat.pack .binary64 other)

/-- The four bytes of the pattern, lowest first. -/
def bytes (x : Binary32) : List UInt8 :=
  [x.bits.toUInt8, (x.bits >>> 8).toUInt8, (x.bits >>> 16).toUInt8, (x.bits >>> 24).toUInt8]

/-! ## Fixed points of the conversions -/

example : ofNat 640 = ⟨0x44200000⟩ := by decide

example : widen one = 0x3ff0000000000000 := by decide

example : widen ⟨1⟩ = 0x36a0000000000000 := by decide

example : (one / zero) = ⟨0x7f800000⟩ ∧ (zero / zero) = invalid := by decide

example : atLeast one ⟨0x7fc00001⟩ = one := by decide

end Binary32

end SpriteRenderer

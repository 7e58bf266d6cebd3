import SpriteRenderer.Decimal

/-!
# Double-precision numbers and their shortest text

A double-precision number stands for an interval of reals, those that round
to it. It is written as the decimal with the fewest digits in that interval;
of two such decimals the nearer one is taken, and of two as near the larger.

Everything is decided in exact integer arithmetic: decimals `digits * 10 ^ e`
are compared with multiples of powers of two by clearing denominators.
-/

namespace SpriteRenderer

/-- A double-precision number, by its interchange bits. -/
structure Binary64 where
  bits : UInt64
deriving DecidableEq

namespace Binary64

def isNegative (x : Binary64) : Bool := x.bits >>> 63 == 1

/-- The exponent field. -/
def exponentField (x : Binary64) : Nat := ((x.bits >>> 52) &&& 0x7ff).toNat

/-- The fraction field. -/
def fractionField (x : Binary64) : Nat := (x.bits &&& 0xfffffffffffff).toNat

/-- The nearest number to a decimal. -/
def ofDecimal (d : Decimal) : Binary64 :=
  let magnitude := (Float.ofScientific d.mantissa.natAbs true d.places).toBits
  ⟨if d.mantissa < 0 then magnitude ||| 0x8000000000000000 else magnitude⟩

/-- The nearest number to a natural number. -/
def ofNat (n : Nat) : Binary64 := ofDecimal (.ofNat n)

/-! ## The interval of a number -/

/-- The integer `m` of a finite magnitude `m * 2 ^ exponent`. -/
def mantissa (x : Binary64) : Nat :=
  if x.exponentField = 0 then x.fractionField else 0x10000000000000 + x.fractionField

def exponent (x : Binary64) : Int := max x.exponentField 1 - 1075

/-- The ends of the interval and the number itself, in quarters of a unit in
the last place. Below a power of two the numbers lie twice as dense. -/
def lowQuarter (x : Binary64) : Nat :=
  4 * x.mantissa - if x.fractionField = 0 ∧ 1 < x.exponentField then 1 else 2

def highQuarter (x : Binary64) : Nat := 4 * x.mantissa + 2

/-- Quarters of a unit in the last place as a fraction of `10 ^ e`. -/
def scaled (x : Binary64) (quarters : Nat) (e : Int) : Nat × Nat :=
  let p := x.exponent - 2
  (quarters * Nat.pow 2 p.toNat * Nat.pow 10 (-e).toNat,
    Nat.pow 2 (-p).toNat * Nat.pow 10 e.toNat)

/-- Whether `digits * 10 ^ e` rounds to the magnitude of `x`. The ends of the
interval do if the mantissa is even. -/
def readsBack (x : Binary64) (digits : Nat) (e : Int) : Bool :=
  let (low, unit) := x.scaled x.lowQuarter e
  let (high, _) := x.scaled x.highQuarter e
  if x.mantissa % 2 = 0 then decide (low ≤ digits * unit ∧ digits * unit ≤ high)
  else decide (low < digits * unit ∧ digits * unit < high)

/-! ## The shortest decimal -/

/-- The multiple of `10 ^ e` to write, if one of the two around the number
rounds to it. -/
def onGrid? (x : Binary64) (e : Int) : Option Nat :=
  let (value, unit) := x.scaled (4 * x.mantissa) e
  let below := value / unit
  let above := below + 1
  match x.readsBack below e, x.readsBack above e with
  | true, true => some (if 2 * value < (below + above) * unit then below else above)
  | true, false => some below
  | false, true => some above
  | false, false => none

/-- The powers of ten to try, coarsest first. -/
def grids : List Int := (List.range 634).map fun i => 309 - Int.ofNat i

/-- The decimal `digits * 10 ^ e`. -/
def decimal (digits : Nat) (e : Int) : Decimal := ⟨digits * Nat.pow 10 e.toNat, (-e).toNat⟩

/-- The exact value of a finite magnitude. -/
def exactDecimal (x : Binary64) : Decimal :=
  ⟨x.mantissa * Nat.pow 2 x.exponent.toNat * Nat.pow 5 (-x.exponent).toNat, (-x.exponent).toNat⟩

/-- The shortest decimal of a finite magnitude. -/
def shortest (x : Binary64) : Decimal :=
  (grids.findSome? fun e => (x.onGrid? e).map (decimal · e)).getD x.exactDecimal

/-- The number in positional notation, with the fewest digits that tell it
from all others. Zero keeps its sign. -/
def text (x : Binary64) : String :=
  if x.exponentField = 0x7ff ∧ x.fractionField ≠ 0 then "NaN"
  else
    let magnitude :=
      if x.exponentField = 0x7ff then "inf"
      else if x.mantissa = 0 then "0"
      else x.shortest.text
    if x.isNegative then "-" ++ magnitude else magnitude

end Binary64

end SpriteRenderer

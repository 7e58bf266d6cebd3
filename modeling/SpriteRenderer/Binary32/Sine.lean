import SpriteRenderer.Binary32

/-!
# The sine of a single-precision number

The sine is taken of the exact value of the argument and rounded once. All
intermediate values are integers that count units of `2 ^ -precision`: the
argument is reduced by quarter turns, the remaining angle goes through its
power series, and the quadrant puts the sign back.

The largest argument is below `2 ^ 128`, so a quarter turn known to
`precision` places leaves an angle exact to about `2 ^ -180`, far below what
a 24-bit result can tell apart.
-/

namespace SpriteRenderer

namespace Binary32

/-- Fractional binary places of the fixed-point numbers below. -/
def precision : Nat := 320

/-- Terms taken from each power series. -/
def seriesTerms : Nat := 120

/-! ## A quarter turn -/

/-- The series `1/n - 1/(3 n³) + 1/(5 n⁵) - …`, whose sum is the angle with
tangent `1/n`: `power` is `scale / n ^ k` for the odd `k` of this term. -/
def arctanInverseFrom (n : Nat) : (terms k power : Nat) → Int
  | 0, _, _ => 0
  | terms + 1, k, power =>
      (power / k : Nat) - arctanInverseFrom n terms (k + 2) (power / (n * n))

/-- The angle whose tangent is `1 / n`, in fixed point. -/
def arctanInverse (n : Nat) : Int :=
  arctanInverseFrom n (2 * seriesTerms) 1 (Nat.pow 2 precision / n)

/-- A quarter turn in fixed point: `π/2 = 8 arctan (1/5) - 2 arctan (1/239)`. -/
def quarterTurn : Nat := (8 * arctanInverse 5 - 2 * arctanInverse 239).toNat

/-! ## Power series -/

/-- The alternating series that starts with `term` and whose next term is
`term * square / (k * (k + 1))`, in fixed point. -/
def alternatingFrom (square : Nat) : (terms k term : Nat) → Int
  | 0, _, _ => 0
  | terms + 1, k, term =>
      term - alternatingFrom square terms (k + 2)
        (term * square / Nat.pow 2 precision / (k * (k + 1)))

/-- The sine of a fixed-point angle below a quarter turn. -/
def sineOfAngle (angle : Nat) : Int :=
  alternatingFrom (angle * angle / Nat.pow 2 precision) seriesTerms 2 angle

/-- The cosine of a fixed-point angle below a quarter turn. -/
def cosineOfAngle (angle : Nat) : Int :=
  alternatingFrom (angle * angle / Nat.pow 2 precision) seriesTerms 1 (Nat.pow 2 precision)

/-! ## Putting the quadrants together -/

/-- The sine of a non-negative fixed-point number. -/
def sineFixed (x : Nat) : Int :=
  let angle := x % quarterTurn
  match x / quarterTurn % 4 with
  | 0 => sineOfAngle angle
  | 1 => cosineOfAngle angle
  | 2 => -sineOfAngle angle
  | _ => -cosineOfAngle angle

/-- The sine, rounded to nearest. A zero keeps its sign and an infinity has
no sine. -/
def sin (x : Binary32) : Binary32 :=
  if x.isNaN then x.quiet
  else if x.isInfinite then invalid
  else if x.isZero then x
  else
    let exponent := (x.bits >>> 23 &&& 0xff).toNat
    let fraction := (x.bits &&& 0x007fffff).toNat
    let mantissa := if exponent = 0 then fraction else fraction + 0x800000
    let scaled := mantissa * Nat.pow 2 (exponent.max 1 + precision - 150)
    let value := sineFixed scaled
    ofDyadic (xor x.isNegative (decide (value < 0))) value.natAbs (-precision)

end Binary32

end SpriteRenderer

/-!
# Decimal numbers

Decimal fractions, written in positional notation with as many places as
they need.
-/

namespace SpriteRenderer

/-- The number `mantissa / 10 ^ places`. -/
structure Decimal where
  mantissa : Int
  places : Nat
deriving DecidableEq

namespace Decimal

def ofNat (n : Nat) : Decimal := ⟨n, 0⟩

/-- The fraction digits of `fraction / 10 ^ places`, without zeros at the end. -/
def fractionDigits (places fraction : Nat) : List Char :=
  let digits := (Nat.toDigits 10 fraction).leftpad places '0'
  (digits.reverse.dropWhile (· == '0')).reverse

/-- The number in positional notation; a whole number has no point. -/
def text (d : Decimal) : String :=
  let scale := Nat.pow 10 d.places
  let sign := if d.mantissa < 0 then "-" else ""
  let whole := toString (d.mantissa.natAbs / scale)
  match fractionDigits d.places (d.mantissa.natAbs % scale) with
  | [] => sign ++ whole
  | digits => sign ++ whole ++ "." ++ String.ofList digits

example : text ⟨640, 0⟩ = "640" := by cbv

example : text ⟨-12050, 3⟩ = "-12.05" := by cbv

end Decimal

end SpriteRenderer

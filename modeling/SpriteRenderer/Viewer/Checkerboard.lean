import SpriteRenderer.Fault

/-!
# The checkerboard texture

A square of two opaque tones in cells, with the middle cell transparent.
Sizes are 32-bit numbers: a board whose bytes cannot be counted in 32 bits
is a fault, and so is a cell of no width.
-/

namespace SpriteRenderer

namespace Checkerboard

def lightTone : List UInt8 := [0xf0, 0xf0, 0xf0, 0xff]

def darkTone : List UInt8 := [0x30, 0xa0, 0x60, 0xff]

def hole : List UInt8 := [0, 0, 0, 0]

/-- The texel of a cell, on a board whose middle cell is `(center, center)`. -/
def texel (center cx cy : Nat) : List UInt8 :=
  if cx = center ∧ cy = center then hole
  else if (cx + cy) % 2 = 0 then lightTone
  else darkTone

/-- The bytes of a board, row by row. -/
def rows (size cell : Nat) : List UInt8 :=
  let center := size / cell / 2
  (List.range size).flatMap fun y =>
    (List.range size).flatMap fun x => texel center (x / cell) (y / cell)

/-- A board of `size` by `size` texels in cells of `cell` texels. -/
def pixels (size cell : Nat) : Except Fault (List UInt8) := do
  let area ← fitUnsigned 32 (size * size)
  let _ ← fitUnsigned 32 (area * 4)
  if cell = 0 then .error .zeroDivisor else .ok (rows size cell)

end Checkerboard

end SpriteRenderer

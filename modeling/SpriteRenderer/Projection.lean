import SpriteRenderer.Binary32

/-!
# Viewports and projections

Geometry is in target pixels, origin top left and `y` downward. The
projection of a viewport maps that space to clip space; it is built afresh
for every frame, so a resize between two frames needs no bookkeeping.
-/

namespace SpriteRenderer

/-- The size of a render target in pixels. -/
structure Viewport where
  width : Binary32
  height : Binary32
deriving DecidableEq

namespace Viewport

def ofSize (width height : Nat) : Viewport := ⟨.ofNat width, .ofNat height⟩

/-- The target's extent for clipping: whole pixels, and none for a size that
is negative or not a number. -/
def extent (v : Viewport) : Nat × Nat :=
  ((Binary32.atLeast .zero v.width).toUInt32.toNat,
    (Binary32.atLeast .zero v.height).toUInt32.toNat)

/-- The extent of a render pass, which has at least one pixel each way. -/
def passExtent (v : Viewport) : Nat × Nat :=
  ((Binary32.atLeast .one v.width).toUInt32.toNat,
    (Binary32.atLeast .one v.height).toUInt32.toNat)

end Viewport

/-- A 4 by 4 matrix, column by column. -/
structure Projection where
  columns : Vector (Vector Binary32 4) 4
deriving DecidableEq

namespace Projection

def identity : Projection where
  columns :=
    let o := Binary32.zero
    let i := Binary32.one
    #v[#v[i, o, o, o], #v[o, i, o, o], #v[o, o, i, o], #v[o, o, o, i]]

/-- The orthographic projection of a box; depth `near` to `far` becomes 0 to
1. -/
def ortho (left right bottom top near far : Binary32) : Projection where
  columns :=
    let o := Binary32.zero
    let width := right - left
    let height := top - bottom
    let depth := far - near
    #v[#v[Binary32.two / width, o, o, o],
      #v[o, Binary32.two / height, o, o],
      #v[o, o, -.one / depth, o],
      #v[-(right + left) / width, -(top + bottom) / height, -near / depth, .one]]

/-- The projection of a viewport's pixel space. Sizes below one pixel count
as one, so that a viewport of no area still has a projection. -/
def screen (v : Viewport) : Projection :=
  ortho .zero (Binary32.atLeast .one v.width) (Binary32.atLeast .one v.height) .zero .zero .one

/-- The image of a point at depth zero. -/
def transform (p : Projection) (x y : Binary32) : Vector Binary32 4 :=
  .ofFn fun row => p.columns[0][row] * x + p.columns[1][row] * y + p.columns[3][row]

/-- The matrix as a uniform buffer holds it. -/
def bytes (p : Projection) : List UInt8 :=
  p.columns.toList.flatMap fun c => c.toList.flatMap Binary32.bytes

end Projection

end SpriteRenderer

/-!
# Scissor rectangles

A batch names its scissor rectangle by four signed edges. What a device gets
is the part of it that lies on the target, as an origin and a size. A
rectangle with no pixel on the target clips everything away.
-/

namespace SpriteRenderer

/-- Edges in target pixels; they may lie anywhere and in any order. -/
structure ScissorRect where
  left : Int32
  top : Int32
  right : Int32
  bottom : Int32
deriving DecidableEq

/-- A pixel rectangle by its origin and size. -/
structure Clip where
  x : Nat
  y : Nat
  width : Nat
  height : Nat
deriving DecidableEq

namespace ScissorRect

def zero : ScissorRect := ⟨0, 0, 0, 0⟩

/-- An edge moved onto `[0, limit]`. -/
def clampEdge (edge : Int32) (limit : Nat) : Nat := min edge.toInt.toNat limit

/-- The part of the rectangle on a `width` by `height` target, or nothing if
that part has no area. -/
def clampTo (r : ScissorRect) (width height : Nat) : Option Clip :=
  let x := clampEdge r.left width
  let y := clampEdge r.top height
  let w := clampEdge r.right width - x
  let h := clampEdge r.bottom height - y
  if w = 0 ∨ h = 0 then none else some ⟨x, y, w, h⟩

end ScissorRect

namespace Clip

/-- The whole of a target. -/
def whole (width height : Nat) : Clip := ⟨0, 0, width, height⟩

/-- The clip cut down to a target, as a render pass insists. -/
def within (c : Clip) (width height : Nat) : Clip :=
  let x := min c.x width
  let y := min c.y height
  ⟨x, y, min c.width (width - x), min c.height (height - y)⟩

end Clip

end SpriteRenderer

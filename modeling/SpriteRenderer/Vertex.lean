import SpriteRenderer.Color

/-!
# Vertices

A sprite vertex is six 32-bit slots: position, texture coordinate, tint and
colour offset. Slots are stored as single-precision numbers, and the last two
are packed colours that only borrow that representation, so no slot is ever
computed with here: `toSlots` and `ofSlots` are inverse to each other bit for
bit.
-/

namespace SpriteRenderer

/-- One corner of a sprite. -/
structure Vertex where
  /-- Position in target pixels, origin top left, `y` downward. -/
  x : Binary32
  y : Binary32
  /-- Texture coordinate, normally between 0 and 1. -/
  u : Binary32
  v : Binary32
  /-- Tint, multiplied with the texel. -/
  color : PackedColor
  /-- Offset, added after the tint. -/
  offset : PackedColor
deriving DecidableEq

namespace Vertex

/-- Slots per vertex. -/
abbrev slotCount : Nat := 6

def ofSlots (s : Vector Binary32 slotCount) : Vertex where
  x := s[0]
  y := s[1]
  u := s[2]
  v := s[3]
  color := ⟨s[4].bits⟩
  offset := ⟨s[5].bits⟩

def toSlots (v : Vertex) : Vector Binary32 slotCount :=
  #v[v.x, v.y, v.u, v.v, ⟨v.color.bits⟩, ⟨v.offset.bits⟩]

/-- All slots zero. -/
def origin : Vertex := ⟨.zero, .zero, .zero, .zero, ⟨0⟩, ⟨0⟩⟩

/-- The vertex as a vertex buffer holds it: its slots, each lowest byte first. -/
def bytes (v : Vertex) : List UInt8 := v.toSlots.toList.flatMap Binary32.bytes

theorem ofSlots_toSlots (v : Vertex) : ofSlots v.toSlots = v := rfl

end Vertex

end SpriteRenderer

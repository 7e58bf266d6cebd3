import SpriteRenderer.Binary32

/-!
# Colours

A colour has four channels. Vertices carry them packed into 32 bits, red in
the lowest byte; shading and clearing work on single-precision channels, in
which a packed byte `c` stands for `c / 255`.
-/

namespace SpriteRenderer

/-- A value for each colour channel. -/
structure Rgba (α : Type) where
  red : α
  green : α
  blue : α
  alpha : α
deriving DecidableEq

namespace Rgba

variable {α β γ : Type}

def map (f : α → β) (c : Rgba α) : Rgba β :=
  ⟨f c.red, f c.green, f c.blue, f c.alpha⟩

def zipWith (f : α → β → γ) (c : Rgba α) (d : Rgba β) : Rgba γ :=
  ⟨f c.red d.red, f c.green d.green, f c.blue d.blue, f c.alpha d.alpha⟩

def toList (c : Rgba α) : List α := [c.red, c.green, c.blue, c.alpha]

/-- The same value in every channel. -/
def splat (a : α) : Rgba α := ⟨a, a, a, a⟩

end Rgba

/-- Opaque black. -/
def Rgba.black : Rgba Binary32 := ⟨.zero, .zero, .zero, .one⟩

/-- Four colour bytes in one word, red lowest. -/
structure PackedColor where
  bits : UInt32
deriving DecidableEq

namespace PackedColor

def pack (c : Rgba UInt8) : PackedColor :=
  ⟨c.red.toUInt32 ||| c.green.toUInt32 <<< 8 ||| c.blue.toUInt32 <<< 16
    ||| c.alpha.toUInt32 <<< 24⟩

def channels (p : PackedColor) : Rgba UInt8 :=
  ⟨p.bits.toUInt8, (p.bits >>> 8).toUInt8, (p.bits >>> 16).toUInt8, (p.bits >>> 24).toUInt8⟩

/-- The channels as a sampler reads them: each byte over 255. -/
def unpack (p : PackedColor) : Rgba Binary32 :=
  p.channels.map fun c => .ofNat c.toNat / .ofNat 255

/-- Multiplying by white leaves a texel as it is. -/
def white : PackedColor := pack (.splat 0xff)

/-- The offset that stands for "add nothing". Its bytes lie half a step above
the middle, so what it adds is `1/255` and not zero. -/
def noOffset : PackedColor := pack (.splat 0x80)

end PackedColor

end SpriteRenderer

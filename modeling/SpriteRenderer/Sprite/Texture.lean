import SpriteRenderer.RenderError
import SpriteRenderer.Graphics.Device

/-!
# Sprite textures

A sprite texture is a device texture with one view, filled from straight
(not premultiplied) RGBA bytes when it is created.
-/

namespace SpriteRenderer

/-- A texture and the view that shaders sample it through. -/
structure SpriteTexture where
  texture : ObjectId .texture
  view : ObjectId .view
  width : UInt32
  height : UInt32
deriving DecidableEq

namespace SpriteTexture

/-- The format of every sprite texture. -/
def format : TextureFormat := .rgba8Unorm

/-- The byte count that a texture of this size needs, in 64-bit arithmetic. -/
def byteCount (width height : UInt32) : Except Fault Nat := do
  let area ← fitUnsigned 64 (width.toNat * height.toNat)
  fitUnsigned 64 (area * 4)

/-- Creates a texture from its pixels, rows from the top. -/
def create (width height : UInt32) (pixels : List UInt8) :
    Graphics (Except RenderError SpriteTexture) := do
  if width = 0 ∨ height = 0 then
    return .error (.backend (.zeroArea width.toNat height.toNat))
  else
    let expected ← Effect.lift (byteCount width height)
    if pixels.length ≠ expected then
      return .error
        (.invalidBuffer (.pixelCount width.toNat height.toNat expected pixels.length))
    else
      let size : Extent := ⟨width, height, 1⟩
      let texture ← Graphics.create .texture (.createTexture ·
        { label := "drawbatch sprite texture"
          size := size
          mips := 1
          samples := 1
          dimension := .d2
          format := format
          usage := TextureUsage.binding + TextureUsage.copyTarget })
      let bytesPerRow ← Effect.lift (fitUnsigned 32 (width.toNat * 4))
      Graphics.tell (.writeTexture texture
        { mip := 0
          origin := (0, 0, 0)
          offset := 0
          bytesPerRow := bytesPerRow
          rows := height.toNat
          size := size
          data := pixels })
      let view ← Graphics.create .view (.createView · (.texture texture))
      return .ok ⟨texture, view, width, height⟩

/-- One opaque white pixel, sampled where a batch has no texture, so that
the tint passes through. -/
def white : Graphics (Except RenderError SpriteTexture) :=
  create 1 1 [0xff, 0xff, 0xff, 0xff]

end SpriteTexture

end SpriteRenderer

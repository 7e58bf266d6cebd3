/-!
# Texture handles

Textures live in numbered slots and are named by handles, small integers
that batch descriptors carry as they are.
-/

namespace SpriteRenderer

/-- The number of a texture slot. -/
structure TextureHandle where
  index : Nat
deriving DecidableEq

namespace TextureHandle

/-- What to write into a batch to draw with this texture: the handle's 32
bits, read as a signed word. -/
def batchId (h : TextureHandle) : Int32 := .ofNat h.index

def label (h : TextureHandle) : String := s!"#{h.index}"

end TextureHandle

end SpriteRenderer

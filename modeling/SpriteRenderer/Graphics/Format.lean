/-!
# Formats and modes of a graphics device

The choices that a surface offers: pixel formats, how its alpha channel is
composed with what lies behind the window, and how frames are presented.
-/

namespace SpriteRenderer

/-- Pixel formats of textures, surfaces and attachments. -/
inductive TextureFormat where
  | bgra8Unorm
  | bgra8UnormSrgb
  | rgba8Unorm
  | rgba8UnormSrgb
  | rgba16Float
  | rgb10a2Unorm
  | r8Unorm
  | depth24PlusStencil8
deriving DecidableEq

/-- What the alpha channel of a surface means to the compositor. -/
inductive AlphaMode where
  | auto
  | opaqueAlpha
  | preMultiplied
  | postMultiplied
  | inherit
deriving DecidableEq

/-- When a finished frame becomes visible. -/
inductive PresentMode where
  | fifo
  | mailbox
  | immediate
deriving DecidableEq

end SpriteRenderer

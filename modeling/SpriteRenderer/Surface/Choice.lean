import SpriteRenderer.Graphics.Call

/-!
# Choosing a surface configuration

A surface lists the pixel formats and alpha modes it supports. A host states
wishes; where a wish cannot be met the surface's own first choice stands in,
so a configuration never asks for something the surface did not list. Only
a surface without formats cannot be configured at all.
-/

namespace SpriteRenderer

/-- A drawable size in physical pixels. -/
structure PixelSize where
  width : UInt32
  height : UInt32
deriving DecidableEq

/-- Whether there is a pixel to draw. -/
def PixelSize.hasArea (s : PixelSize) : Bool := s.width != 0 && s.height != 0

/-- What a surface supports, best first. -/
structure SurfaceCaps where
  formats : List TextureFormat
  alphaModes : List AlphaMode

/-- What a device has to offer. -/
structure DeviceNeeds where
  /-- The features, one bit each. -/
  features : Nat
  /-- The limits that are not the usual ones. -/
  limits : List (String × Nat)
deriving DecidableEq

/-- No feature beyond those that every device has, and the usual limits. -/
def DeviceNeeds.standard : DeviceNeeds := ⟨0, []⟩

/-- What a host wishes for. -/
structure GpuOptions where
  /-- Off as a rule: colours are blended as stored, without conversion. -/
  preferSrgb : Bool
  presentMode : PresentMode
  alphaMode : Option AlphaMode
  /-- Whether to keep a stencil attachment beside the surface. -/
  stencil : Bool
  device : DeviceNeeds
  /-- Frames that may be queued ahead. -/
  latency : Nat

namespace GpuOptions

def standard : GpuOptions := ⟨false, .fifo, none, true, .standard, 2⟩

/-- The format of the stencil attachment, if there is to be one. -/
def stencilFormat (o : GpuOptions) : Option TextureFormat :=
  if o.stencil then some .depth24PlusStencil8 else none

/-- The formats to look for, in this order. -/
def wantedFormats (o : GpuOptions) : List TextureFormat :=
  if o.preferSrgb then [.bgra8UnormSrgb, .rgba8UnormSrgb] else [.bgra8Unorm, .rgba8Unorm]

end GpuOptions

namespace SurfaceCaps

/-- The first wanted format that is supported, or else the surface's first. -/
def chooseFormat (c : SurfaceCaps) (o : GpuOptions) : Option TextureFormat :=
  (o.wantedFormats.find? fun f => c.formats.contains f).or c.formats.head?

/-- The wanted alpha mode if it is supported, or else the surface's first. -/
def chooseAlpha (c : SurfaceCaps) (o : GpuOptions) : AlphaMode :=
  ((o.alphaMode.filter fun m => c.alphaModes.contains m).or c.alphaModes.head?).getD .auto

/-- The configuration of a surface of the given size, if it has a format. -/
def configuration (c : SurfaceCaps) (o : GpuOptions) (size : PixelSize) : Option SurfaceConfig :=
  (c.chooseFormat o).map fun format =>
    { format := format
      width := size.width
      height := size.height
      presentMode := o.presentMode
      alphaMode := c.chooseAlpha o
      latency := o.latency
      usage := TextureUsage.renderAttachment }

end SurfaceCaps

end SpriteRenderer

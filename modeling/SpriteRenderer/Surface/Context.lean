import SpriteRenderer.Sprite.Pass
import SpriteRenderer.Surface.Choice
import SpriteRenderer.Surface.Error

/-!
# A surface and its attachments

`GpuContext` keeps three things in step: the size that was last asked for,
the surface configuration, and the stencil attachment. A surface cannot be
configured to a size without area, so such a size is only remembered; the
configuration and the attachment wait for the next size that has one.
-/

namespace SpriteRenderer

/-- A depth and stencil attachment. -/
structure StencilBuffer where
  texture : ObjectId .texture
  view : ObjectId .view
  size : PixelSize
deriving DecidableEq

namespace StencilBuffer

/-- The attachment for a surface of some size, at least one pixel each way. -/
def create (format : TextureFormat) (size : PixelSize) : Graphics StencilBuffer := do
  let size : PixelSize := ⟨max size.width 1, max size.height 1⟩
  let texture ← Graphics.create .texture (.createTexture ·
    { label := "drawbatch stencil"
      size := ⟨size.width, size.height, 1⟩
      mips := 1
      samples := 1
      dimension := .d2
      format := format
      usage := TextureUsage.renderAttachment })
  let view ← Graphics.create .view (.createView · (.texture texture))
  return ⟨texture, view, size⟩

/-- The attachment of a format, if there is one. -/
def create? (size : PixelSize) : Option TextureFormat → Graphics (Option StencilBuffer)
  | none => pure none
  | some format => do return some (← create format size)

end StencilBuffer

/-- A configured surface. -/
structure GpuContext where
  config : SurfaceConfig
  stencilFormat : Option TextureFormat
  stencil : Option StencilBuffer
  /-- The size last asked for; it may have no area. -/
  size : PixelSize
deriving DecidableEq

/-- A frame of a surface, to be drawn and then presented. -/
structure SurfaceFrame where
  frame : ObjectId .frame
  view : ObjectId .view
  encoder : ObjectId .encoder
deriving DecidableEq

namespace SurfaceFrame

/-- Submits what was drawn and shows it. -/
def submit (f : SurfaceFrame) : Graphics Unit := do
  Graphics.tell (.finish f.encoder)
  Graphics.tell (.submit [f.encoder])
  Graphics.tell (.present f.frame)

/-- Gives a frame back unseen. -/
def discard (f : SurfaceFrame) : Graphics Unit := Graphics.tell (.discard f.frame)

end SurfaceFrame

namespace GpuContext

/-- Configures a surface for the first time. -/
def attach (config : SurfaceConfig) (stencilFormat : Option TextureFormat) :
    Graphics GpuContext := do
  let size : PixelSize := ⟨config.width, config.height⟩
  Graphics.tell (.configure config)
  let stencil ← StencilBuffer.create? size stencilFormat
  return ⟨config, stencilFormat, stencil, size⟩

/-- Follows a change of size. -/
def resize (g : GpuContext) (size : PixelSize) : Graphics GpuContext :=
  if size.hasArea then do
    let config := { g.config with width := size.width, height := size.height }
    Graphics.tell (.configure config)
    let stencil ← StencilBuffer.create? size g.stencilFormat
    return { g with config, stencil, size }
  else return { g with size }

/-- The viewport of the size last asked for. -/
def viewport (g : GpuContext) : Viewport := .ofSize g.size.width.toNat g.size.height.toNat

/-- The target that a frame of this surface is drawn through. -/
def target (g : GpuContext) (f : SurfaceFrame) : RenderTarget where
  viewport := g.viewport
  formats := ⟨g.config.format, g.stencilFormat⟩
  colorView := .created f.view
  stencilView := g.stencil.map fun s => .created s.view

/-- Asks for the next frame. The request counts whatever the surface says. -/
def beginFrame (status : AcquireStatus) : Graphics (Except SurfaceError SurfaceFrame) := do
  let frame ← Graphics.create .frame .getCurrentTexture
  match status.error? with
  | some e => return .error e
  | none =>
      let view ← Graphics.create .view (.createView · (.frame frame))
      let encoder ← Graphics.create .encoder (.createCommandEncoder · "drawbatch frame encoder")
      return .ok ⟨frame, view, encoder⟩

/-- Deals with a refused frame. -/
def handleError (g : GpuContext) (e : SurfaceError) : Graphics SurfaceAction := do
  if e.action = .reconfigured ∧ g.size.hasArea then
    Graphics.tell (.configure g.config)
  Graphics.log e.record
  return e.action

end GpuContext

/-! ## A surface in use -/

/-- A surface with its renderer and the frame that is being drawn, if any. -/
structure SurfaceSession where
  gpu : GpuContext
  renderer : DeviceRenderer
  frame : Option SurfaceFrame

namespace SurfaceSession

/-- Gives up the frame in hand. -/
def dropFrame (s : SurfaceSession) : Graphics SurfaceSession := do
  match s.frame with
  | some frame => frame.discard
  | none => pure ()
  return { s with frame := none }

/-- Acquires a frame, which takes the place of the one in hand. -/
def acquire (s : SurfaceSession) (status : AcquireStatus) :
    Graphics (SurfaceSession × Except (SurfaceError × SurfaceAction) Unit) := do
  match ← GpuContext.beginFrame status with
  | .error e => return (s, .error (e, ← s.gpu.handleError e))
  | .ok frame => return ({ ← s.dropFrame with frame := some frame }, .ok ())

/-- Renders into the frame in hand. -/
def render (s : SurfaceSession) (data : FrameData) :
    Graphics (SurfaceSession × Option (Except RenderError FrameStats)) := do
  match s.frame with
  | none => return (s, none)
  | some frame =>
      let (renderer, outcome) ← s.renderer.render (s.gpu.target frame) data
      return ({ s with renderer }, some outcome)

/-- Submits the frame in hand. -/
def submit (s : SurfaceSession) : Graphics SurfaceSession := do
  match s.frame with
  | some frame => frame.submit
  | none => pure ()
  return { s with frame := none }

end SurfaceSession

end SpriteRenderer

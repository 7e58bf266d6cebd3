import SpriteRenderer.Frame.Validation
import SpriteRenderer.Shader.Cache

/-!
# The renderer

A renderer owns a texture pool and a shader program, and turns one packed
frame at a time into calls on a device. The target is cleared whatever the
frame holds; an empty frame ends there. Otherwise the program is made ready,
the frame is decoded and validated, and only then is anything uploaded and
drawn, so a frame that fails has drawn nothing.

`renderFrame` returns what it said to the device along with its outcome, for
any device at all.
-/

namespace SpriteRenderer

/-- What a renderer can be set to. -/
structure RendererConfig where
  textureCapacity : Nat
  /-- What the target is cleared to at the start of a frame. -/
  clearColor : Rgba Binary32
  /-- Whether batch scissor rectangles count. -/
  applyScissor : Bool

def RendererConfig.standard : RendererConfig := ⟨TexturePool.defaultCapacity, .black, false⟩

structure Renderer (P T : Type) where
  config : RendererConfig
  textures : TexturePool T
  shader : ShaderCache P
  /-- Whether a batch without its texture has been reported. -/
  warnedUnbound : Bool
  /-- Frames rendered so far, empty and failed ones included. -/
  frameCount : Nat

/-- What a renderer tells its log. -/
inductive RenderNotice where
  | shader (notice : ShaderNotice)
  | unboundTexture (handle : TextureHandle)
  | textureAllocated (handle : TextureHandle) (live : Nat)
  | textureDisposed (handle : TextureHandle) (live : Nat)
  | frameDrawn (number : Nat) (stats : FrameStats)
deriving DecidableEq

def RenderNotice.record : RenderNotice → LogRecord
  | .shader notice => notice.record
  | .unboundTexture handle =>
      ⟨.warn, s!"batch references unbound texture {handle.label}; drawing without texture"⟩
  | .textureAllocated handle live =>
      ⟨.debug, s!"texture {handle.label} allocated ({live} live)"⟩
  | .textureDisposed handle live =>
      ⟨.debug, s!"texture {handle.label} disposed ({live} live)"⟩
  | .frameDrawn number stats =>
      ⟨.trace, s!"frame {number}: {stats.batches} batches, {stats.drawCalls} draws, "
        ++ s!"{stats.skipped} skipped, {stats.triangles} triangles"⟩

namespace Renderer

variable {ε σ P T : Type}

def create (config : RendererConfig) : Except Fault (Renderer P T) := do
  let textures ← TexturePool.create config.textureCapacity
  return ⟨config, textures, .ofSource .sprite, false, 0⟩

/-! ## Textures -/

/-- Stores a texture and returns the handle batches refer to it by. -/
def allocateTexture (r : Renderer P T) (resource : T) :
    Except RenderError (TextureHandle × Renderer P T × RenderNotice) := do
  let (handle, textures) ← r.textures.insert resource
  return (handle, { r with textures }, .textureAllocated handle textures.live)

/-- Gives up a handle and hands its texture back. -/
def disposeTexture (r : Renderer P T) (handle : TextureHandle) :
    Except RenderError (Option T × Renderer P T × RenderNotice) := do
  let (resource, textures) ← r.textures.dispose handle
  return (resource, { r with textures }, .textureDisposed handle textures.live)

/-! ## Frames -/

/-- A frame that was rendered or given up. -/
structure FrameRun (P T : Type) where
  renderer : Renderer P T
  outcome : Except RenderError FrameStats
  calls : List (Call P T)
  notices : List RenderNotice

/-- How every frame starts. -/
def header (r : Renderer P T) : List (Command P T) :=
  [.stencilTest false, .scissorTest false, .clear r.config.clearColor 0]

/-- The records of a frame, if it can be drawn with this renderer's pool. -/
def accept (r : Renderer P T) (frame : FrameData) : Except RenderError DecodedFrame := do
  let decoded ← frame.decode
  decoded.validate r.textures.capacity
  return decoded

def drawContext (r : Renderer P T) (viewport : Viewport) : DrawContext T :=
  ⟨r.textures, viewport, r.config.applyScissor⟩

/-- The commands that draw uploaded geometry and let it go again. -/
def body (r : Renderer P T) (program : P) (viewport : Viewport)
    (drawing : List (DrawCommand T)) : List (Command P T) :=
  [.useProgram program (.screen viewport)]
    ++ (if r.config.applyScissor then [.scissorTest true] else [])
    ++ drawing.map .drawing
    ++ [.releaseGeometry]

/-- Uploads and draws the records of an accepted frame. -/
def drawDecoded (B : Backend ε σ P T) (r : Renderer P T) (viewport : Viewport) (program : P)
    (decoded : DecodedFrame) : Effect ε σ (FrameRun P T) := do
  let upload accepted := Call.upload decoded.vertices decoded.indices accepted
  match ← B.upload decoded.vertices decoded.indices with
  | .error e =>
      B.perform .releaseGeometry
      return ⟨r, .error e, [upload false, .command .releaseGeometry], []⟩
  | .ok () =>
      let done ← Effect.lift ((r.drawContext viewport).execute r.warnedUnbound decoded.batches)
      let commands := r.body program viewport done.commands
      B.performAll commands
      return {
        renderer := { r with warnedUnbound := done.warned }
        outcome := .ok done.stats
        calls := upload true :: commands.map .command
        notices := done.unbound.map .unboundTexture ++ [.frameDrawn r.frameCount done.stats] }

/-- Renders the part of a non-empty frame that comes after the clear. -/
def renderBody (B : Backend ε σ P T) (r : Renderer P T) (frame : FrameData) :
    Effect ε σ (FrameRun P T) := do
  let viewport := B.viewport (← Effect.get)
  let lookup ← r.shader.ensureCompiled B
  let r := { r with shader := lookup.cache }
  let news := lookup.notices.map RenderNotice.shader
  match lookup.outcome with
  | .error e => return ⟨r, .error e, lookup.calls, news⟩
  | .ok program =>
      match r.accept frame with
      | .error e => return ⟨r, .error e, lookup.calls, news⟩
      | .ok decoded =>
          let run ← drawDecoded B r viewport program decoded
          return { run with calls := lookup.calls ++ run.calls, notices := news ++ run.notices }

/-- Renders one frame. -/
def renderFrame (B : Backend ε σ P T) (r : Renderer P T) (frame : FrameData) :
    Effect ε σ (FrameRun P T) := do
  let frameCount ← Effect.lift (fitUnsigned 64 (r.frameCount + 1))
  let r := { r with frameCount }
  B.performAll r.header
  let opening := r.header.map Call.command
  if frame.isEmpty then
    return ⟨r, .ok .zero, opening, []⟩
  else
    let run ← renderBody B r frame
    return { run with calls := opening ++ run.calls }

end Renderer

end SpriteRenderer

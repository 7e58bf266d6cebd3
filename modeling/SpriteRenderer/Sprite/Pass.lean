import SpriteRenderer.Renderer.Basic
import SpriteRenderer.Sprite.Program

/-!
# Drawing a frame in one render pass

The device has no drawing state outside a render pass, and a pass cannot be
begun before it is known what is drawn in it. So state changes and draws are
written down as they come, and replayed in one pass when the geometry is
released. Only clearing is done at once, in a pass of its own.

`SpritePass` is the state of such a frame and `backend` makes it a device
for the renderer.
-/

namespace SpriteRenderer

/-- What a frame is drawn into. -/
structure RenderTarget where
  viewport : Viewport
  formats : TargetFormats
  colorView : TargetView
  stencilView : Option TargetView

/-- A state change or draw to be replayed. -/
inductive PassOp where
  | pipeline (func : BlendFunc)
  | texture (group : ObjectId .group)
  /-- The scissor rectangle; `none` is the whole target. -/
  | scissor (clip : Option Clip)
  | draw (first stop : Nat)
deriving DecidableEq

def PassOp.isDraw : PassOp → Bool
  | .draw _ _ => true
  | _ => false

/-- The uploaded buffers of a frame. -/
structure Geometry where
  vertices : Graphics.FilledBuffer
  indices : Graphics.FilledBuffer
deriving DecidableEq

/-- A frame being drawn. -/
structure SpritePass where
  device : Device
  target : RenderTarget
  program : Option SpriteProgram
  globals : Option (ObjectId .group)
  geometry : Option Geometry
  scissorTest : Bool
  scissorRect : Clip
  ops : Array PassOp

namespace SpritePass

/-- An effect on a frame being drawn. -/
abbrev Drawing (α : Type) := Effect (Event GraphicsCall) SpritePass α

def start (device : Device) (target : RenderTarget) : SpritePass where
  device := device
  target := target
  program := none
  globals := none
  geometry := none
  scissorTest := false
  scissorRect := ⟨0, 0, 0, 0⟩
  ops := #[]

/-- Runs an effect of the device under the frame. -/
def onDevice {α : Type} (x : Graphics α) : Drawing α :=
  x.zoom SpritePass.device fun device s => { s with device }

/-- Writes down one more operation. -/
def note (s : SpritePass) (op : PassOp) : SpritePass := { s with ops := s.ops.push op }

/-! ## Passes -/

def depthStencil (target : RenderTarget) (depth : LoadOp Binary32) (stencil : LoadOp UInt32) :
    Option DepthStencilAttachment :=
  target.stencilView.map fun view => ⟨view, depth, stencil⟩

/-- The pass that clears a target: its colour, and with a stencil buffer also
the stencil to a given value and the depth to one. -/
def clearPass (target : RenderTarget) (color : Rgba Binary32) (stencil : UInt32) :
    PassDescription where
  label := "drawbatch clear"
  colors := [⟨target.colorView, .clear (color.map Binary32.widen)⟩]
  depthStencil := depthStencil target (.clear .one) (.clear stencil)

/-- The pass that draws onto what is there. -/
def batchPass (target : RenderTarget) : PassDescription where
  label := "drawbatch batches"
  colors := [⟨target.colorView, .load⟩]
  depthStencil := depthStencil target .load .load

/-- How one written-down operation is replayed on a target of the given
extent, which no rectangle may leave. -/
def replayOp (program : SpriteProgram) (width height : Nat) : PassOp → PassCall
  | .pipeline func => .setPipeline (program.pipeline func)
  | .texture group => .setBindGroup 1 group
  | .scissor none => .setScissorRect (.whole width height)
  | .scissor (some clip) => .setScissorRect (clip.within width height)
  | .draw first stop => .drawIndexed first stop 0 0 1

/-- What is set before the first operation: everything, so that the replay
starts from a known state. The buffers are set as a whole, and have to hold
something. -/
def passSetup (program : SpriteProgram) (globals : ObjectId .group) (geometry : Geometry)
    (width height : Nat) : Except Fault (List PassCall) := do
  let vertexBytes ← geometry.vertices.wholeRange
  let indexBytes ← geometry.indices.wholeRange
  return [.setBindGroup 0 globals,
    .setBindGroup 1 program.defaultGroup,
    .setPipeline (program.pipeline .over),
    .setVertexBuffer 0 geometry.vertices.buffer 0 vertexBytes,
    .setIndexBuffer geometry.indices.buffer .uint16 0 indexBytes,
    .setScissorRect (.whole width height)]

/-- Begins a pass, says everything in it, and ends it. -/
def encode (description : PassDescription) (calls : List PassCall) : Graphics Unit := do
  let pass ← Graphics.create .pass (.beginRenderPass · description)
  Effect.emitAll (calls.map fun call => .call (.inPass call))
  Graphics.tell (.endPass pass)

/-- Replays the operations in one pass, unless nothing is drawn. -/
def encodeBatches (target : RenderTarget) (ops : Array PassOp) (program : SpriteProgram)
    (globals : ObjectId .group) (geometry : Geometry) : Graphics Unit :=
  if ops.any PassOp.isDraw then do
    let (width, height) := target.viewport.passExtent
    let setup ← Effect.lift (passSetup program globals geometry width height)
    encode (batchPass target) (setup ++ ops.toList.map (replayOp program width height))
  else pure ()

/-! ## Commands -/

/-- A warning for a switch that nothing is connected to. -/
def stencilIgnored : LogRecord :=
  ⟨.warn, "stencil test requested; masking is not drawn by the wgpu backend"⟩

/-- The group to draw with under a program; `none` is the default. -/
def groupFor (program : SpriteProgram) : Option SpriteTexture → Graphics (ObjectId .group)
  | some texture => program.textureGroup texture
  | none => pure program.defaultGroup

def performDrawing : DrawCommand SpriteTexture → Drawing Unit
  | .scissorRect clip => Effect.modify fun s =>
      let s := { s with scissorRect := clip }
      if s.scissorTest then s.note (.scissor (some clip)) else s
  | .bindTexture texture => do
      match (← Effect.get).program with
      | none => return
      | some program =>
          let group ← onDevice (groupFor program texture)
          Effect.modify (·.note (.texture group))
  | .blend func => Effect.modify (·.note (.pipeline func))
  | .draw first count => do
      let stop ← Effect.lift (fitUnsigned 32 (first.toNat + count.toNat))
      Effect.modify (·.note (.draw first.toNat stop))

/-- Encodes what was written down, if there is geometry, a program and its
uniforms to draw with, and forgets it either way. -/
def release : Drawing Unit := do
  let s ← Effect.get
  Effect.set { s with geometry := none, program := none, globals := none, ops := #[] }
  match s.geometry, s.program, s.globals with
  | some geometry, some program, some globals =>
      onDevice (encodeBatches s.target s.ops program globals geometry)
  | _, _, _ => pure ()

def perform : Command SpriteProgram SpriteTexture → Drawing Unit
  | .stencilTest on => if on then Graphics.log stencilIgnored else pure ()
  | .scissorTest on => Effect.modify fun s =>
      { s with scissorTest := on }.note (.scissor (if on then some s.scissorRect else none))
  | .clear color stencil => do
      let s ← Effect.get
      onDevice (encode (clearPass s.target color stencil) [])
  | .useProgram program projection => do
      let globals ← onDevice (program.createGlobals projection)
      Effect.modify fun s => { s with globals := some globals, program := some program }
  | .drawing command => performDrawing command
  | .releaseGeometry => release

def compile (source : ShaderSource) : Drawing (Except String SpriteProgram) := do
  let s ← Effect.get
  onDevice (SpriteProgram.compile s.target.formats source)

/-- An index as an index buffer holds it, lowest byte first. -/
def indexBytes (i : UInt16) : List UInt8 := [i.toUInt8, (i >>> 8).toUInt8]

def upload (vertices : List Vertex) (indices : List UInt16) :
    Drawing (Except RenderError Unit) := do
  let vertexBuffer ← onDevice (Graphics.createFilledBuffer "drawbatch frame vbo"
    BufferUsage.vertex (vertices.flatMap Vertex.bytes))
  let indexBuffer ← onDevice (Graphics.createFilledBuffer "drawbatch frame ibo"
    BufferUsage.index (indices.flatMap indexBytes))
  Effect.modify fun s => { s with geometry := some ⟨vertexBuffer, indexBuffer⟩ }
  return .ok ()

def backend : Backend (Event GraphicsCall) SpritePass SpriteProgram SpriteTexture where
  viewport s := s.target.viewport
  perform := perform
  compile := compile
  upload := upload

end SpritePass

/-! ## Whole frames -/

/-- A renderer of sprite textures on a device. -/
abbrev DeviceRenderer := Renderer SpriteProgram SpriteTexture

/-- Renders a frame into a target and logs what there is to say. -/
def DeviceRenderer.render (r : DeviceRenderer) (target : RenderTarget) (frame : FrameData) :
    Graphics (DeviceRenderer × Except RenderError FrameStats) := do
  let run ← (Renderer.renderFrame SpritePass.backend r frame).zoom (SpritePass.start · target)
    fun pass _ => pass.device
  Graphics.logAll (run.notices.map RenderNotice.record)
  return (run.renderer, run.outcome)

end SpriteRenderer

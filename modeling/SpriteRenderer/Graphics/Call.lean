import SpriteRenderer.Color
import SpriteRenderer.Log
import SpriteRenderer.Scissor
import SpriteRenderer.Graphics.Format

/-!
# Calls on a graphics device

The device is a black box that is told things in order; what it is told is
kept as data. Objects are numbered per kind in the order of their creation,
and a description carries everything the device learns about an object.
-/

namespace SpriteRenderer

/-! ## Objects -/

inductive ObjectKind where
  | shader
  | layout
  | pipelineLayout
  | pipeline
  | sampler
  | texture
  | view
  | group
  | buffer
  | pass
  | frame
  | encoder
deriving DecidableEq

/-- The number of an object among those of its kind. -/
structure ObjectId (kind : ObjectKind) where
  number : Nat
deriving DecidableEq

/-- A view to draw into: one made here, or one lent from outside under a
name. -/
inductive TargetView where
  | created (view : ObjectId .view)
  | lent (name : String)
deriving DecidableEq

/-- What a view looks at. -/
inductive ViewSource where
  | texture (texture : ObjectId .texture)
  | frame (frame : ObjectId .frame)
deriving DecidableEq

/-! ## Usage bits -/

namespace BufferUsage

def index : Nat := 16

def vertex : Nat := 32

def uniform : Nat := 64

end BufferUsage

namespace TextureUsage

def copyTarget : Nat := 2

def binding : Nat := 4

def renderAttachment : Nat := 16

end TextureUsage

namespace StageBits

def vertex : Nat := 1

def fragment : Nat := 2

end StageBits

/-! ## Bindings -/

inductive TextureDimension where
  | d1
  | d2
  | d3
deriving DecidableEq

/-- What a binding expects. -/
inductive BindingType where
  | uniformBuffer (dynamicOffset : Bool) (minSize : Nat)
  | floatTexture (filterable : Bool) (dimension : TextureDimension) (multisampled : Bool)
  | sampler (filtering : Bool)
deriving DecidableEq

structure LayoutEntry where
  binding : Nat
  visibility : Nat
  type : BindingType
deriving DecidableEq

/-- What a binding is given. -/
inductive Resource where
  | buffer (buffer : ObjectId .buffer)
  | view (view : ObjectId .view)
  | sampler (sampler : ObjectId .sampler)
deriving DecidableEq

/-! ## Pipelines -/

inductive VertexFormat where
  | float32x2
  | unorm8x4
deriving DecidableEq

inductive StepMode where
  | vertex
  | instance_
deriving DecidableEq

structure VertexAttribute where
  location : Nat
  format : VertexFormat
  offset : Nat
deriving DecidableEq

structure VertexLayout where
  stride : Nat
  step : StepMode
  attributes : List VertexAttribute
deriving DecidableEq

inductive BlendFactor where
  | one
  | srcAlpha
  | oneMinusSrcAlpha
deriving DecidableEq

inductive BlendOperation where
  | add
  | subtract
deriving DecidableEq

/-- `source * sourceFactor (operation) target * targetFactor` -/
structure BlendComponent where
  sourceFactor : BlendFactor
  targetFactor : BlendFactor
  operation : BlendOperation
deriving DecidableEq

structure ColorTarget where
  format : TextureFormat
  color : BlendComponent
  alpha : BlendComponent
  writeMask : Nat
deriving DecidableEq

inductive CompareFunction where
  | never
  | less
  | always
deriving DecidableEq

structure DepthStencilState where
  format : TextureFormat
  depthWrite : Bool
  depthCompare : CompareFunction
  stencilEnabled : Bool
deriving DecidableEq

inductive Topology where
  | triangleList
  | triangleStrip
deriving DecidableEq

inductive FrontFace where
  | counterClockwise
  | clockwise
deriving DecidableEq

inductive CullFace where
  | front
  | back
deriving DecidableEq

structure PipelineDescription where
  label : String
  layout : ObjectId .pipelineLayout
  vertexEntry : String
  fragmentEntry : String
  buffers : List VertexLayout
  targets : List ColorTarget
  topology : Topology
  frontFace : FrontFace
  cull : Option CullFace
  depthStencil : Option DepthStencilState
  samples : Nat
deriving DecidableEq

/-! ## Textures, samplers and buffers -/

inductive AddressMode where
  | clampToEdge
  | wrap
deriving DecidableEq

inductive FilterMode where
  | nearest
  | linear
deriving DecidableEq

structure SamplerDescription where
  label : String
  u : AddressMode
  v : AddressMode
  magnify : FilterMode
  minify : FilterMode
  mipmap : FilterMode
deriving DecidableEq

structure Extent where
  width : UInt32
  height : UInt32
  layers : UInt32
deriving DecidableEq

structure TextureDescription where
  label : String
  size : Extent
  mips : Nat
  samples : Nat
  dimension : TextureDimension
  format : TextureFormat
  usage : Nat
deriving DecidableEq

/-- Pixels for a whole texture, rows from the top. -/
structure TextureWrite where
  mip : Nat
  origin : Nat × Nat × Nat
  offset : Nat
  bytesPerRow : Nat
  rows : Nat
  size : Extent
  data : List UInt8
deriving DecidableEq

structure BufferDescription where
  label : String
  size : Nat
  usage : Nat
deriving DecidableEq

/-! ## Render passes -/

/-- What an attachment starts with. -/
inductive LoadOp (α : Type) where
  | load
  | clear (value : α)
deriving DecidableEq

/-- A colour attachment, stored at the end of its pass. A clear colour has
double-precision channels, given by their bits. -/
structure ColorAttachment where
  view : TargetView
  load : LoadOp (Rgba UInt64)
deriving DecidableEq

/-- A depth and stencil attachment, both stored at the end of the pass. -/
structure DepthStencilAttachment where
  view : TargetView
  depth : LoadOp Binary32
  stencil : LoadOp UInt32
deriving DecidableEq

structure PassDescription where
  label : String
  colors : List ColorAttachment
  depthStencil : Option DepthStencilAttachment
deriving DecidableEq

inductive IndexFormat where
  | uint16
  | uint32
deriving DecidableEq

/-- What is said inside a render pass. -/
inductive PassCall where
  | setBindGroup (index : Nat) (group : ObjectId .group)
  | setPipeline (pipeline : ObjectId .pipeline)
  | setVertexBuffer (slot : Nat) (buffer : ObjectId .buffer) (offset size : Nat)
  | setIndexBuffer (buffer : ObjectId .buffer) (format : IndexFormat) (offset size : Nat)
  | setScissorRect (clip : Clip)
  | drawIndexed (first stop : Nat) (baseVertex : Int) (firstInstance stopInstance : Nat)
deriving DecidableEq

/-! ## Surfaces -/

structure SurfaceConfig where
  format : TextureFormat
  width : UInt32
  height : UInt32
  presentMode : PresentMode
  alphaMode : AlphaMode
  /-- Frames that may be queued ahead. -/
  latency : Nat
  usage : Nat
deriving DecidableEq

/-! ## Calls -/

/-- Everything a graphics device can be told. -/
inductive GraphicsCall where
  | createShaderModule (shader : ObjectId .shader) (label : String) (textLength : Nat)
  | createBindGroupLayout (layout : ObjectId .layout) (label : String)
      (entries : List LayoutEntry)
  | createPipelineLayout (layout : ObjectId .pipelineLayout) (label : String)
      (layouts : List (ObjectId .layout)) (immediateSize : Nat)
  | createRenderPipeline (pipeline : ObjectId .pipeline) (description : PipelineDescription)
  | createSampler (sampler : ObjectId .sampler) (description : SamplerDescription)
  | createTexture (texture : ObjectId .texture) (description : TextureDescription)
  | writeTexture (texture : ObjectId .texture) (write : TextureWrite)
  | createView (view : ObjectId .view) (source : ViewSource)
  | createBindGroup (group : ObjectId .group) (label : String) (layout : ObjectId .layout)
      (entries : List (Nat × Resource))
  | createBuffer (buffer : ObjectId .buffer) (description : BufferDescription)
  | bufferData (buffer : ObjectId .buffer) (data : List UInt8)
  | beginRenderPass (pass : ObjectId .pass) (description : PassDescription)
  | inPass (call : PassCall)
  | endPass (pass : ObjectId .pass)
  | configure (config : SurfaceConfig)
  | getCurrentTexture (frame : ObjectId .frame)
  | createCommandEncoder (encoder : ObjectId .encoder) (label : String)
  | finish (encoder : ObjectId .encoder)
  | submit (encoders : List (ObjectId .encoder))
  | present (frame : ObjectId .frame)
  | discard (frame : ObjectId .frame)
deriving DecidableEq

/-- A call made or a line logged, in the order of their happening. -/
inductive Event (C : Type) where
  | call (call : C)
  | log (record : LogRecord)
deriving DecidableEq

namespace Event

variable {C D : Type}

def map (f : C → D) : Event C → Event D
  | .call c => .call (f c)
  | .log r => .log r

def call? : Event C → Option C
  | .call c => some c
  | .log _ => none

def log? : Event C → Option LogRecord
  | .call _ => none
  | .log r => some r

end Event

end SpriteRenderer

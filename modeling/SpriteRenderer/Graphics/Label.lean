import SpriteRenderer.Graphics.Call

/-!
# Names of graphics objects and choices

How objects, formats and modes are written in a listing of calls: an object
by its kind and number, everything else by a fixed word.
-/

namespace SpriteRenderer

/-! ## Objects -/

def ObjectKind.label : ObjectKind → String
  | .shader => "shader"
  | .layout => "layout"
  | .pipelineLayout => "pipeline_layout"
  | .pipeline => "pipeline"
  | .sampler => "sampler"
  | .texture => "texture"
  | .view => "view"
  | .group => "group"
  | .buffer => "buffer"
  | .pass => "pass"
  | .frame => "frame"
  | .encoder => "encoder"

def ObjectId.label {kind : ObjectKind} (o : ObjectId kind) : String := s!"{kind.label}{o.number}"

def TargetView.label : TargetView → String
  | .created v => v.label
  | .lent name => name

def ViewSource.label : ViewSource → String
  | .texture t => t.label
  | .frame f => f.label

def Resource.label : Resource → String
  | .buffer b => b.label
  | .view v => v.label
  | .sampler s => s.label

/-! ## Formats and modes -/

namespace TextureFormat

def label : TextureFormat → String
  | .bgra8Unorm => "Bgra8Unorm"
  | .bgra8UnormSrgb => "Bgra8UnormSrgb"
  | .rgba8Unorm => "Rgba8Unorm"
  | .rgba8UnormSrgb => "Rgba8UnormSrgb"
  | .rgba16Float => "Rgba16Float"
  | .rgb10a2Unorm => "Rgb10a2Unorm"
  | .r8Unorm => "R8Unorm"
  | .depth24PlusStencil8 => "Depth24PlusStencil8"

def all : List TextureFormat :=
  [.bgra8Unorm, .bgra8UnormSrgb, .rgba8Unorm, .rgba8UnormSrgb, .rgba16Float, .rgb10a2Unorm,
    .r8Unorm, .depth24PlusStencil8]

end TextureFormat

namespace AlphaMode

def label : AlphaMode → String
  | .auto => "Auto"
  | .opaqueAlpha => "Opaque"
  | .preMultiplied => "PreMultiplied"
  | .postMultiplied => "PostMultiplied"
  | .inherit => "Inherit"

def all : List AlphaMode := [.auto, .opaqueAlpha, .preMultiplied, .postMultiplied, .inherit]

end AlphaMode

def PresentMode.label : PresentMode → String
  | .fifo => "Fifo"
  | .mailbox => "Mailbox"
  | .immediate => "Immediate"

/-! ## Parts of descriptions -/

def TextureDimension.label : TextureDimension → String
  | .d1 => "D1"
  | .d2 => "D2"
  | .d3 => "D3"

def VertexFormat.label : VertexFormat → String
  | .float32x2 => "Float32x2"
  | .unorm8x4 => "Unorm8x4"

def StepMode.label : StepMode → String
  | .vertex => "Vertex"
  | .instance_ => "Instance"

def BlendFactor.label : BlendFactor → String
  | .one => "One"
  | .srcAlpha => "SrcAlpha"
  | .oneMinusSrcAlpha => "OneMinusSrcAlpha"

def BlendOperation.label : BlendOperation → String
  | .add => "Add"
  | .subtract => "Subtract"

def CompareFunction.label : CompareFunction → String
  | .never => "Never"
  | .less => "Less"
  | .always => "Always"

def Topology.label : Topology → String
  | .triangleList => "TriangleList"
  | .triangleStrip => "TriangleStrip"

def FrontFace.label : FrontFace → String
  | .counterClockwise => "Ccw"
  | .clockwise => "Cw"

def CullFace.label : CullFace → String
  | .front => "Front"
  | .back => "Back"

def AddressMode.label : AddressMode → String
  | .clampToEdge => "ClampToEdge"
  | .wrap => "Repeat"

def FilterMode.label : FilterMode → String
  | .nearest => "Nearest"
  | .linear => "Linear"

def IndexFormat.label : IndexFormat → String
  | .uint16 => "Uint16"
  | .uint32 => "Uint32"

end SpriteRenderer

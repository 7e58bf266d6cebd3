/-!
# Render errors

What can be wrong with a frame, a texture or a handle. An error is a cause,
and its wording is in `message` alone. Errors that a host reports about its
own buffers and devices carry their text.
-/

namespace SpriteRenderer

/-- The three blocks of a packed frame. -/
inductive Block where
  | vertices
  | indices
  | batches
deriving DecidableEq

namespace Block

/-- What a record of the block is called. -/
def record : Block → String
  | .vertices => "vertex"
  | .indices => "index"
  | .batches => "batch"

/-- What the block is called. -/
def label : Block → String
  | .vertices => "vertex block"
  | .indices => "index buffer"
  | .batches => "batch block"

end Block

/-- Why a buffer cannot be used. -/
inductive BufferDefect where
  | negativeCount (block : Block) (count : Int)
  | tooShort (block : Block) (available required records : Nat)
  /-- Records whose slots 64 bits cannot count. -/
  | recordsOverflow (block : Block) (records : Nat)
  /-- Bytes that do not start at a multiple of four. -/
  | misaligned
  /-- Bytes that do not fill a whole number of slots. -/
  | brokenSlot
  | pixelCount (width height expected actual : Nat)
  | reported (text : String)
deriving DecidableEq

def BufferDefect.message : BufferDefect → String
  | .negativeCount block count => s!"negative {block.record} count {count}"
  | .tooShort block available required records =>
      s!"{block.label} holds {available} slots, {required} required for {records} records"
  | .recordsOverflow block records => s!"{block.label}: {records} records overflow"
  | .misaligned => "vertex block bytes: TargetAlignmentGreaterAndInputNotAligned"
  | .brokenSlot => "vertex block bytes: OutputSliceWouldHaveSlop"
  | .pixelCount width height expected actual =>
      s!"texture {width}x{height} needs {expected} bytes, got {actual}"
  | .reported text => text

/-- A number that has to stay below a limit. -/
inductive Quantity where
  | vertexIndex
  | batchIndexStart
  | batchTriangleCount
  | batchIndexRange
  | batchTextureId
  | textureHandle
  | reported (text : String)
deriving DecidableEq

def Quantity.label : Quantity → String
  | .vertexIndex => "vertex index"
  | .batchIndexStart => "batch index start"
  | .batchTriangleCount => "batch triangle count"
  | .batchIndexRange => "batch index range"
  | .batchTextureId => "batch texture id"
  | .textureHandle => "texture handle"
  | .reported text => text

/-- What a graphics device refused to do. -/
inductive BackendFailure where
  | zeroArea (width height : Nat)
  | reported (text : String)
deriving DecidableEq

def BackendFailure.message : BackendFailure → String
  | .zeroArea width height => s!"texture size {width}x{height} has zero area"
  | .reported text => text

/-- Why a frame or a texture operation failed. -/
inductive RenderError where
  /-- A buffer is malformed or too small. -/
  | invalidBuffer (defect : BufferDefect)
  /-- A value points outside its declared bounds. -/
  | outOfRange (what : Quantity) (value limit : Int)
  /-- Every texture slot is live. -/
  | resourceExhausted (capacity : Nat)
  /-- The handle is in no state that permits the operation. -/
  | invalidHandle (handle : Nat)
  /-- The device rejected the shader program. -/
  | shaderCompileFailure (name log : String)
  /-- The device failed while a frame was issued. -/
  | backend (failure : BackendFailure)
deriving DecidableEq

namespace RenderError

/-- The kind of an error, without its particulars. -/
def kind : RenderError → String
  | .invalidBuffer _ => "InvalidBuffer"
  | .outOfRange _ _ _ => "OutOfRange"
  | .resourceExhausted _ => "ResourceExhausted"
  | .invalidHandle _ => "InvalidHandle"
  | .shaderCompileFailure _ _ => "ShaderCompileFailure"
  | .backend _ => "Backend"

def message : RenderError → String
  | .invalidBuffer defect => s!"invalid buffer: {defect.message}"
  | .outOfRange what value limit => s!"{what.label} out of range: {value} (limit {limit})"
  | .resourceExhausted capacity => s!"texture pool exhausted ({capacity} handles live)"
  | .invalidHandle handle => s!"invalid texture handle #{handle}"
  | .shaderCompileFailure name log => s!"shader `{name}` failed to compile: {log}"
  | .backend failure => s!"backend error: {failure.message}"

/-- Whether a renderer that met the error can draw no more. All other errors
cost one frame or one operation. -/
def isFatal : RenderError → Bool
  | .shaderCompileFailure _ _ => true
  | _ => false

end RenderError

end SpriteRenderer

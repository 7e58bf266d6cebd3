import SpriteRenderer.Blend
import SpriteRenderer.Projection
import SpriteRenderer.Shader.Source
import SpriteRenderer.Sprite.Texture

/-!
# The sprite program on a device

The compiled program is one pipeline for each blend function, with the bind
group layouts, the sampler and the default texture that they share. Group 0
holds the projection, group 1 the texture of a batch.
-/

namespace SpriteRenderer

/-- The formats that a program is built to draw into. -/
structure TargetFormats where
  color : TextureFormat
  stencil : Option TextureFormat
deriving DecidableEq

structure SpriteProgram where
  globalsLayout : ObjectId .layout
  textureLayout : ObjectId .layout
  sampler : ObjectId .sampler
  overPipeline : ObjectId .pipeline
  additivePipeline : ObjectId .pipeline
  /-- The group of the white texture, for batches without one. -/
  defaultGroup : ObjectId .group
deriving DecidableEq

namespace SpriteProgram

/-! ## Descriptions -/

/-- Bytes of a projection in a uniform buffer. -/
def projectionSize : Nat := 64

/-- The layout of a vertex: its six slots, the last two as packed colours. -/
def vertexLayout : VertexLayout where
  stride := 24
  step := .vertex
  attributes := [⟨0, .float32x2, 0⟩, ⟨1, .float32x2, 8⟩, ⟨2, .unorm8x4, 16⟩, ⟨3, .unorm8x4, 20⟩]

/-- The blending of a blend function, alike for colour and alpha. -/
def blendComponent (func : BlendFunc) : BlendComponent where
  sourceFactor := .srcAlpha
  targetFactor :=
    match func with
    | .over => .oneMinusSrcAlpha
    | .additive => .one
  operation := .add

def pipelineLabel : BlendFunc → String
  | .over => "drawbatch sprite pipeline (normal)"
  | .additive => "drawbatch sprite pipeline (add)"

/-- A stencil attachment is there, but never tested. -/
def depthStencilState (format : TextureFormat) : DepthStencilState :=
  ⟨format, false, .always, false⟩

def pipelineDescription (layout : ObjectId .pipelineLayout) (formats : TargetFormats)
    (source : ShaderSource) (func : BlendFunc) : PipelineDescription where
  label := pipelineLabel func
  layout := layout
  vertexEntry := source.vertexEntry
  fragmentEntry := source.fragmentEntry
  buffers := [vertexLayout]
  targets := [⟨formats.color, blendComponent func, blendComponent func, 15⟩]
  topology := .triangleList
  frontFace := .counterClockwise
  cull := none
  depthStencil := formats.stencil.map depthStencilState
  samples := 1

def samplerDescription : SamplerDescription where
  label := "drawbatch sprite sampler"
  u := .clampToEdge
  v := .clampToEdge
  magnify := .linear
  minify := .linear
  mipmap := .nearest

def globalsEntries : List LayoutEntry :=
  [⟨0, StageBits.vertex, .uniformBuffer false projectionSize⟩]

def textureEntries : List LayoutEntry :=
  [⟨0, StageBits.fragment, .floatTexture true .d2 false⟩, ⟨1, StageBits.fragment, .sampler true⟩]

/-! ## Building and using -/

/-- A bind group through which a texture is sampled. -/
def createTextureGroup (layout : ObjectId .layout) (sampler : ObjectId .sampler)
    (texture : SpriteTexture) : Graphics (ObjectId .group) :=
  Graphics.create .group (.createBindGroup · "drawbatch texture bind group" layout
    [(0, .view texture.view), (1, .sampler sampler)])

/-- Checks a source and builds the program, or tells what is missing. -/
def compile (formats : TargetFormats) (source : ShaderSource) :
    Graphics (Except String SpriteProgram) :=
  match source.check with
  | .error log => return .error log
  | .ok _ => do
      let _ ← Graphics.create .shader (.createShaderModule · source.name source.text.byteLength)
      let globalsLayout ← Graphics.create .layout
        (.createBindGroupLayout · "drawbatch globals bgl" globalsEntries)
      let textureLayout ← Graphics.create .layout
        (.createBindGroupLayout · "drawbatch texture bgl" textureEntries)
      let layout ← Graphics.create .pipelineLayout
        (.createPipelineLayout · "drawbatch sprite pipeline layout" [globalsLayout, textureLayout] 0)
      let overPipeline ← Graphics.create .pipeline
        (.createRenderPipeline · (pipelineDescription layout formats source .over))
      let additivePipeline ← Graphics.create .pipeline
        (.createRenderPipeline · (pipelineDescription layout formats source .additive))
      let sampler ← Graphics.create .sampler (.createSampler · samplerDescription)
      match ← SpriteTexture.white with
      | .error e => return .error e.message
      | .ok white =>
          let defaultGroup ← createTextureGroup textureLayout sampler white
          return .ok
            { globalsLayout, textureLayout, sampler, overPipeline, additivePipeline, defaultGroup }

/-- The pipeline of a blend function. -/
def pipeline (p : SpriteProgram) : BlendFunc → ObjectId .pipeline
  | .over => p.overPipeline
  | .additive => p.additivePipeline

/-- A group 0 bind group that holds a projection. -/
def createGlobals (p : SpriteProgram) (projection : Projection) : Graphics (ObjectId .group) := do
  let uniform ← Graphics.createFilledBuffer "drawbatch globals ubo" BufferUsage.uniform
    projection.bytes
  Graphics.create .group (.createBindGroup · "drawbatch globals bind group" p.globalsLayout
    [(0, .buffer uniform.buffer)])

/-- The group 1 bind group of a texture: built when the texture is first
drawn with, and the same ever after. -/
def textureGroup (p : SpriteProgram) (texture : SpriteTexture) : Graphics (ObjectId .group) := do
  match (← Effect.get).groupOf? texture.texture with
  | some group => return group
  | none =>
      let group ← createTextureGroup p.textureLayout p.sampler texture
      Effect.modify fun d => { d with textureGroups := (texture.texture, group) :: d.textureGroups }
      return group

end SpriteProgram

end SpriteRenderer

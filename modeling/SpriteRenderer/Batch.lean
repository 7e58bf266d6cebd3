import SpriteRenderer.Blend
import SpriteRenderer.Scissor

/-!
# Batches

A batch is a run of triangles drawn with one texture, blend mode and scissor
rectangle. It travels as a descriptor of sixteen signed words: ten with a
meaning, listed by `BatchField`, and six that are reserved. Reading a
descriptor ignores the reserved words and writing one leaves them zero.
-/

namespace SpriteRenderer

/-- The words of a batch descriptor that mean something. -/
inductive BatchField where
  | indexStart
  | triangleCount
  | textureId
  | blendMode
  | maskType
  | stencilIndex
  | scissorLeft
  | scissorTop
  | scissorRight
  | scissorBottom

namespace BatchField

/-- Words per descriptor. -/
abbrev count : Nat := 16

/-- Where a field stands in its descriptor. -/
def offset : BatchField → Fin count
  | .indexStart => 0
  | .triangleCount => 1
  | .textureId => 2
  | .blendMode => 3
  | .maskType => 4
  | .stencilIndex => 5
  | .scissorLeft => 6
  | .scissorTop => 7
  | .scissorRight => 8
  | .scissorBottom => 9

/-- All fields, in the order of their declaration. -/
def all : List BatchField :=
  [.indexStart, .triangleCount, .textureId, .blendMode, .maskType, .stencilIndex,
    .scissorLeft, .scissorTop, .scissorRight, .scissorBottom]

end BatchField

/-- A batch with its fields as they were packed; nothing is checked yet. -/
structure Batch where
  /-- First entry of the index buffer that is drawn. -/
  indexStart : Int32
  triangleCount : Int32
  /-- Texture handle; any negative number means "no texture". -/
  textureId : Int32
  blendMode : BlendMode
  maskType : Int32
  stencilIndex : Int32
  scissor : ScissorRect
deriving DecidableEq

namespace Batch

/-- The texture id written for "no texture". -/
def noTexture : Int32 := -1

/-- A batch that draws nothing. -/
def idle : Batch where
  indexStart := 0
  triangleCount := 0
  textureId := noTexture
  blendMode := .normal
  maskType := 0
  stencilIndex := 0
  scissor := .zero

/-- Reads a descriptor. -/
def ofFields (f : Vector Int32 BatchField.count) : Batch :=
  let read (field : BatchField) : Int32 := f[field.offset]
  { indexStart := read .indexStart
    triangleCount := read .triangleCount
    textureId := read .textureId
    blendMode := .ofCode (read .blendMode)
    maskType := read .maskType
    stencilIndex := read .stencilIndex
    scissor :=
      { left := read .scissorLeft
        top := read .scissorTop
        right := read .scissorRight
        bottom := read .scissorBottom } }

/-- Writes a descriptor. -/
def toFields (b : Batch) : Vector Int32 BatchField.count :=
  #v[b.indexStart, b.triangleCount, b.textureId, b.blendMode.code, b.maskType, b.stencilIndex,
    b.scissor.left, b.scissor.top, b.scissor.right, b.scissor.bottom, 0, 0, 0, 0, 0, 0]

/-- How many indices the batch draws. -/
def indexLength (b : Batch) : Int := b.triangleCount.toInt * 3

/-- The end of its index range, exclusive. -/
def indexEnd (b : Batch) : Int := b.indexStart.toInt + b.indexLength

/-- Packing a batch only normalises its blend mode. -/
theorem ofFields_toFields (b : Batch) :
    ofFields b.toFields = { b with blendMode := .ofCode b.blendMode.code } := rfl

end Batch

end SpriteRenderer

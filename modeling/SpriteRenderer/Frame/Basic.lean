import SpriteRenderer.Batch
import SpriteRenderer.RenderError
import SpriteRenderer.Vertex

/-!
# Packed frames and their decoding

A frame arrives as three flat blocks: vertex slots, indices and batch
descriptors, each with a signed record count. `decode` checks only the
layout: counts are not negative and every block is long enough for its
records. Data behind the declared records is ignored. What the records mean
is checked by `Frame.Validation`.
-/

namespace SpriteRenderer

/-- One frame as it comes from the outside. -/
structure FrameData where
  vertices : Array Binary32
  vertexCount : Int32
  indices : Array UInt16
  indexCount : Int32
  batches : Array Int32
  batchCount : Int32

/-- The records of a frame. -/
structure DecodedFrame where
  vertices : List Vertex
  indices : List UInt16
  batches : List Batch
deriving DecidableEq

/-- Slots per record of a block. -/
def Block.stride : Block → Nat
  | .vertices => Vertex.slotCount
  | .indices => 1
  | .batches => BatchField.count

namespace FrameData

/-- A frame that declares every whole record of its blocks. -/
def ofBlocks (vertices : Array Binary32) (indices : Array UInt16) (batches : Array Int32) :
    FrameData where
  vertices := vertices
  vertexCount := .ofNat (vertices.size / Block.vertices.stride)
  indices := indices
  indexCount := .ofNat indices.size
  batches := batches
  batchCount := .ofNat (batches.size / Block.batches.stride)

/-- Whether the frame declares nothing to draw. -/
def isEmpty (f : FrameData) : Bool := f.vertexCount == 0 || f.indexCount == 0

/-! ## Decoding -/

/-- A record count, refused when negative. -/
def checkCount (block : Block) (count : Int32) : Except RenderError Nat :=
  if count < 0 then .error (.invalidBuffer (.negativeCount block count.toInt))
  else .ok count.toInt.toNat

/-- Refuses a block that holds fewer slots than its records take. The product
is one of 64 bits, and is refused where it leaves them. -/
def checkLength (block : Block) (records available : Nat) : Except RenderError Unit :=
  let required := records * block.stride
  if UInt64.size ≤ required then .error (.invalidBuffer (.recordsOverflow block records))
  else if available < required then
    .error (.invalidBuffer (.tooShort block available required records))
  else .ok ()

/-- The `k`-th vertex of a vertex block. -/
def vertexAt (slots : Array Binary32) (k : Nat) : Vertex :=
  .ofSlots (.ofFn fun j => slots.getD (k * Vertex.slotCount + j) .zero)

/-- The `k`-th batch of a batch block. -/
def batchAt (fields : Array Int32) (k : Nat) : Batch :=
  .ofFields (.ofFn fun j => fields.getD (k * BatchField.count + j) 0)

/-- Reads the declared records. All counts are checked before all lengths,
each in the order vertices, indices, batches. -/
def decode (f : FrameData) : Except RenderError DecodedFrame := do
  let vertexCount ← checkCount .vertices f.vertexCount
  let indexCount ← checkCount .indices f.indexCount
  let batchCount ← checkCount .batches f.batchCount
  checkLength .vertices vertexCount f.vertices.size
  checkLength .indices indexCount f.indices.size
  checkLength .batches batchCount f.batches.size
  return {
    vertices := .ofFn fun k : Fin vertexCount => vertexAt f.vertices k
    indices := (f.indices.take indexCount).toList
    batches := .ofFn fun k : Fin batchCount => batchAt f.batches k }

end FrameData

/-! ## Packing -/

/-- Packs records back into a frame. -/
def DecodedFrame.pack (d : DecodedFrame) : FrameData :=
  .ofBlocks (d.vertices.flatMap fun v => v.toSlots.toList).toArray d.indices.toArray
    (d.batches.flatMap fun b => b.toFields.toList).toArray

/-! ## Vertex slots from bytes -/

/-- A run of bytes and the address at which it starts. -/
structure ByteBlock where
  address : Nat
  bytes : List UInt8

namespace ByteBlock

/-- Every four bytes as one slot, lowest byte first. -/
def slots : List UInt8 → List Binary32
  | b0 :: b1 :: b2 :: b3 :: rest =>
      ⟨b0.toUInt32 ||| b1.toUInt32 <<< 8 ||| b2.toUInt32 <<< 16 ||| b3.toUInt32 <<< 24⟩
        :: slots rest
  | _ => []

/-- Reads a byte block as vertex slots. The address is looked at first. -/
def toSlots (b : ByteBlock) : Except RenderError (List Binary32) :=
  if b.address % 4 ≠ 0 then .error (.invalidBuffer .misaligned)
  else if b.bytes.length % 4 ≠ 0 then .error (.invalidBuffer .brokenSlot)
  else .ok (slots b.bytes)

end ByteBlock

end SpriteRenderer

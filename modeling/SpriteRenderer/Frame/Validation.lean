import SpriteRenderer.Frame.Basic

/-!
# Validation of decoded frames

Before anything is drawn every index and every batch range is checked, so a
frame that fails issues no draw at all. The first violation is the one
reported: indices before batches, batches in list order and, within a batch,
its start, its triangle count, its index range and its texture id.
-/

namespace SpriteRenderer

namespace DecodedFrame

/-- An unsigned 64-bit number read as a signed one. -/
def asSigned64 (n : Nat) : Int := Int.bmod n UInt64.size

/-- Checks one batch against the index count and the texture capacity. -/
def checkBatch (indexCount : Nat) (capacity : Nat) (b : Batch) : Except RenderError Unit :=
  if b.indexStart < 0 then
    .error (.outOfRange .batchIndexStart b.indexStart.toInt indexCount)
  else if b.triangleCount < 0 then
    .error (.outOfRange .batchTriangleCount b.triangleCount.toInt 0)
  else if (indexCount : Int) < b.indexEnd then
    .error (.outOfRange .batchIndexRange b.indexEnd indexCount)
  else if asSigned64 capacity ≤ b.textureId.toInt then
    .error (.outOfRange .batchTextureId b.textureId.toInt (asSigned64 capacity))
  else .ok ()

/-- Checks batches in order and stops at the first that fails. -/
def checkBatches (indexCount : Nat) (capacity : Nat) : List Batch → Except RenderError Unit
  | [] => .ok ()
  | b :: rest => do
      checkBatch indexCount capacity b
      checkBatches indexCount capacity rest

/-- Checks a frame against a texture table of `capacity` handles. -/
def validate (d : DecodedFrame) (capacity : Nat) : Except RenderError Unit :=
  let vertexCount := d.vertices.length
  match d.indices.find? fun i => decide (vertexCount ≤ i.toNat) with
  | some i => .error (.outOfRange .vertexIndex i.toNat vertexCount)
  | none => checkBatches d.indices.length capacity d.batches

end DecodedFrame

end SpriteRenderer

import SpriteRenderer.Frame.Basic

/-!
# Building frames from quads

A quad is an axis-aligned rectangle of pixels. Quads are packed one after the
other, four vertices and two triangles each; a quad joins the batch before it
when both texture and blend mode agree, and opens a new batch otherwise.
Indices have 16 bits, so a frame holds at most `maxQuads`.
-/

namespace SpriteRenderer

/-- An axis-aligned sprite in target pixels. -/
structure Quad where
  x : Binary32
  y : Binary32
  width : Binary32
  height : Binary32
  color : PackedColor
  offset : PackedColor := .noOffset

/-- Why a quad was not taken. -/
inductive QuadError where
  | frameFull
deriving DecidableEq

/-- A frame under construction. -/
structure QuadFrame where
  vertices : Array Binary32
  indices : Array UInt16
  /-- Batches, the newest first. -/
  batches : List Batch

namespace Quad

/-- The corners in drawing order, clockwise from the top left. -/
def corners (q : Quad) : List Vertex :=
  let right := q.x + q.width
  let bottom := q.y + q.height
  let at_ (x y u v : Binary32) : Vertex := ⟨x, y, u, v, q.color, q.offset⟩
  [at_ q.x q.y .zero .zero, at_ right q.y .one .zero, at_ right bottom .one .one,
    at_ q.x bottom .zero .one]

/-- The two triangles over four vertices that start at `base`. -/
def triangles (base : UInt16) : List UInt16 :=
  [base, base + 1, base + 2, base, base + 2, base + 3]

end Quad

namespace QuadFrame

/-- Quads that 16-bit indices can address. -/
def maxQuads : Nat := UInt16.size / 4

def empty : QuadFrame := ⟨#[], #[], []⟩

/-- How many quads the frame holds. -/
def quadCount (f : QuadFrame) : Nat := f.vertices.size / Vertex.slotCount / 4

/-- The batch list with two more triangles: in the newest batch if that one
draws alike, else in a batch that starts at `start`. -/
def extend (batches : List Batch) (start : Nat) (textureId : Int32) (blend : BlendMode) :
    List Batch :=
  let opened : Batch :=
    { Batch.idle with
      indexStart := .ofNat start, triangleCount := 2, textureId := textureId, blendMode := blend }
  match batches with
  | [] => [opened]
  | last :: rest =>
      if last.textureId = textureId ∧ last.blendMode = blend then
        { last with triangleCount := last.triangleCount + 2 } :: rest
      else opened :: last :: rest

/-- The frame with one more quad, which 16-bit indices have to reach. -/
def append (f : QuadFrame) (q : Quad) (textureId : Int32) (blend : BlendMode) : QuadFrame :=
  let base : UInt16 := .ofNat (f.quadCount * 4)
  let start := f.indices.size
  { vertices := q.corners.foldl (fun slots v => slots ++ v.toSlots.toArray) f.vertices
    indices := f.indices ++ Quad.triangles base
    batches := extend f.batches start textureId blend }

/-- Adds a quad. -/
def push (f : QuadFrame) (q : Quad) (textureId : Int32) (blend : BlendMode) :
    Except QuadError QuadFrame :=
  if f.quadCount < maxQuads then .ok (f.append q textureId blend) else .error .frameFull

/-- Adds a quad without a texture. -/
def pushUntextured (f : QuadFrame) (q : Quad) (blend : BlendMode) : Except QuadError QuadFrame :=
  f.push q Batch.noTexture blend

/-- Adds a quad several times, stopping when the frame is full. The result
tells how often it went in, and whether the last attempt failed. -/
def pushRepeated (f : QuadFrame) (q : Quad) (textureId : Int32) (blend : BlendMode) :
    (times : Nat) → (pushed : Nat) → QuadFrame × Nat × Option QuadError
  | 0, pushed => (f, pushed, none)
  | times + 1, pushed =>
      if f.quadCount < maxQuads then
        (f.append q textureId blend).pushRepeated q textureId blend times (pushed + 1)
      else (f, pushed, some .frameFull)

/-- One of several pushes is a push. -/
theorem pushRepeated_succ (f : QuadFrame) (q : Quad) (textureId : Int32) (blend : BlendMode)
    (times pushed : Nat) :
    f.pushRepeated q textureId blend (times + 1) pushed =
      match f.push q textureId blend with
      | .ok f' => f'.pushRepeated q textureId blend times (pushed + 1)
      | .error e => (f, pushed, some e) := by
  unfold push
  rw [pushRepeated]
  split <;> rfl

/-- The frame as packed blocks. -/
def data (f : QuadFrame) : FrameData :=
  .ofBlocks f.vertices f.indices (f.batches.reverse.flatMap fun b => b.toFields.toList).toArray

end QuadFrame

def QuadError.message : QuadError → String
  | .frameFull => s!"frame full: {QuadFrame.maxQuads} quads"

end SpriteRenderer

import SpriteRenderer.Quads

/-!
# Frame builders

A builder is kept from frame to frame. It holds the frame under construction
and, beside it, the block that batch descriptors are packed into each time a
frame is finished. It answers three calls: a push, which a full frame refuses,
`clear`, which starts the next frame, and `finish`, which packs the frame and
leaves it as it is.
-/

namespace SpriteRenderer

/-! ## Pushes -/

/-- One call on a frame under construction. -/
inductive QuadPush where
  | textured (quad : Quad) (textureId : Int32) (blend : BlendMode)
  | untextured (quad : Quad) (blend : BlendMode)

namespace QuadPush

def quad : QuadPush → Quad
  | .textured q _ _ => q
  | .untextured q _ => q

def textureId : QuadPush → Int32
  | .textured _ id _ => id
  | .untextured _ _ => Batch.noTexture

def blend : QuadPush → BlendMode
  | .textured _ _ blend => blend
  | .untextured _ blend => blend

def onto (f : QuadFrame) : QuadPush → Except QuadError QuadFrame
  | .textured q id blend => f.push q id blend
  | .untextured q blend => f.pushUntextured q blend

end QuadPush

/-! ## Builders -/

/-- A frame under construction, with room for its packed batches. -/
structure FrameBuilder where
  frame : QuadFrame
  /-- The batch block of the frame that was finished last. -/
  packed : Array Int32

/-- One call of a builder. -/
inductive BuilderCall where
  | push (p : QuadPush)
  | clear
  | finish

inductive BuilderAnswer where
  | pushed
  | refused (e : QuadError)
  | cleared
  | finished (frame : FrameData)

namespace FrameBuilder

def empty : FrameBuilder := ⟨.empty, #[]⟩

/-- Writes the batches into the emptied block, the oldest first. -/
def finish (b : FrameBuilder) : FrameData × FrameBuilder :=
  let packed := b.frame.batches.reverse.foldl (fun block b => block ++ b.toFields.toArray) #[]
  (.ofBlocks b.frame.vertices b.frame.indices packed, { b with packed := packed })

def serve (b : FrameBuilder) : BuilderCall → BuilderAnswer × FrameBuilder
  | .push p =>
      match p.onto b.frame with
      | .ok frame => (.pushed, { b with frame := frame })
      | .error e => (.refused e, b)
  | .clear => (.cleared, empty)
  | .finish => (.finished b.finish.1, b.finish.2)

/-- Serves calls in order, with all answers. -/
def run : List BuilderCall → FrameBuilder → List BuilderAnswer × FrameBuilder
  | [], b => ([], b)
  | call :: rest, b =>
      let (answer, next) := b.serve call
      let (answers, last) := run rest next
      (answer :: answers, last)

/-- Pushes in order, up to the first that is refused. -/
def pushAll (b : FrameBuilder) : List QuadPush → Option QuadError × FrameBuilder
  | [] => (none, b)
  | p :: rest =>
      match b.serve (.push p) with
      | (.refused e, b) => (some e, b)
      | (_, b) => b.pushAll rest

end FrameBuilder

end SpriteRenderer

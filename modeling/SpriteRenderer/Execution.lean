import SpriteRenderer.Fault
import SpriteRenderer.Log
import SpriteRenderer.Batch
import SpriteRenderer.Projection
import SpriteRenderer.Texture.Pool

/-!
# Executing a list of batches

Batches are drawn in list order, each as one draw under a texture, a blend
function and, if scissoring is on, a clip. A state command is issued only
when it differs from what the previous draw left in force: the `Cursor`
remembers that, and starts out knowing nothing, so that the first draw sets
everything it needs.

Batches that draw nothing (no triangles, or a clip without area) are counted
and leave no other trace. A batch whose texture id has no texture behind it
is drawn untextured; the first time this happens is worth a warning.
-/

namespace SpriteRenderer

/-- Commands that may stand between the upload of a frame and its release. -/
inductive DrawCommand (T : Type) where
  | scissorRect (clip : Clip)
  /-- `none` stands for the device's default texture. -/
  | bindTexture (texture : Option T)
  | blend (func : BlendFunc)
  /-- Draws `count` indices as triangles, from the `first` on. -/
  | draw (first count : UInt32)
deriving DecidableEq

/-- Counters of one frame. -/
structure FrameStats where
  batches : Nat
  drawCalls : Nat
  skipped : Nat
  triangles : Nat
  textureBinds : Nat
  blendChanges : Nat
deriving DecidableEq

def FrameStats.zero : FrameStats := ⟨0, 0, 0, 0, 0, 0⟩

/-- What batches are drawn with. -/
structure DrawContext (T : Type) where
  textures : TexturePool T
  viewport : Viewport
  /-- Whether batch scissor rectangles count. -/
  applyScissor : Bool

/-- Where a batch shows. -/
inductive Visibility where
  | hidden
  | unclipped
  | clipped (clip : Clip)
deriving DecidableEq

/-- What a texture id refers to. -/
inductive TextureRef where
  | absent
  | bound (handle : TextureHandle)
  /-- A handle with no texture behind it. -/
  | unbound (handle : TextureHandle)
deriving DecidableEq

/-- The handle to draw with. -/
def TextureRef.handle? : TextureRef → Option TextureHandle
  | .bound h => some h
  | .absent | .unbound _ => none

namespace DrawContext

variable {T : Type}

def visibility (c : DrawContext T) (b : Batch) : Visibility :=
  if b.triangleCount = 0 then .hidden
  else if c.applyScissor then
    match b.scissor.clampTo c.viewport.extent.1 c.viewport.extent.2 with
    | none => .hidden
    | some clip => .clipped clip
  else .unclipped

def resolve (c : DrawContext T) (textureId : Int32) : TextureRef :=
  if textureId < 0 then .absent
  else
    let handle : TextureHandle := ⟨textureId.toInt.toNat⟩
    if c.textures.isBound handle then .bound handle else .unbound handle

end DrawContext

/-- The device state that the draws so far left in force, and the counters.
`none` means that this frame has not set it yet. -/
structure Cursor where
  clip : Option Clip
  texture : Option (Option TextureHandle)
  blend : Option BlendFunc
  /-- Whether a missing texture was reported before. -/
  warned : Bool
  stats : FrameStats

/-- The effect of one or more batches. -/
structure Progress (T : Type) where
  cursor : Cursor
  commands : List (DrawCommand T)
  /-- Handles found without a texture and worth a warning. -/
  unbound : List TextureHandle

namespace DrawContext

variable {T : Type}

/-- The clip to set before a draw, if it is not in force already. -/
def clipChange (cursor : Cursor) : Visibility → List (DrawCommand T)
  | .clipped clip => if cursor.clip = some clip then [] else [.scissorRect clip]
  | .hidden | .unclipped => []

/-- The clip in force at a draw. -/
def clipAfter (cursor : Cursor) : Visibility → Option Clip
  | .clipped clip => some clip
  | .hidden | .unclipped => cursor.clip

/-- The handle to warn about, if this is the first one. -/
def warning (cursor : Cursor) : TextureRef → List TextureHandle
  | .unbound handle => if cursor.warned then [] else [handle]
  | .absent | .bound _ => []

/-- The counter's view of a triangle count: 64 bits, unsigned. -/
def triangleTally (b : Batch) : Nat := b.triangleCount.toInt64.toUInt64.toNat

/-- Draws one batch that shows somewhere. -/
def drawBatch (c : DrawContext T) (cursor : Cursor) (shown : Visibility) (b : Batch) :
    Progress T :=
  let ref := c.resolve b.textureId
  let handle := ref.handle?
  let func := b.blendMode.func
  let rebind := cursor.texture ≠ some handle
  let reblend := cursor.blend ≠ some func
  { cursor :=
      { clip := clipAfter cursor shown
        texture := some handle
        blend := some func
        warned := cursor.warned || !(warning cursor ref).isEmpty
        stats :=
          { cursor.stats with
            drawCalls := cursor.stats.drawCalls + 1
            triangles := cursor.stats.triangles + triangleTally b
            textureBinds := cursor.stats.textureBinds + if rebind then 1 else 0
            blendChanges := cursor.stats.blendChanges + if reblend then 1 else 0 } }
    commands :=
      clipChange cursor shown
        ++ (if rebind then [.bindTexture (handle.bind c.textures.get?)] else [])
        ++ (if reblend then [.blend func] else [])
        ++ [.draw b.indexStart.toUInt32 (.ofInt b.indexLength)]
    unbound := warning cursor ref }

/-- Draws or skips one batch. -/
def step (c : DrawContext T) (cursor : Cursor) (b : Batch) : Progress T :=
  match c.visibility b with
  | .hidden =>
      ⟨{ cursor with stats := { cursor.stats with skipped := cursor.stats.skipped + 1 } }, [], []⟩
  | shown => c.drawBatch cursor shown b

/-- Draws batches in order. -/
def steps (c : DrawContext T) : Cursor → List Batch → Progress T
  | cursor, [] => ⟨cursor, [], []⟩
  | cursor, b :: rest =>
      let here := c.step cursor b
      let after := c.steps here.cursor rest
      ⟨after.cursor, here.commands ++ after.commands, here.unbound ++ after.unbound⟩

end DrawContext

/-- A cursor at the start of a frame of `batches` batches. -/
def Cursor.start (warned : Bool) (batches : Nat) : Cursor where
  clip := none
  texture := none
  blend := none
  warned := warned
  stats := { FrameStats.zero with batches := batches }

/-- An executed batch list. -/
structure Execution (T : Type) where
  commands : List (DrawCommand T)
  stats : FrameStats
  unbound : List TextureHandle
  /-- Whether a missing texture has been reported by now. -/
  warned : Bool

/-- Executes a batch list. The triangle counter has 64 bits; since it only
grows, looking at its last value tells whether it ever left them. -/
def DrawContext.execute {T : Type} (c : DrawContext T) (warned : Bool) (batches : List Batch) :
    Except Fault (Execution T) := do
  let done := c.steps (.start warned batches.length) batches
  let stats := done.cursor.stats
  let _ ← fitUnsigned 64 stats.triangles
  return ⟨done.commands, stats, done.unbound, done.cursor.warned⟩

end SpriteRenderer

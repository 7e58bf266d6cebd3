import SpriteRenderer.Effect
import SpriteRenderer.Graphics.Call

/-!
# The device

The device's state is what later calls depend on: how many objects of each
kind there are, and which textures already have a bind group. Creating an
object gives it the next number of its kind.
-/

namespace SpriteRenderer

/-- What is known about a device. -/
structure Device where
  /-- Objects of each kind created so far. -/
  created : ObjectKind → Nat
  /-- Bind groups built for sprite textures, by texture. -/
  textureGroups : List (ObjectId .texture × ObjectId .group)

/-- An effect on a device. -/
abbrev Graphics (α : Type) := Effect (Event GraphicsCall) Device α

namespace Device

def fresh : Device := ⟨fun _ => 0, []⟩

/-- The device after one more object of a kind. -/
def grow (d : Device) (kind : ObjectKind) : Device :=
  { d with created := fun k => if k = kind then d.created k + 1 else d.created k }

/-- The bind group of a texture, if it has been built. -/
def groupOf? (d : Device) (texture : ObjectId .texture) : Option (ObjectId .group) :=
  d.textureGroups.lookup texture

end Device

namespace Graphics

/-- Makes a call. -/
def tell {σ : Type} (call : GraphicsCall) : Effect (Event GraphicsCall) σ Unit :=
  Effect.emit (.call call)

/-- Writes a line to the log. -/
def log {C σ : Type} (record : LogRecord) : Effect (Event C) σ Unit := Effect.emit (.log record)

/-- Writes several lines to the log. -/
def logAll {C σ : Type} (records : List LogRecord) : Effect (Event C) σ Unit :=
  Effect.emitAll (records.map .log)

/-- The next object of a kind, with the call that creates it. -/
def create (kind : ObjectKind) (call : ObjectId kind → GraphicsCall) : Graphics (ObjectId kind) := do
  let object : ObjectId kind := ⟨(← Effect.get).created kind⟩
  Effect.modify (·.grow kind)
  tell (call object)
  return object

/-- Bytes filled up with zeros to a multiple of four. -/
def padded (data : List UInt8) : List UInt8 :=
  data ++ List.replicate ((4 - data.length % 4) % 4) 0

/-- A buffer and its size. -/
structure FilledBuffer where
  buffer : ObjectId .buffer
  size : Nat
deriving DecidableEq

/-- The size of a buffer that is about to be read as a whole. A device has
no ranges without a byte. -/
def FilledBuffer.wholeRange (b : FilledBuffer) : Except Fault Nat :=
  if b.size = 0 then .error .emptyBuffer else .ok b.size

/-- A buffer with contents, if there are any. Sizes of buffers are multiples
of four. -/
def createFilledBuffer (label : String) (usage : Nat) (contents : List UInt8) :
    Graphics FilledBuffer := do
  let data := padded contents
  let buffer ← create .buffer (.createBuffer · ⟨label, data.length, usage⟩)
  if data ≠ [] then
    tell (.bufferData buffer data)
  return ⟨buffer, data.length⟩

end Graphics

end SpriteRenderer

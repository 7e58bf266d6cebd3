import SpriteRenderer.Host.App

/-!
# An app that plays a script

The scripted app answers its callbacks from prepared lists, one entry for
each call, and agrees to everything once a list is used up. It is for
rehearsing a host without an app.
-/

namespace SpriteRenderer

/-- What to do when a window is ready. -/
inductive InitPlan where
  | agree
  /-- Makes a grey texture from so many bytes, and keeps it. -/
  | texture (width height : UInt32) (bytes : Nat)
  | fail (failure : Failure)

/-- What to do when asked to render. -/
inductive RenderPlan where
  /-- Renders a packed frame. -/
  | frame (data : FrameData)
  /-- Paints nothing on a frame, with this outcome. -/
  | paint (outcome : Outcome)
  /-- Does not draw at all. -/
  | answer (outcome : Outcome)

structure Script where
  renderer : DeviceRenderer
  init : InitPlan
  events : List Control
  updates : List Control
  renders : List RenderPlan

namespace Script

/-- Makes a texture and hands it to the renderer. -/
def keepTexture (s : Script) (width height : UInt32) (bytes : Nat) :
    Graphics (Script × Except Failure Unit) := do
  match ← SpriteTexture.create width height (.replicate bytes 0x80) with
  | .error e => return (s, .error (.ofCause (.render e)))
  | .ok texture =>
      match s.renderer.allocateTexture texture with
      | .error e => return (s, .error (.ofCause (.render e)))
      | .ok (_, renderer, notice) =>
          Graphics.log notice.record
          return ({ s with renderer }, .ok ())

def prepare (s : Script) : Graphics (Script × Except Failure Unit) :=
  match s.init with
  | .agree => return (s, .ok ())
  | .texture width height bytes => s.keepTexture width height bytes
  | .fail failure => return (s, .error failure)

/-- Says that painting began and answers. -/
def paint (outcome : Outcome) (target : RenderTarget) (s : Script) :
    OnScreen (Script × Outcome) := do
  Effect.emit (.call (.painting target.viewport target.stencilView.isSome))
  return (s, outcome)

def render (c : FrameContext) (s : Script) : OnScreen (AppFrame Script) := do
  let s' := { s with renders := s.renders.tail }
  match s.renders.headD (.answer (.ok .proceed)) with
  | .answer outcome => return ⟨s', c.gpu, outcome⟩
  | .paint outcome =>
      let (s', outcome) ← c.draw s' (paint outcome)
      return ⟨s', c.gpu, outcome⟩
  | .frame data =>
      let (renderer, outcome) ← c.render s.renderer data
      return ⟨{ s' with renderer }, c.gpu, outcome⟩

/-- The app that plays all of a script. -/
def app : App Script where
  init _ s := s.prepare
  onEvent _ s := (s.events.headD .proceed, { s with events := s.events.tail })
  update _ s := (s.updates.headD .proceed, { s with updates := s.updates.tail })
  render := render

/-- The app that plays only what it renders. -/
def renderOnly : App Script := .ofRender render

end Script

end SpriteRenderer

import SpriteRenderer.Host.Call
import SpriteRenderer.Host.Control
import SpriteRenderer.Surface.Context

/-!
# Apps

An app is what a host runs: four callbacks over a state of its own. Drawing
happens inside `render`, through a `FrameContext`: it acquires a frame of
the surface, lets the app paint, and presents the frame whatever came of the
painting. A surface without area, or one that gives no frame, is skipped. The
surface is in the app's hands while it renders, and its window goes on with
what the app leaves of it (`AppFrame`).
-/

namespace SpriteRenderer

/-- What drawing depends on: the device, and what the surface will report
for the frames to come. -/
structure Screen where
  device : Device
  /-- Statuses of the next acquisitions; all is well after the last. -/
  statuses : List AcquireStatus

/-- An effect of drawing. -/
abbrev OnScreen (α : Type) := Effect (Event CanvasCall) Screen α

namespace Screen

/-- Runs an effect of the device. -/
def onDevice {α : Type} (x : Graphics α) : OnScreen α :=
  (x.mapEvents (Event.map .graphics)).zoom Screen.device fun device s => { s with device }

/-- What the surface reports for the next frame. -/
def nextStatus : OnScreen AcquireStatus := do
  let s ← Effect.get
  Effect.set { s with statuses := s.statuses.tail }
  return s.statuses.headD .good

end Screen

/-- What an app draws one frame with. -/
structure FrameContext where
  gpu : GpuContext
  time : FrameTime

namespace FrameContext

variable {β : Type}

/-- The outcome of a frame that could not be drawn. -/
def skipped : SurfaceAction → Outcome
  | .fatal => .error (.ofCause .surfaceOutOfMemory)
  | .reconfigured | .skipFrame => .ok .proceed

/-- Paints a frame and presents it. The state passes through `paint` if there
is a frame to paint. -/
def draw (c : FrameContext) (state : β) (paint : RenderTarget → β → OnScreen (β × Outcome)) :
    OnScreen (β × Outcome) :=
  if c.gpu.size.hasArea then do
    match ← Screen.onDevice (GpuContext.beginFrame (← Screen.nextStatus)) with
    | .error e => return (state, skipped (← Screen.onDevice (c.gpu.handleError e)))
    | .ok frame =>
        let (state, outcome) ← paint (c.gpu.target frame) state
        Effect.emit (.call .prePresentNotify)
        Screen.onDevice frame.submit
        return (state, outcome.mapError (·.during (.drawingFrame c.time.frameIndex)))
  else return (state, .ok .proceed)

/-- Paints a packed frame. An error that is not fatal drops the frame and
keeps the host running. -/
def paintFrame (frame : FrameData) (target : RenderTarget) (renderer : DeviceRenderer) :
    OnScreen (DeviceRenderer × Outcome) := do
  let (renderer, result) ← Screen.onDevice (renderer.render target frame)
  let (outcome, records) := frameOutcome result
  Graphics.logAll records
  return (renderer, outcome)

/-- Renders a packed frame. -/
def render (c : FrameContext) (renderer : DeviceRenderer) (frame : FrameData) :
    OnScreen (DeviceRenderer × Outcome) :=
  c.draw renderer (paintFrame frame)

end FrameContext

/-- What an app leaves when it has drawn a frame; it may have fitted the surface
to another size. -/
structure AppFrame (α : Type) where
  app : α
  gpu : GpuContext
  outcome : Outcome

/-- An app with states `α`. -/
structure App (α : Type) where
  /-- Called once for each window, before its first frame. -/
  init : GpuContext → α → Graphics (α × Except Failure Unit)
  onEvent : WindowEvent → α → Control × α
  /-- Advances the app by one frame. -/
  update : FrameTime → α → Control × α
  /-- Draws one frame. -/
  render : FrameContext → α → OnScreen (AppFrame α)

/-- An app that only draws. -/
def App.ofRender {α : Type} (render : FrameContext → α → OnScreen (AppFrame α)) : App α where
  init _ a := return (a, .ok ())
  onEvent _ a := (.proceed, a)
  update _ a := (.proceed, a)
  render := render

end SpriteRenderer

import SpriteRenderer.Quads
import SpriteRenderer.RenderError

/-!
# Failures of a host

A failure that stops a host has a cause and a trail of contexts, each saying
what was being done when it struck. The text of a failure names the contexts
from the outside in and then the cause.
-/

namespace SpriteRenderer

/-- What was being done when something failed. -/
inductive Activity where
  | creatingEventLoop
  | runningEventLoop
  | creatingWindow
  | initializingGpu
  | initializingApp
  | creatingSurface
  | findingAdapter
  | creatingDevice
  | creatingCheckerTexture
  | drawingFrame (index : UInt64)
  | reported (text : String)
deriving DecidableEq

def Activity.message : Activity → String
  | .creatingEventLoop => "failed to create winit EventLoop"
  | .runningEventLoop => "winit event loop terminated with error"
  | .creatingWindow => "failed to create window"
  | .initializingGpu => "GPU initialization failed"
  | .initializingApp => "app initialization failed"
  | .creatingSurface => "failed to create wgpu surface"
  | .findingAdapter => "failed to find a suitable GPU adapter"
  | .creatingDevice => "failed to create wgpu device/queue"
  | .creatingCheckerTexture => "failed to create checker texture"
  | .drawingFrame index => s!"frame {index} failed"
  | .reported text => text

/-- What failed at the root. -/
inductive Cause where
  | render (error : RenderError)
  | quads (error : QuadError)
  | zeroSizeWindow
  | noSurfaceFormat
  | surfaceOutOfMemory
  | reported (text : String)
deriving DecidableEq

def Cause.message : Cause → String
  | .render error => error.message
  | .quads error => error.message
  | .zeroSizeWindow => "window has zero size"
  | .noSurfaceFormat => "no supported surface formats"
  | .surfaceOutOfMemory => "surface out of memory"
  | .reported text => text

/-- A cause and the contexts around it, outermost first. -/
structure Failure where
  context : List Activity
  cause : Cause
deriving DecidableEq

namespace Failure

def ofCause (cause : Cause) : Failure := ⟨[], cause⟩

/-- The failure, seen from one activity further out. -/
def during (f : Failure) (activity : Activity) : Failure := { f with context := activity :: f.context }

/-- The texts of contexts and cause, outermost first. -/
def chain (f : Failure) : List String := f.context.map Activity.message ++ [f.cause.message]

/-- The whole failure in one line. -/
def text (f : Failure) : String := ": ".intercalate f.chain

/-- The outermost text alone. -/
def headline (f : Failure) : String := f.chain.headD ""

def renderError? (f : Failure) : Option RenderError :=
  match f.cause with
  | .render error => some error
  | _ => none

end Failure

end SpriteRenderer

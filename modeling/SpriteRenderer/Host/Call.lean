import SpriteRenderer.Binary64
import SpriteRenderer.Clock
import SpriteRenderer.Projection
import SpriteRenderer.Graphics.Call
import SpriteRenderer.Surface.Choice

/-!
# What a host says

The calls of a running host in one order: to the window system, to the
graphics stack, and into the app. Calls into the app are part of the list,
so that the order of callbacks can be read off it.
-/

namespace SpriteRenderer

/-- What can happen to a window. -/
inductive WindowEvent where
  | closeRequested
  | resized (size : PixelSize)
  | scaleFactorChanged
  | redrawRequested
  /-- Any event that a host leaves to its app. -/
  | focused
deriving DecidableEq

/-- A call into the app. -/
inductive Callback where
  | init (size : PixelSize) (format : TextureFormat)
  | event (event : WindowEvent)
  | update (time : FrameTime)
  | render (time : FrameTime)
deriving DecidableEq

/-- What is said while an app draws a frame. -/
inductive CanvasCall where
  | graphics (call : GraphicsCall)
  /-- Tells the window that a frame is about to be presented. -/
  | prePresentNotify
  /-- The app's own drawing begins. -/
  | painting (viewport : Viewport) (hasStencil : Bool)
deriving DecidableEq

/-- A window size in logical units. -/
structure LogicalSize where
  width : Binary64
  height : Binary64
deriving DecidableEq

inductive PowerPreference where
  | lowPower
  | highPerformance
deriving DecidableEq

structure AdapterRequest where
  power : PowerPreference
  /-- Whether the adapter has to suit a given surface. -/
  forSurface : Bool
  forceFallback : Bool
deriving DecidableEq

inductive MemoryHint where
  | performance
  | memoryUsage
deriving DecidableEq

structure DeviceRequest where
  label : String
  needs : DeviceNeeds
  memory : MemoryHint
deriving DecidableEq

/-- What the event loop does between events. -/
inductive ControlFlow where
  | poll
  | wait
deriving DecidableEq

/-- Everything a host says. -/
inductive HostCall where
  | createWindow (title : String) (size : LogicalSize)
  | dropWindow
  | requestRedraw
  | setControlFlow (flow : ControlFlow)
  | exit
  | createInstance (allBackends : Bool)
  | requestAdapter (request : AdapterRequest)
  | requestDevice (request : DeviceRequest)
  | dropSurface
  | callback (callback : Callback)
  | canvas (call : CanvasCall)
deriving DecidableEq

end SpriteRenderer

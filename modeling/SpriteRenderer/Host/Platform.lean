import SpriteRenderer.Host.App

/-!
# The platform under a host

What the window system and the graphics stack will answer: what the clock
will show each time it is read, the inner size of windows, what surfaces
support, and which requests are refused. Why a request is refused is the
platform's own affair; a host passes it on with what it was doing.
-/

namespace SpriteRenderer

/-- Requests that a platform can refuse. -/
inductive PlatformRequest where
  | eventLoop
  | runLoop
  | createWindow
  | createSurface
  | requestAdapter
  | requestDevice
deriving DecidableEq

/-- What a platform says when it refuses: a text, and what led up to it,
outermost first. -/
structure Refusal where
  trail : List String
  text : String
deriving DecidableEq

/-- The answers of a platform that refuses one request only. -/
def Refusal.only (refusal : Refusal) (r : PlatformRequest) : PlatformRequest → Option Refusal :=
  fun q => if q = r then some refusal else none

namespace PlatformRequest

/-- What a host was doing when it made the request. -/
def activity : PlatformRequest → Activity
  | .eventLoop => .creatingEventLoop
  | .runLoop => .runningEventLoop
  | .createWindow => .creatingWindow
  | .createSurface => .creatingSurface
  | .requestAdapter => .findingAdapter
  | .requestDevice => .creatingDevice

/-- The failure of a host whose request was refused. -/
def failure (r : PlatformRequest) (refusal : Refusal) : Failure :=
  ⟨r.activity :: refusal.trail.map .reported, .reported refusal.text⟩

end PlatformRequest

structure Platform where
  /-- What the clock showed last, in nanoseconds. -/
  now : Int
  /-- Nanoseconds that go by before each of the next readings; none after the last. -/
  delays : List Nat := []
  /-- Nanoseconds that an app takes to prepare for a window. -/
  preparation : Nat := 0
  innerSize : PixelSize
  caps : SurfaceCaps
  adapterName : String
  /-- The answer to a request, if it is refused. -/
  refusal? : PlatformRequest → Option Refusal
  /-- Windows created so far; the next one gets this number. -/
  windows : Nat
  screen : Screen

namespace Platform

/-- How a request fails, if it is refused. -/
def failure? (p : Platform) (r : PlatformRequest) : Option Failure :=
  (p.refusal? r).map r.failure

/-- The platform with one more window. -/
def withWindow (p : Platform) : Platform := { p with windows := p.windows + 1 }

/-- The platform when its clock is read once more. -/
def afterReading (p : Platform) : Platform :=
  { p with now := p.now + p.delays.headD 0, delays := p.delays.tail }

/-- The platform when an app has prepared for a window. -/
def afterPreparation (p : Platform) : Platform := { p with now := p.now + p.preparation }

end Platform

end SpriteRenderer

import SpriteRenderer.Host.Platform

/-!
# Names of host events and choices

How the values that a host exchanges with its platform are written.
-/

namespace SpriteRenderer

def WindowEvent.label : WindowEvent → String
  | .closeRequested => "CloseRequested"
  | .resized _ => "Resized"
  | .scaleFactorChanged => "ScaleFactorChanged"
  | .redrawRequested => "RedrawRequested"
  | .focused => "Focused"

def Control.label : Control → String
  | .proceed => "Continue"
  | .exit => "Exit"

def ControlFlow.label : ControlFlow → String
  | .poll => "Poll"
  | .wait => "Wait"

def PowerPreference.label : PowerPreference → String
  | .lowPower => "LowPower"
  | .highPerformance => "HighPerformance"

def MemoryHint.label : MemoryHint → String
  | .performance => "Performance"
  | .memoryUsage => "MemoryUsage"

namespace PlatformRequest

def label : PlatformRequest → String
  | .eventLoop => "event_loop"
  | .runLoop => "run_app"
  | .createWindow => "create_window"
  | .createSurface => "create_surface"
  | .requestAdapter => "request_adapter"
  | .requestDevice => "request_device"

def all : List PlatformRequest :=
  [.eventLoop, .runLoop, .createWindow, .createSurface, .requestAdapter, .requestDevice]

end PlatformRequest

end SpriteRenderer

import SpriteRenderer.Log

/-!
# Frames that a surface does not give

A surface may refuse the next frame. A lost or outdated surface is
configured again, running out of memory is the end, and anything else costs
one frame.
-/

namespace SpriteRenderer

/-- Why a surface gave no frame. -/
inductive SurfaceError where
  | timeout
  | outdated
  | lost
  | outOfMemory
  | other
deriving DecidableEq

/-- What to do about it. -/
inductive SurfaceAction where
  | reconfigured
  | skipFrame
  | fatal
deriving DecidableEq

namespace SurfaceError

def action : SurfaceError → SurfaceAction
  | .lost | .outdated => .reconfigured
  | .outOfMemory => .fatal
  | .timeout | .other => .skipFrame

def label : SurfaceError → String
  | .timeout => "Timeout"
  | .outdated => "Outdated"
  | .lost => "Lost"
  | .outOfMemory => "OutOfMemory"
  | .other => "Other"

def all : List SurfaceError := [.timeout, .outdated, .lost, .outOfMemory, .other]

end SurfaceError

def SurfaceAction.label : SurfaceAction → String
  | .reconfigured => "Reconfigured"
  | .skipFrame => "SkipFrame"
  | .fatal => "Fatal"

/-- The line logged for a refused frame. -/
def SurfaceError.record (e : SurfaceError) : LogRecord :=
  ⟨.debug, s!"surface error {e.label} -> {e.action.label}"⟩

/-- What a surface reports when it is asked for a frame. -/
inductive AcquireStatus where
  | good
  /-- Usable, though a new configuration would fit better. -/
  | suboptimal
  | timeout
  | outdated
  | lost
  | outOfMemory
  | unknown
deriving DecidableEq

namespace AcquireStatus

def label : AcquireStatus → String
  | .good => "Good"
  | .suboptimal => "Suboptimal"
  | .timeout => "Timeout"
  | .outdated => "Outdated"
  | .lost => "Lost"
  | .outOfMemory => "OutOfMemory"
  | .unknown => "Unknown"

def all : List AcquireStatus :=
  [.good, .suboptimal, .timeout, .outdated, .lost, .outOfMemory, .unknown]

/-- The error of a status that brings no frame. -/
def error? : AcquireStatus → Option SurfaceError
  | .good | .suboptimal => none
  | .timeout => some .timeout
  | .outdated => some .outdated
  | .lost => some .lost
  | .outOfMemory => some .outOfMemory
  | .unknown => some .other

end AcquireStatus

end SpriteRenderer

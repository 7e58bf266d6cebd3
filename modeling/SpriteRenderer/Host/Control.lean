import SpriteRenderer.Execution
import SpriteRenderer.Host.Failure
import SpriteRenderer.Log

/-!
# Going on or stopping

What callbacks answer, and how a host keeps count of it: once an exit has
been asked for it stays asked for, and of several failures the first is the
one that is kept.
-/

namespace SpriteRenderer

/-- What an app callback wants. -/
inductive Control where
  | proceed
  | exit
deriving DecidableEq

/-- A callback's answer. -/
abbrev Outcome := Except Failure Control

/-- What a host makes of a rendered frame. A fatal error stops it; any other
error costs the frame and a warning. -/
def frameOutcome : Except RenderError FrameStats → Outcome × List LogRecord
  | .ok _ => (.ok .proceed, [])
  | .error e =>
      if e.isFatal then (.error (.ofCause (.render e)), [])
      else (.ok .proceed, [⟨.warn, s!"frame dropped: {e.message}"⟩])

/-- Whether a host is to stop, and with what failure. -/
structure Verdict where
  exitRequested : Bool
  failure : Option Failure

namespace Verdict

def open_ : Verdict := ⟨false, none⟩

/-- Takes an outcome into account: whether the loop must exit now, the
verdict after it, and what to log. -/
def settle (v : Verdict) : Outcome → Bool × Verdict × List LogRecord
  | .ok .proceed => (false, v, [])
  | .ok .exit => (true, { v with exitRequested := true }, [])
  | .error f =>
      (true, { exitRequested := true, failure := some (v.failure.getD f) }, [⟨.error, f.text⟩])

/-- How the run ends. -/
def result (v : Verdict) : Except Failure Unit :=
  match v.failure with
  | some f => .error f
  | none => .ok ()

end Verdict

end SpriteRenderer

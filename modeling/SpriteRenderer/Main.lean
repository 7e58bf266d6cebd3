import SpriteRenderer.Host.Listing
import SpriteRenderer.LogFilter
import SpriteRenderer.Viewer.App

/-!
# The viewer from the command line

Runs the demo viewer on a platform without a screen: the window opens, one
frame is drawn, and the window closes. What passes the log filter goes to
standard error, and a failure ends the program with its trail of contexts.
-/

namespace SpriteRenderer

/-- A platform with a window of the usual size and one surface format. -/
def screenless : Platform where
  now := 0
  innerSize := ⟨640, 480⟩
  caps := ⟨[.bgra8Unorm], [.auto]⟩
  adapterName := "none"
  refusal? _ := none
  windows := 0
  screen := ⟨.fresh, []⟩

/-- Open, draw, close. -/
def shortSession : List HostStep :=
  [.resumed, .window 0 .redrawRequested, .aboutToWait, .window 0 .closeRequested]

/-- The log lines of a run that pass a filter for the viewer. -/
def HostReport.passing (r : HostReport) (f : LogFilter) : List LogRecord :=
  ((r.steps.flatten ++ r.ending).filterMap Event.log?).filter fun record =>
    decide (record.level.rank ≤ Threshold.rank (f.limit "drawbatch_viewer"))

end SpriteRenderer

open SpriteRenderer in
def main : IO UInt32 := do
  let filter := (LoggingConfig.mk none).resolve none
  match Viewer.run screenless shortSession with
  | .error fault =>
      IO.eprintln (fault.message?.getD "arithmetic fault")
      return 101
  | .ok report =>
      for record in report.passing filter do
        IO.eprintln s!"[{record.level.label}] {record.text}"
      match report.result with
      | .ok () => return 0
      | .error failure =>
          IO.eprintln s!"Error: {failure.text}"
          return 1

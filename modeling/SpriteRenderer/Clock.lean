import SpriteRenderer.Fault
import SpriteRenderer.Binary32

/-!
# The frame clock

Each redraw is told how much time has passed since the one before. The step
is clamped on both sides, so that a stall does not show up as one huge step.
Times are nanoseconds from some fixed origin; a reading that lies before the
last one counts as no time at all.
-/

namespace SpriteRenderer

/-- What a redraw is told about time. -/
structure FrameTime where
  /-- Nanoseconds since the previous tick, clamped. -/
  elapsed : Nat
  /-- The reading of this tick. -/
  now : Int
  /-- Ticks before this one. -/
  frameIndex : UInt64
deriving DecidableEq

/-- Nanoseconds in a second. -/
def FrameTime.nanoseconds : Nat := 1000000000

/-- The step in seconds: whole seconds and the fraction are rounded on their
own and then added. -/
def FrameTime.seconds (t : FrameTime) : Binary32 :=
  .ofNat (t.elapsed / nanoseconds) + .ofNat (t.elapsed % nanoseconds) / .ofNat nanoseconds

structure FrameClock where
  /-- The last tick or reset. -/
  last : Int
  frameIndex : UInt64
  shortest : Nat
  longest : Nat
deriving DecidableEq

namespace FrameClock

/-- A tenth of a millisecond. -/
def defaultShortest : Nat := 100000

/-- A quarter of a second. -/
def defaultLongest : Nat := 250000000

/-- A clock with the usual clamps. -/
def start (now : Int) : FrameClock := ⟨now, 0, defaultShortest, defaultLongest⟩

/-- A clock with clamps of its own. -/
def withClamps (now : Int) (shortest longest : Nat) : Except Fault FrameClock :=
  if shortest ≤ longest then .ok ⟨now, 0, shortest, longest⟩ else .error .clampsOutOfOrder

/-- Measures the next step from `now`. -/
def reset (c : FrameClock) (now : Int) : FrameClock := { c with last := now }

/-- The clamped time from the last tick to `now`. -/
def stepTo (c : FrameClock) (now : Int) : Nat :=
  min (max (now - c.last).toNat c.shortest) c.longest

/-- A tick at `now`. -/
def tick (c : FrameClock) (now : Int) : FrameTime × FrameClock :=
  (⟨c.stepTo now, now, c.frameIndex⟩, { c with last := now, frameIndex := c.frameIndex + 1 })

end FrameClock

end SpriteRenderer

import SpriteRenderer.Host.Loop
import SpriteRenderer.Viewer.Checkerboard
import SpriteRenderer.Viewer.Scene

/-!
# The demo viewer

The viewer is an app that makes the checkerboard texture when its window is
ready and then draws the demo scene, frame by frame, to the window's size.
-/

namespace SpriteRenderer

structure Viewer where
  renderer : DeviceRenderer
  scene : DemoScene
  /-- The frame that was drawn last. -/
  frame : FrameBuilder

namespace Viewer

def start (renderer : DeviceRenderer) : Viewer := ⟨renderer, ⟨.zero, none⟩, .empty⟩

/-- Side of the checkerboard in texels. -/
def boardSize : Nat := 64

/-- Side of one of its cells. -/
def cellSize : Nat := 8

/-- The checkerboard on the device. -/
def createBoard : Graphics (Except Failure SpriteTexture) := do
  let pixels ← Effect.lift (Checkerboard.pixels boardSize cellSize)
  let texture ← SpriteTexture.create (.ofNat boardSize) (.ofNat boardSize) pixels
  return texture.mapError fun e => (Failure.ofCause (.render e)).during .creatingCheckerTexture

/-- Makes the checkerboard and shows it from now on. -/
def init (v : Viewer) : Graphics (Viewer × Except Failure Unit) := do
  match ← createBoard with
  | .error f => return (v, .error f)
  | .ok texture =>
      match v.renderer.allocateTexture texture with
      | .error e => return (v, .error (.ofCause (.render e)))
      | .ok (handle, renderer, notice) =>
          Graphics.log notice.record
          Graphics.log ⟨.info, s!"checker texture bound to {handle.label}"⟩
          return ({ v with renderer, scene := { v.scene with checker := some handle } }, .ok ())

/-- The scene goes on by a step in seconds. -/
def advance (v : Viewer) (seconds : Binary32) : Viewer :=
  { v with scene := { v.scene with time := v.scene.time + seconds } }

def update (time : FrameTime) (v : Viewer) : Control × Viewer :=
  (.proceed, v.advance time.seconds)

def render (c : FrameContext) (v : Viewer) : OnScreen (AppFrame Viewer) := do
  let viewport := c.gpu.viewport
  let (refused, frame) := v.scene.build viewport.width viewport.height v.frame
  match refused with
  | some e => return ⟨{ v with frame }, c.gpu, .error (.ofCause (.quads e))⟩
  | none =>
      let (data, frame) := frame.finish
      let (renderer, outcome) ← c.render v.renderer data
      return ⟨{ v with renderer, frame }, c.gpu, outcome⟩

def app : App Viewer where
  init _ v := v.init
  onEvent _ v := (.proceed, v)
  update := update
  render := render

/-- The viewer in its window. -/
def host : Host Viewer where
  app := app
  config := { HostConfig.standard with title := "drawbatch viewer" }
  options := .standard

/-- Runs the viewer on a platform. -/
def run (platform : Platform) (steps : List HostStep) : Except Fault HostReport := do
  let renderer ← Renderer.create .standard
  host.run platform (start renderer) steps

end Viewer

end SpriteRenderer

import SpriteRenderer.Binary32.Sine
import SpriteRenderer.FrameBuilder
import SpriteRenderer.Texture.Handle

/-!
# The demo scene

A tinted strip along the bottom, a row of checkerboard sprites that bob up
and down in growing opacity, one sprite pushed toward red by its colour
offset, and two glowing quads that pulse over the strip. The sprites need
the checkerboard texture and are left out without it.
-/

namespace SpriteRenderer

/-- What the scene depends on. -/
structure DemoScene where
  /-- Seconds since the start. -/
  time : Binary32
  checker : Option TextureHandle

namespace DemoScene

def stripColor : PackedColor := .pack ⟨0x20, 0x30, 0x60, 0xff⟩

/-- Each sprite of the row is more opaque than the one before. -/
def spriteColor (i : Nat) : PackedColor :=
  .pack ⟨0xff, 0xff, 0xff, 0x40 + .ofNat i * 0x3f⟩

def redOffset : PackedColor := .pack ⟨0xc0, 0x80, 0x80, 0x80⟩

/-- The glow's opacity swings between nothing and 200 once in `π` seconds. -/
def glowColor (time : Binary32) : PackedColor :=
  let pulse := (time * .two).sin * .half + .half
  .pack ⟨0xff, 0x90, 0x20, (pulse * .ofNat 200).toUInt8⟩

/-- The strip behind everything. -/
def strip (width height : Binary32) : Quad :=
  ⟨.zero, height - .ofNat 48, width, .ofNat 48, stripColor, .noOffset⟩

/-- The `i`-th sprite of the row. -/
def rowSprite (time : Binary32) (i : Nat) : Quad :=
  let wobble := time.sin * .ofNat 24
  ⟨.ofNat 32 + .ofNat i * .ofNat 96, .ofNat 48 + wobble, .ofNat 80, .ofNat 80, spriteColor i,
    .noOffset⟩

/-- The sprite below the row. -/
def redSprite : Quad := ⟨.ofNat 32, .ofNat 176, .ofNat 80, .ofNat 80, .white, redOffset⟩

/-- The sprites that show the checkerboard. -/
def sprites (time : Binary32) : List Quad :=
  (List.range 4).map (rowSprite time) ++ [redSprite]

/-- The glow pair, left one first. -/
def glows (time width height : Binary32) : List Quad :=
  [.ofNat 120, .ofNat 40].map fun left =>
    ⟨width * .half - left, height - .ofNat 96, .ofNat 160, .ofNat 96, glowColor time, .noOffset⟩

/-- Everything in the scene, back to front. -/
def pushes (s : DemoScene) (width height : Binary32) : List QuadPush :=
  [.untextured (strip width height) .normal]
    ++ (match s.checker with
        | some handle => (sprites s.time).map fun q => .textured q handle.batchId .normal
        | none => [])
    ++ (glows s.time width height).map fun q => .untextured q .add

/-- The scene on a target of the given size, in the place of what the builder
holds. -/
def build (s : DemoScene) (width height : Binary32) (b : FrameBuilder) :
    Option QuadError × FrameBuilder :=
  (b.serve .clear).2.pushAll (s.pushes width height)

end DemoScene

end SpriteRenderer

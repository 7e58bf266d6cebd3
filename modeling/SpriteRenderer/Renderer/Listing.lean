import SpriteRenderer.Graphics.Listing
import SpriteRenderer.Renderer.Device

/-!
# Listing what a renderer says

The calls of a renderer on a device whose programs and textures are
numbers.
-/

namespace SpriteRenderer

open Listing

def Projection.listing (p : Projection) : Listing :=
  each (fun c => each computed c.toList) p.columns.toList

def DrawCommand.listing : DrawCommand Nat → Listing
  | .scissorRect c => call "scissor_rect" c.listing
  | .bindTexture t => call "bind_texture" [option ofNat t]
  | .blend f => call "blend" [.text f.label]
  | .draw first count => call "draw" (([first, count].map UInt32.toNat).map ofNat)

def Command.listing : Command Nat Nat → Listing
  | .stencilTest on => call "stencil_test" [.flag on]
  | .scissorTest on => call "scissor_test" [.flag on]
  | .clear color stencil => call "clear" [each bits color.toList, ofNat stencil.toNat]
  | .useProgram program projection => call "use_program" [ofNat program, projection.listing]
  | .drawing c => c.listing
  | .releaseGeometry => call "release_geometry" []

def Call.listing : Call Nat Nat → Listing
  | .command c => c.listing
  | .compile source => .list [.text "compile_program", .text source.name]
  | .upload vertices indices _ =>
      .list [.text "upload_geometry", ofNat vertices.length, ofNat indices.length]

end SpriteRenderer

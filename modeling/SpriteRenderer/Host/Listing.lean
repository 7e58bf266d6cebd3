import SpriteRenderer.Graphics.Listing
import SpriteRenderer.Host.Label

/-!
# Listing host calls
-/

namespace SpriteRenderer

open Listing

def Viewport.listing (v : Viewport) : Listing := .list [bits v.width, bits v.height]

def PixelSize.listing (s : PixelSize) : Listing := numbers [s.width.toNat, s.height.toNat]

def LogicalSize.listing (s : LogicalSize) : Listing := texts [s.width.text, s.height.text]

def AdapterRequest.listing (r : AdapterRequest) : Listing :=
  .record [("power", .text r.power.label), ("surface", .flag r.forSurface),
    ("fallback", .flag r.forceFallback)]

def DeviceRequest.listing (r : DeviceRequest) : Listing :=
  .record [("label", .text r.label), ("features_empty", .flag (r.needs.features == 0)),
    ("default_limits", .flag r.needs.limits.isEmpty), ("memory", .text r.memory.label)]

/-- The step in seconds and the number of the frame. -/
def FrameTime.listing (t : FrameTime) : List Listing :=
  [computed t.seconds, ofNat t.frameIndex.toNat]

def Callback.listing : Callback → Listing
  | .init size format => call "app_init" [size.listing, .text format.label]
  | .event e => call "app_event" [.text e.label]
  | .update t => call "app_update" t.listing
  | .render t => call "app_render" t.listing

def CanvasCall.listing : CanvasCall → Listing
  | .graphics c => c.listing
  | .prePresentNotify => call "pre_present_notify" []
  | .painting viewport hasStencil => call "app_draw" [viewport.listing, .flag hasStencil]

def HostCall.listing : HostCall → Listing
  | .createWindow title size => call "create_window" [.text title, size.listing]
  | .dropWindow => call "drop_window" []
  | .requestRedraw => call "request_redraw" []
  | .setControlFlow flow => call "set_control_flow" [.text flow.label]
  | .exit => call "exit" []
  | .createInstance allBackends => call "create_instance" [.flag allBackends]
  | .requestAdapter r => call "request_adapter" [r.listing]
  | .requestDevice r => call "request_device" [r.listing]
  | .dropSurface => call "drop_surface" []
  | .callback c => c.listing
  | .canvas c => c.listing

end SpriteRenderer

import SpriteRenderer.Listing
import SpriteRenderer.Graphics.Label

/-!
# Listing graphics calls

Every call as a list: its name, the object it is about, and a record of what
the device is told.
-/

namespace SpriteRenderer

open Listing

/-! ## Descriptions -/

def ObjectId.listing {kind : ObjectKind} (o : ObjectId kind) : Listing := .text o.label

def Clip.listing (c : Clip) : List Listing := [c.x, c.y, c.width, c.height].map ofNat

def BindingType.listing : BindingType → Listing
  | .uniformBuffer dynamicOffset minSize =>
      .record [("buffer", .text "Uniform"), ("dynamic", .flag dynamicOffset),
        ("min_size", ofNat minSize)]
  | .floatTexture filterable dimension multisampled =>
      .record [("texture", .text (if filterable then "Float filterable" else "Float")),
        ("dimension", .text dimension.label), ("multisampled", .flag multisampled)]
  | .sampler filtering =>
      .record [("sampler", .text (if filtering then "Filtering" else "NonFiltering"))]

def LayoutEntry.listing (e : LayoutEntry) : Listing :=
  .record [("binding", ofNat e.binding), ("visibility", ofNat e.visibility),
    ("ty", e.type.listing)]

def BlendComponent.listing (c : BlendComponent) : Listing :=
  texts [c.sourceFactor.label, c.targetFactor.label, c.operation.label]

def VertexAttribute.listing (a : VertexAttribute) : Listing :=
  .list [ofNat a.location, .text a.format.label, ofNat a.offset]

def VertexLayout.listing (l : VertexLayout) : Listing :=
  .record [("stride", ofNat l.stride), ("step", .text l.step.label),
    ("attributes", each VertexAttribute.listing l.attributes)]

def ColorTarget.listing (t : ColorTarget) : Listing :=
  .record [("format", .text t.format.label), ("color", t.color.listing),
    ("alpha", t.alpha.listing), ("write_mask", ofNat t.writeMask)]

def DepthStencilState.listing (s : DepthStencilState) : Listing :=
  .record [("format", .text s.format.label), ("depth_write", .flag s.depthWrite),
    ("depth_compare", .text s.depthCompare.label), ("stencil_enabled", .flag s.stencilEnabled)]

def PipelineDescription.listing (p : PipelineDescription) : Listing :=
  .record [("label", .text p.label), ("layout", p.layout.listing),
    ("vertex_entry", .text p.vertexEntry), ("fragment_entry", .text p.fragmentEntry),
    ("buffers", each VertexLayout.listing p.buffers),
    ("targets", each ColorTarget.listing p.targets),
    ("topology", .text p.topology.label), ("front_face", .text p.frontFace.label),
    ("cull", option (fun c => .text c.label) p.cull),
    ("depth_stencil", option DepthStencilState.listing p.depthStencil),
    ("samples", ofNat p.samples)]

def SamplerDescription.listing (s : SamplerDescription) : Listing :=
  .record [("label", .text s.label), ("u", .text s.u.label), ("v", .text s.v.label),
    ("mag", .text s.magnify.label), ("min", .text s.minify.label),
    ("mipmap", .text s.mipmap.label)]

def Extent.listing (e : Extent) : Listing :=
  numbers [e.width.toNat, e.height.toNat, e.layers.toNat]

def TextureDescription.listing (t : TextureDescription) : Listing :=
  .record [("label", .text t.label), ("size", t.size.listing), ("mips", ofNat t.mips),
    ("samples", ofNat t.samples), ("dimension", .text t.dimension.label),
    ("format", .text t.format.label), ("usage", ofNat t.usage)]

def TextureWrite.listing (w : TextureWrite) : Listing :=
  .record [("mip", ofNat w.mip), ("origin", numbers [w.origin.1, w.origin.2.1, w.origin.2.2]),
    ("offset", ofNat w.offset), ("bytes_per_row", ofNat w.bytesPerRow), ("rows", ofNat w.rows),
    ("size", w.size.listing), ("data", hex w.data)]

def BufferDescription.listing (b : BufferDescription) : Listing :=
  .record [("label", .text b.label), ("size", ofNat b.size), ("usage", ofNat b.usage)]

def LoadOp.listing {α : Type} (value : α → Listing) : LoadOp α → Listing
  | .load => .text "Load"
  | .clear v => .record [("clear", value v)]

def ColorAttachment.listing (a : ColorAttachment) : Listing :=
  .record [("view", .text a.view.label), ("load", a.load.listing fun c => each wide c.toList),
    ("store", .text "Store")]

def DepthStencilAttachment.listing (a : DepthStencilAttachment) : Listing :=
  .record [("view", .text a.view.label),
    ("depth", .list [a.depth.listing bits, .text "Store"]),
    ("stencil", .list [a.stencil.listing fun v => ofNat v.toNat, .text "Store"])]

def PassDescription.listing (p : PassDescription) : Listing :=
  .record [("label", .text p.label), ("colors", each ColorAttachment.listing p.colors),
    ("depth_stencil", option DepthStencilAttachment.listing p.depthStencil)]

def SurfaceConfig.listing (c : SurfaceConfig) : Listing :=
  .record [("format", .text c.format.label), ("width", ofNat c.width.toNat),
    ("height", ofNat c.height.toNat), ("present_mode", .text c.presentMode.label),
    ("alpha_mode", .text c.alphaMode.label), ("latency", ofNat c.latency),
    ("usage", ofNat c.usage)]

/-! ## Calls -/

def PassCall.listing : PassCall → Listing
  | .setBindGroup i g => call "set_bind_group" [ofNat i, g.listing]
  | .setPipeline p => call "set_pipeline" [p.listing]
  | .setVertexBuffer slot b offset size =>
      call "set_vertex_buffer" [ofNat slot, b.listing, ofNat offset, ofNat size]
  | .setIndexBuffer b f offset size =>
      call "set_index_buffer" [b.listing, .text f.label, ofNat offset, ofNat size]
  | .setScissorRect c => call "set_scissor_rect" c.listing
  | .drawIndexed first stop baseVertex firstInstance stopInstance =>
      call "draw_indexed" [ofNat first, ofNat stop, .number baseVertex, ofNat firstInstance,
        ofNat stopInstance]

def GraphicsCall.listing : GraphicsCall → Listing
  | .createShaderModule s label length =>
      call "create_shader_module"
        [s.listing, .record [("label", .text label), ("wgsl_len", ofNat length)]]
  | .createBindGroupLayout l label entries =>
      call "create_bind_group_layout" [l.listing,
        .record [("label", .text label), ("entries", each LayoutEntry.listing entries)]]
  | .createPipelineLayout l label layouts immediateSize =>
      call "create_pipeline_layout" [l.listing, .record [("label", .text label),
        ("layouts", each ObjectId.listing layouts), ("immediate_size", ofNat immediateSize)]]
  | .createRenderPipeline p d => call "create_render_pipeline" [p.listing, d.listing]
  | .createSampler s d => call "create_sampler" [s.listing, d.listing]
  | .createTexture t d => call "create_texture" [t.listing, d.listing]
  | .writeTexture t w => call "write_texture" [t.listing, w.listing]
  | .createView v source => call "create_view" [v.listing, .text source.label]
  | .createBindGroup g label layout entries =>
      call "create_bind_group" [g.listing, .record [("label", .text label),
        ("layout", layout.listing),
        ("entries", each (fun e => .list [ofNat e.1, .text e.2.label]) entries)]]
  | .createBuffer b d => call "create_buffer" [b.listing, d.listing]
  | .bufferData b data => call "buffer_data" [b.listing, hex data]
  | .beginRenderPass p d => call "begin_render_pass" [p.listing, d.listing]
  | .inPass c => c.listing
  | .endPass p => call "end_pass" [p.listing]
  | .configure c => call "configure" [c.listing]
  | .getCurrentTexture f => call "get_current_texture" [f.listing]
  | .createCommandEncoder e label =>
      call "create_command_encoder" [e.listing, .record [("label", .text label)]]
  | .finish e => call "finish" [e.listing]
  | .submit es => call "submit" [each ObjectId.listing es]
  | .present f => call "present" [f.listing]
  | .discard f => call "discard" [f.listing]

end SpriteRenderer

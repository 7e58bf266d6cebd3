import SpriteRenderer.Sprite.Pass
import SpriteRenderer.Proofs.FrameCourse

/-!
# What a frame makes a sprite device do

Every request of a frame runs on a `SpritePass` without a fault, and what
it leaves behind can be said in full: the operations it writes down, the
objects it creates, and the bind groups that the device has for textures
afterwards. Nothing but clearing and releasing speaks inside a pass
(`Event.offPass`).

A bind group is looked up when its texture is bound, but drawn with only
when the pass is encoded. That the two agree is `Device.Grown`: over any
stretch of a frame groups are added and none is replaced, so the group
written down is still the texture's group in the end.
-/

namespace SpriteRenderer

/-! ## Devices -/

/-- An event outside of any pass. -/
def Event.offPass : Event GraphicsCall → Bool
  | .call (.beginRenderPass _ _) | .call (.inPass _) | .call (.endPass _) => false
  | _ => true

@[simp] theorem Device.grow_textureGroups (d : Device) (kind : ObjectKind) :
    (d.grow kind).textureGroups = d.textureGroups := rfl

theorem Device.groupOf?_congr {d d' : Device} (h : d'.textureGroups = d.textureGroups)
    (t : ObjectId .texture) : d'.groupOf? t = d.groupOf? t := by
  rw [groupOf?, groupOf?, h]

namespace Graphics

@[simp] theorem run_create (kind : ObjectKind) (call : ObjectId kind → GraphicsCall) (d : Device) :
    (create kind call).run d =
      .ok ⟨⟨d.created kind⟩, d.grow kind, [.call (call ⟨d.created kind⟩)]⟩ := rfl

@[simp] theorem run_tell {σ : Type} (call : GraphicsCall) (s : σ) :
    (tell call).run s = .ok ⟨(), s, [.call call]⟩ := rfl

theorem length_padded_pos {data : List UInt8} (h : data ≠ []) : 0 < (padded data).length := by
  have hpos := List.length_pos_iff.mpr h
  rw [padded, List.length_append]
  omega

theorem run_createFilledBuffer {contents : List UInt8} (h : contents ≠ []) (label : String)
    (usage : Nat) (d : Device) :
    (createFilledBuffer label usage contents).run d =
      .ok ⟨⟨⟨d.created .buffer⟩, (padded contents).length⟩, d.grow .buffer,
        [.call (.createBuffer ⟨d.created .buffer⟩ ⟨label, (padded contents).length, usage⟩),
          .call (.bufferData ⟨d.created .buffer⟩ (padded contents))]⟩ := by
  have hne : padded contents ≠ [] := List.ne_nil_of_length_pos (length_padded_pos h)
  simp [createFilledBuffer, hne]

end Graphics

/-! ## Programs -/

namespace SpriteProgram

/-- What a program consists of, read off the calls that built it: a pipeline
for each blend function over one layout, and a default group that shows one
white pixel. -/
structure BuiltBy (events : List (Event GraphicsCall)) (formats : TargetFormats)
    (source : ShaderSource) (p : SpriteProgram) : Prop where
  pipelines : ∃ layout,
    .call (.createPipelineLayout layout "drawbatch sprite pipeline layout"
        [p.globalsLayout, p.textureLayout] 0) ∈ events
      ∧ ∀ func, .call (.createRenderPipeline (p.pipeline func)
          (pipelineDescription layout formats source func)) ∈ events
  distinct : p.overPipeline ≠ p.additivePipeline
  layouts : .call (.createBindGroupLayout p.globalsLayout "drawbatch globals bgl" globalsEntries)
        ∈ events
      ∧ .call (.createBindGroupLayout p.textureLayout "drawbatch texture bgl" textureEntries)
        ∈ events
  white : ∃ texture view write,
    .call (.writeTexture texture write) ∈ events
      ∧ write.data = [0xff, 0xff, 0xff, 0xff] ∧ write.size = ⟨1, 1, 1⟩
      ∧ .call (.createView view (.texture texture)) ∈ events
      ∧ .call (.createBindGroup p.defaultGroup "drawbatch texture bind group" p.textureLayout
          [(0, .view view), (1, .sampler p.sampler)]) ∈ events

theorem BuiltBy.mono {events events' : List (Event GraphicsCall)} {formats : TargetFormats}
    {source : ShaderSource} {p : SpriteProgram} (h : p.BuiltBy events formats source)
    (hsub : events ⊆ events') : p.BuiltBy events' formats source := by
  obtain ⟨layout, hlayout, hpipelines⟩ := h.pipelines
  obtain ⟨texture, view, write, hwrite, hdata, hsize, hview, hgroup⟩ := h.white
  exact ⟨⟨layout, hsub hlayout, fun func => hsub (hpipelines func)⟩, h.distinct,
    ⟨hsub h.layouts.1, hsub h.layouts.2⟩,
    ⟨texture, view, write, hsub hwrite, hdata, hsize, hsub hview, hsub hgroup⟩⟩

theorem run_white (d : Device) : ∃ description write, write.data = [0xff, 0xff, 0xff, 0xff]
    ∧ write.size = ⟨1, 1, 1⟩
    ∧ SpriteTexture.white.run d =
      .ok ⟨.ok ⟨⟨d.created .texture⟩, ⟨d.created .view⟩, 1, 1⟩, (d.grow .texture).grow .view,
        [.call (.createTexture ⟨d.created .texture⟩ description),
          .call (.writeTexture ⟨d.created .texture⟩ write),
          .call (.createView ⟨d.created .view⟩ (.texture ⟨d.created .texture⟩))]⟩ :=
  ⟨_, _, rfl, rfl, rfl⟩

theorem exists_run_compile (formats : TargetFormats) (source : ShaderSource) (d : Device) :
    ∃ out, (compile formats source).run d = .ok out
      ∧ out.state.textureGroups = d.textureGroups
      ∧ (∀ e ∈ out.events, e.offPass = true)
      ∧ ∀ p, out.value = .ok p → p.BuiltBy out.events formats source := by
  unfold compile
  cases source.check with
  | error log => exact ⟨_, rfl, rfl, by simp, by simp⟩
  | ok _ =>
      obtain ⟨description, write, hdata, hsize, hwhite⟩ := run_white
        ((((((((d.grow .shader).grow .layout).grow .layout).grow .pipelineLayout).grow
          .pipeline).grow .pipeline).grow .sampler))
      refine ⟨_, by simp [hwhite, createTextureGroup]; rfl, by simp, by simp [Event.offPass], ?_⟩
      intro p hp
      obtain rfl := Except.ok.inj hp
      refine ⟨⟨⟨d.created .pipelineLayout⟩, ?_, ?_⟩, ?_, ?_, ?_⟩
      · simp [Device.grow]
      · intro func
        cases func <;> simp [pipeline, Device.grow]
      · simp [Device.grow]
      · simp [Device.grow]
      · refine ⟨⟨d.created .texture⟩, ⟨d.created .view⟩, write, ?_, hdata, hsize, ?_, ?_⟩
        all_goals simp [Device.grow]

/-- The calls that make a group 0 bind group of a projection. -/
def globalsCalls (p : SpriteProgram) (projection : Projection) (uniform : ObjectId .buffer)
    (globals : ObjectId .group) : List (Event GraphicsCall) :=
  [.call (.createBuffer uniform ⟨"drawbatch globals ubo", projectionSize, BufferUsage.uniform⟩),
    .call (.bufferData uniform projection.bytes),
    .call (.createBindGroup globals "drawbatch globals bind group" p.globalsLayout
      [(0, .buffer uniform)])]

theorem length_projection_bytes (projection : Projection) :
    projection.bytes.length = projectionSize := by
  simp [Projection.bytes, Binary32.bytes, List.length_flatMap, projectionSize, List.map_const']

theorem offPass_globalsCalls (p : SpriteProgram) (projection : Projection)
    (uniform : ObjectId .buffer) (globals : ObjectId .group) :
    ∀ e ∈ p.globalsCalls projection uniform globals, e.offPass = true := by
  simp [globalsCalls, Event.offPass]

theorem run_createGlobals (p : SpriteProgram) (projection : Projection) (d : Device) :
    (p.createGlobals projection).run d =
      .ok ⟨⟨d.created .group⟩, (d.grow .buffer).grow .group,
        p.globalsCalls projection ⟨d.created .buffer⟩ ⟨d.created .group⟩⟩ := by
  have hlength := length_projection_bytes projection
  have hne : projection.bytes ≠ [] := by
    intro hnil
    rw [hnil] at hlength
    cases hlength
  have hpadded : Graphics.padded projection.bytes = projection.bytes := by
    simp [Graphics.padded, hlength, projectionSize]
  have hgroup : (d.grow .buffer).created .group = d.created .group := by simp [Device.grow]
  simp [createGlobals, Graphics.run_createFilledBuffer hne, hpadded, hlength, globalsCalls, hgroup]

def textureGroupCall (p : SpriteProgram) (texture : SpriteTexture) (group : ObjectId .group) :
    Event GraphicsCall :=
  .call (.createBindGroup group "drawbatch texture bind group" p.textureLayout
    [(0, .view texture.view), (1, .sampler p.sampler)])

/-- The group to draw with on a device, if there is one by now. -/
def groupIn? (p : SpriteProgram) (d : Device) : Option SpriteTexture → Option (ObjectId .group)
  | none => some p.defaultGroup
  | some texture => d.groupOf? texture.texture

end SpriteProgram

/-! ## Bind groups over a stretch of a frame -/

namespace Device

/-- What a stretch of a frame does to a device that textures `used` are
bound on: a group that was there stays, and a group that was not there is
made for one of these textures. -/
structure Grown (p : SpriteProgram) (used : SpriteTexture → Prop) (d d' : Device)
    (events : List (Event GraphicsCall)) : Prop where
  kept : ∀ {t g}, d.groupOf? t = some g → d'.groupOf? t = some g
  made : ∀ {t g}, d'.groupOf? t = some g → d.groupOf? t = some g
    ∨ d.groupOf? t = none ∧ ∃ texture : SpriteTexture, texture.texture = t ∧ used texture
      ∧ p.textureGroupCall texture g ∈ events

variable {p : SpriteProgram} {used : SpriteTexture → Prop} {d d' d'' : Device}
  {events events' : List (Event GraphicsCall)}

theorem Grown.of_textureGroups_eq (h : d'.textureGroups = d.textureGroups) :
    Grown p used d d' events := by
  refine ⟨?_, ?_⟩
  · intro t g hg
    rwa [groupOf?_congr h]
  · intro t g hg
    rw [groupOf?_congr h] at hg
    exact Or.inl hg

theorem Grown.mono (h : Grown p used d d' events) (hsub : events ⊆ events') :
    Grown p used d d' events' := by
  refine ⟨h.kept, ?_⟩
  intro t g hg
  rcases h.made hg with hold | ⟨hnone, texture, rfl, huse, hcall⟩
  · exact Or.inl hold
  · exact Or.inr ⟨hnone, texture, rfl, huse, hsub hcall⟩

theorem Grown.trans (h : Grown p used d d' events) (h' : Grown p used d' d'' events) :
    Grown p used d d'' events := by
  refine ⟨fun hg => h'.kept (h.kept hg), ?_⟩
  intro t g hg
  rcases h'.made hg with hold | ⟨hnone, texture, rfl, huse, hcall⟩
  · exact h.made hold
  · refine Or.inr ⟨?_, texture, rfl, huse, hcall⟩
    -- A group that was there at first would be there in between.
    cases hold : d.groupOf? texture.texture with
    | none => rfl
    | some g' =>
        rw [h.kept hold] at hnone
        cases hnone

end Device

def Device.withGroup (d : Device) (t : ObjectId .texture) (g : ObjectId .group) : Device :=
  { d with textureGroups := (t, g) :: d.textureGroups }

theorem Device.groupOf?_withGroup (d : Device) (t t' : ObjectId .texture) (g : ObjectId .group) :
    (d.withGroup t g).groupOf? t' = if t' = t then some g else d.groupOf? t' := by
  by_cases h : t' = t
  · simp [withGroup, groupOf?, h]
  · have hne : (t' == t) = false := beq_false_of_ne h
    simp [withGroup, groupOf?, List.lookup_cons, hne, h]

theorem SpriteProgram.exists_run_textureGroup (p : SpriteProgram) {used : SpriteTexture → Prop}
    {texture : SpriteTexture} (huse : used texture) (d : Device) :
    ∃ g d' events, (p.textureGroup texture).run d = .ok ⟨g, d', events⟩
      ∧ d'.groupOf? texture.texture = some g ∧ Device.Grown p used d d' events
      ∧ ∀ e ∈ events, e.offPass = true := by
  unfold textureGroup
  cases hg : d.groupOf? texture.texture with
  | some g => exact ⟨g, d, [], by simp [hg], hg, .of_textureGroups_eq rfl, by simp⟩
  | none =>
      refine ⟨⟨d.created .group⟩, (d.grow .group).withGroup texture.texture ⟨d.created .group⟩,
        [p.textureGroupCall texture ⟨d.created .group⟩], ?_, ?_, ⟨?_, ?_⟩, ?_⟩
      · simp [hg, createTextureGroup, textureGroupCall, Device.withGroup]
      · rw [Device.groupOf?_withGroup, if_pos rfl]
      · intro t g ht
        have hne : t ≠ texture.texture := by
          rintro rfl
          rw [hg] at ht
          cases ht
        rw [Device.groupOf?_withGroup, if_neg hne]
        exact ht
      · intro t g ht
        rw [Device.groupOf?_withGroup] at ht
        split at ht
        · next h =>
            obtain rfl := Option.some.inj ht
            exact Or.inr ⟨h ▸ hg, texture, h.symm, huse, by simp⟩
        · exact Or.inl ht
      · simp [textureGroupCall, Event.offPass]

theorem SpritePass.exists_run_groupFor (p : SpriteProgram) {used : SpriteTexture → Prop}
    (texture : Option SpriteTexture) (huse : ∀ t, texture = some t → used t) (d : Device) :
    ∃ g d' events, (groupFor p texture).run d = .ok ⟨g, d', events⟩
      ∧ p.groupIn? d' texture = some g ∧ Device.Grown p used d d' events
      ∧ ∀ e ∈ events, e.offPass = true := by
  cases texture with
  | none => exact ⟨p.defaultGroup, d, [], rfl, rfl, .of_textureGroups_eq rfl, by simp⟩
  | some t => exact p.exists_run_textureGroup (huse t rfl) d

/-- A texture that some batch shows. -/
def DrawContext.ShowsTexture (c : DrawContext SpriteTexture) (batches : List Batch)
    (texture : SpriteTexture) : Prop :=
  ∃ b ∈ batches, c.shows b = true ∧ c.textureOf b.textureId = some texture

/-! ## Writing down -/

theorem Backend.performAll_append {ε σ P T : Type} (B : Backend ε σ P T)
    (xs ys : List (Command P T)) :
    B.performAll (xs ++ ys) = (do B.performAll xs; B.performAll ys) := by
  induction xs with
  | nil => simp [performAll]
  | cons x rest ih => simp [performAll, ih]

theorem Backend.run_performAll_append {ε σ P T : Type} {B : Backend ε σ P T}
    {xs ys : List (Command P T)} {s s₁ s₂ : σ} {e₁ e₂ : List ε}
    (hxs : (B.performAll xs).run s = .ok ⟨(), s₁, e₁⟩)
    (hys : (B.performAll ys).run s₁ = .ok ⟨(), s₂, e₂⟩) :
    (B.performAll (xs ++ ys)).run s = .ok ⟨(), s₂, e₁ ++ e₂⟩ := by
  simp [performAll_append, hxs, hys]

namespace SpritePass

theorem run_onDevice_of_ok {α : Type} {x : Graphics α} {s : SpritePass}
    {out : Ran (Event GraphicsCall) Device α} (h : x.run s.device = .ok out) :
    (onDevice x).run s = .ok ⟨out.value, { s with device := out.state }, out.events⟩ := by
  change x s.device = _ at h
  simp [onDevice, Effect.zoom, Effect.run, h]

/-- The operations that a drawing command comes to, with the groups that a
device has in the end. -/
def recorded (p : SpriteProgram) (d : Device) (scissorTest : Bool) :
    DrawCommand SpriteTexture → List PassOp
  | .scissorRect clip => if scissorTest then [.scissor (some clip)] else []
  | .bindTexture texture => (p.groupIn? d texture).toList.map .texture
  | .blend func => [.pipeline func]
  | .draw first count => [.draw first.toNat (first.toNat + count.toNat)]

def Binds (commands : List (DrawCommand SpriteTexture)) (texture : SpriteTexture) : Prop :=
  .bindTexture (some texture) ∈ commands

def wrote (s : SpritePass) (device : Device) (rect : Clip) (ops : List PassOp) : SpritePass :=
  { s with device, scissorRect := rect, ops := s.ops ++ ops.toArray }

/-- One drawing command, with what it leaves to the commands after it. -/
theorem exists_run_performDrawing {p : SpriteProgram} {used : SpriteTexture → Prop}
    {command : DrawCommand SpriteTexture} {s : SpritePass} (programmed : s.program = some p)
    (huse : ∀ t, command = .bindTexture (some t) → used t)
    (fits : ∀ first count, command = .draw first count → first.toNat + count.toNat < 2 ^ 32) :
    ∃ d rect events,
      (performDrawing command).run s
        = .ok ⟨(), s.wrote d rect (recorded p d s.scissorTest command), events⟩
      ∧ Device.Grown p used s.device d events ∧ (∀ e ∈ events, e.offPass = true)
      ∧ ∀ t, command = .bindTexture t → (p.groupIn? d t).isSome = true := by
  cases command with
  | scissorRect clip =>
      refine ⟨s.device, clip, [], ?_, .of_textureGroups_eq rfl, by simp, by simp⟩
      cases ht : s.scissorTest <;> simp [performDrawing, wrote, recorded, note, ht]
  | bindTexture texture =>
      obtain ⟨g, d, events, hrun, hgroup, grown, off⟩ :=
        exists_run_groupFor p texture (fun t ht => huse t (ht ▸ rfl)) s.device
      refine ⟨d, s.scissorRect, events, ?_, grown, off, ?_⟩
      · simp [performDrawing, programmed, run_onDevice_of_ok hrun, wrote, recorded, note, hgroup]
      · rintro t ⟨⟩
        simp [hgroup]
  | blend func =>
      exact ⟨s.device, s.scissorRect, [], by simp [performDrawing, wrote, recorded, note],
        .of_textureGroups_eq rfl, by simp, by simp⟩
  | draw first count =>
      have hfit : fitUnsigned 32 (first.toNat + count.toNat) = .ok (first.toNat + count.toNat) :=
        fitUnsigned_eq_ok_iff.mpr ⟨fits first count rfl, rfl⟩
      refine ⟨s.device, s.scissorRect, [], ?_, .of_textureGroups_eq rfl, by simp, by simp⟩
      simp [performDrawing, hfit, wrote, recorded, note]

/-- A group once found stays what it is. -/
theorem recorded_of_grown {p : SpriteProgram} {used : SpriteTexture → Prop} {d d' : Device}
    {events : List (Event GraphicsCall)} (grown : Device.Grown p used d d' events) (test : Bool)
    {command : DrawCommand SpriteTexture}
    (found : ∀ t, command = .bindTexture t → (p.groupIn? d t).isSome = true) :
    recorded p d test command = recorded p d' test command := by
  cases command with
  | bindTexture texture =>
      cases texture with
      | none => rfl
      | some t =>
          obtain ⟨g, hg⟩ := Option.isSome_iff_exists.mp (found (some t) rfl)
          have hg' : p.groupIn? d' (some t) = some g := grown.kept hg
          simp only [recorded, hg, hg']
  | scissorRect _ | blend _ | draw _ _ => rfl

/-- Drawing commands are written down one after the other. -/
theorem exists_run_drawing {p : SpriteProgram} {used : SpriteTexture → Prop}
    (commands : List (DrawCommand SpriteTexture)) {s : SpritePass}
    (programmed : s.program = some p) (huse : ∀ t, Binds commands t → used t)
    (fits : ∀ first count, .draw first count ∈ commands → first.toNat + count.toNat < 2 ^ 32) :
    ∃ d rect events,
      (backend.performAll (commands.map .drawing)).run s
        = .ok ⟨(), s.wrote d rect (commands.flatMap (recorded p d s.scissorTest)), events⟩
      ∧ Device.Grown p used s.device d events ∧ (∀ e ∈ events, e.offPass = true)
      ∧ ∀ t, .bindTexture t ∈ commands → (p.groupIn? d t).isSome = true := by
  induction commands generalizing s with
  | nil =>
      exact ⟨s.device, s.scissorRect, [], by simp [Backend.performAll, wrote],
        .of_textureGroups_eq rfl, by simp, by simp⟩
  | cons command rest ih =>
      obtain ⟨d₁, rect₁, events₁, hrun₁, grown₁, off₁, found₁⟩ :=
        exists_run_performDrawing programmed
          (fun t ht => huse t (List.mem_cons.mpr (Or.inl ht.symm)))
          (fun first count hc => fits first count (List.mem_cons.mpr (Or.inl hc.symm)))
      obtain ⟨d, rect, events, hrun, grown, off, found⟩ :=
        ih (s := s.wrote d₁ rect₁ (recorded p d₁ s.scissorTest command)) programmed
          (fun t ht => huse t (List.mem_cons_of_mem _ ht))
          (fun first count hc => fits first count (List.mem_cons_of_mem _ hc))
      refine ⟨d, rect, events₁ ++ events, ?_,
        (grown₁.mono (List.subset_append_left _ _)).trans
          (grown.mono (List.subset_append_right _ _)),
        fun e he => (List.mem_append.mp he).elim (off₁ e) (off e), ?_⟩
      · -- The group was looked up on `d₁`, and is read back on the last device.
        have hsame : recorded p d₁ s.scissorTest command = recorded p d s.scissorTest command :=
          recorded_of_grown grown s.scissorTest found₁
        simp only [List.map_cons, Backend.performAll, Effect.run_bind]
        rw [show (backend.perform (.drawing command)).run s = _ from hrun₁]
        simp only [hrun]
        simp [wrote, hsame]
      · intro t ht
        rcases List.mem_cons.mp ht with rfl | hmem
        · obtain ⟨g, hg⟩ := Option.isSome_iff_exists.mp (found₁ t rfl)
          cases t with
          | none => rfl
          | some t => exact Option.isSome_iff_exists.mpr ⟨g, grown.kept hg⟩
        · exact found t hmem

/-! ## Around the drawing commands -/

/-- A whole pass as the device hears it. -/
def passEvents (pass : ObjectId .pass) (description : PassDescription) (calls : List PassCall) :
    List (Event GraphicsCall) :=
  .call (.beginRenderPass pass description) :: (calls.map fun call => .call (.inPass call))
    ++ [.call (.endPass pass)]

theorem run_encode (description : PassDescription) (calls : List PassCall) (d : Device) :
    (encode description calls).run d =
      .ok ⟨(), d.grow .pass, passEvents ⟨d.created .pass⟩ description calls⟩ := by
  simp [encode, passEvents]

def cleared (device : Device) (target : RenderTarget) : SpritePass :=
  ⟨device, target, none, none, none, false, ⟨0, 0, 0, 0⟩, #[.scissor none]⟩

theorem run_header (r : DeviceRenderer) (device : Device) (target : RenderTarget) :
    (backend.performAll r.header).run (start device target) =
      .ok ⟨(), cleared (device.grow .pass) target,
        passEvents ⟨device.created .pass⟩ (clearPass target r.config.clearColor 0) []⟩ := by
  have hclear := run_onDevice_of_ok (s := cleared device target)
    (run_encode (clearPass target r.config.clearColor 0) [] device)
  simp only [cleared] at hclear
  simp [Renderer.header, Backend.performAll, backend, perform, start, note, hclear, cleared]

/-- Where a program of a frame comes from: it was there, or is built now. -/
def Provides (r : DeviceRenderer) (target : RenderTarget) (events : List (Event GraphicsCall))
    (p : SpriteProgram) : Prop :=
  r.shader.program? = some (.ok p)
    ∨ r.shader.program? = none ∧ p.BuiltBy events target.formats r.shader.source

theorem Provides.mono {r : DeviceRenderer} {target : RenderTarget}
    {events events' : List (Event GraphicsCall)} {p : SpriteProgram}
    (h : Provides r target events p) (hsub : events ⊆ events') : Provides r target events' p := by
  rcases h with hready | ⟨hnone, hbuilt⟩
  · exact Or.inl hready
  · exact Or.inr ⟨hnone, hbuilt.mono hsub⟩

theorem exists_run_prepare (r : DeviceRenderer) (device : Device) (target : RenderTarget) :
    ∃ lookup d events, (Renderer.prepare backend r).run (start device target)
        = .ok ⟨(target.viewport, lookup), cleared d target,
            passEvents ⟨device.created .pass⟩ (clearPass target r.config.clearColor 0) [] ++ events⟩
      ∧ d.textureGroups = device.textureGroups ∧ (∀ e ∈ events, e.offPass = true)
      ∧ ∀ p, lookup.outcome = .ok p → Provides r target events p := by
  have hheader := run_header r device target
  cases hknown : r.shader.program? with
  | some outcome =>
      refine ⟨⟨outcome, r.shader, [], []⟩, device.grow .pass, [],
        Renderer.run_prepare_eq_ok_iff.mpr ⟨_, _, hheader,
          ShaderCache.run_ensureCompiled_eq_ok_iff.mpr (Or.inl ⟨outcome, hknown, rfl⟩), rfl⟩,
        rfl, by simp, ?_⟩
      rintro p rfl
      exact Or.inl hknown
  | none =>
      obtain ⟨out, hrun, hgroups, hoff, hbuilt⟩ :=
        SpriteProgram.exists_run_compile target.formats r.shader.source (device.grow .pass)
      have hdevice := run_onDevice_of_ok (s := cleared (device.grow .pass) target) hrun
      have hcompile : (backend.compile r.shader.source).run (cleared (device.grow .pass) target)
          = .ok ⟨out.value, cleared out.state target, out.events⟩ := by
        simp only [backend, compile, Effect.run_bind, Effect.run_get]
        rw [show (cleared (device.grow .pass) target).target = target from rfl, hdevice]
        rfl
      refine ⟨.ofAnswer r.shader out.value, out.state, out.events,
        Renderer.run_prepare_eq_ok_iff.mpr ⟨_, _, hheader,
          ShaderCache.run_ensureCompiled_eq_ok_iff.mpr
            (Or.inr ⟨hknown, _, hcompile, rfl⟩), rfl⟩, hgroups, hoff, ?_⟩
      intro p hp
      refine Or.inr ⟨hknown, hbuilt p ?_⟩
      cases hanswer : out.value with
      | error log => simp [ShaderCache.Lookup.ofAnswer, hanswer, Except.mapError] at hp
      | ok p' =>
          have hsame : p' = p := by
            simpa [ShaderCache.Lookup.ofAnswer, hanswer, Except.mapError] using hp
          rw [hsame]

theorem of_run_prepare {r : DeviceRenderer} {device : Device} {target : RenderTarget}
    {viewport : Viewport} {lookup : ShaderCache.Lookup SpriteProgram SpriteTexture}
    {s₁ : SpritePass} {e₁ : List (Event GraphicsCall)}
    (prepared : (Renderer.prepare backend r).run (start device target)
      = .ok ⟨(viewport, lookup), s₁, e₁⟩) :
    target.viewport = viewport ∧ ∃ d events, cleared d target = s₁
      ∧ passEvents ⟨device.created .pass⟩ (clearPass target r.config.clearColor 0) [] ++ events = e₁
      ∧ d.textureGroups = device.textureGroups ∧ (∀ e ∈ events, e.offPass = true)
      ∧ ∀ p, lookup.outcome = .ok p → Provides r target events p := by
  obtain ⟨lookup', d, events, hprepare, hgroups, off, provides⟩ := exists_run_prepare r device target
  rw [hprepare] at prepared
  obtain ⟨⟨rfl, rfl⟩, rfl, rfl⟩ : (target.viewport = viewport ∧ lookup' = lookup)
      ∧ cleared d target = s₁ ∧ _ = e₁ := by simpa using prepared
  exact ⟨rfl, d, events, rfl, rfl, hgroups, off, provides⟩

/-- The buffers of a frame, read off the calls that filled them. -/
structure Filled (events : List (Event GraphicsCall)) (vertices : List Vertex)
    (indices : List UInt16) (g : Geometry) : Prop where
  vertexBuffer : .call (.createBuffer g.vertices.buffer
      ⟨"drawbatch frame vbo", g.vertices.size, BufferUsage.vertex⟩) ∈ events
  vertexData : .call (.bufferData g.vertices.buffer
      (Graphics.padded (vertices.flatMap Vertex.bytes))) ∈ events
  vertexSize : g.vertices.size = (Graphics.padded (vertices.flatMap Vertex.bytes)).length
  indexBuffer : .call (.createBuffer g.indices.buffer
      ⟨"drawbatch frame ibo", g.indices.size, BufferUsage.index⟩) ∈ events
  indexData : .call (.bufferData g.indices.buffer
      (Graphics.padded (indices.flatMap indexBytes))) ∈ events
  indexSize : g.indices.size = (Graphics.padded (indices.flatMap indexBytes)).length
  distinct : g.vertices.buffer ≠ g.indices.buffer

theorem Filled.mono {events events' : List (Event GraphicsCall)} {vertices : List Vertex}
    {indices : List UInt16} {g : Geometry} (h : Filled events vertices indices g)
    (hsub : events ⊆ events') : Filled events' vertices indices g where
  vertexBuffer := hsub h.vertexBuffer
  vertexData := hsub h.vertexData
  vertexSize := h.vertexSize
  indexBuffer := hsub h.indexBuffer
  indexData := hsub h.indexData
  indexSize := h.indexSize
  distinct := h.distinct

/-- The calls that make the two buffers of a frame, numbered from `n`. -/
def uploadCalls (n : Nat) (vertices : List Vertex) (indices : List UInt16) : List GraphicsCall :=
  let vertexData := Graphics.padded (vertices.flatMap Vertex.bytes)
  let indexData := Graphics.padded (indices.flatMap indexBytes)
  [.createBuffer ⟨n⟩ ⟨"drawbatch frame vbo", vertexData.length, BufferUsage.vertex⟩,
    .bufferData ⟨n⟩ vertexData,
    .createBuffer ⟨n + 1⟩ ⟨"drawbatch frame ibo", indexData.length, BufferUsage.index⟩,
    .bufferData ⟨n + 1⟩ indexData]

def uploaded (n : Nat) (vertices : List Vertex) (indices : List UInt16) : Geometry :=
  ⟨⟨⟨n⟩, (Graphics.padded (vertices.flatMap Vertex.bytes)).length⟩,
    ⟨⟨n + 1⟩, (Graphics.padded (indices.flatMap indexBytes)).length⟩⟩

theorem flatMap_bytes_ne_nil {vertices : List Vertex} {indices : List UInt16}
    (hvertices : vertices ≠ []) (hindices : indices ≠ []) :
    vertices.flatMap Vertex.bytes ≠ [] ∧ indices.flatMap indexBytes ≠ [] := by
  obtain ⟨v, vs, rfl⟩ := List.exists_cons_of_ne_nil hvertices
  obtain ⟨i, is, rfl⟩ := List.exists_cons_of_ne_nil hindices
  exact ⟨by simp [Vertex.bytes, Vertex.toSlots, Binary32.bytes], by simp [indexBytes]⟩

theorem run_upload {vertices : List Vertex} {indices : List UInt16} (hvertices : vertices ≠ [])
    (hindices : indices ≠ []) (s : SpritePass) :
    (backend.upload vertices indices).run s
      = .ok ⟨.ok (), { s with
          device := (s.device.grow .buffer).grow .buffer
          geometry := some (uploaded (s.device.created .buffer) vertices indices) },
        (uploadCalls (s.device.created .buffer) vertices indices).map .call⟩ := by
  obtain ⟨hv, hi⟩ := flatMap_bytes_ne_nil hvertices hindices
  have hvbo := run_onDevice_of_ok (s := s)
    (Graphics.run_createFilledBuffer hv "drawbatch frame vbo" BufferUsage.vertex s.device)
  have hibo := run_onDevice_of_ok (s := { s with device := s.device.grow .buffer })
    (Graphics.run_createFilledBuffer hi "drawbatch frame ibo" BufferUsage.index
      (s.device.grow .buffer))
  have hnext : (s.device.grow .buffer).created .buffer = s.device.created .buffer + 1 := by
    simp [Device.grow]
  simp [backend, upload, hvbo, hibo, hnext, uploaded, uploadCalls]

theorem exists_run_upload {vertices : List Vertex} {indices : List UInt16}
    (hvertices : vertices ≠ []) (hindices : indices ≠ []) (s : SpritePass) :
    ∃ d g events, (backend.upload vertices indices).run s
        = .ok ⟨.ok (), { s with device := d, geometry := some g }, events⟩
      ∧ d.textureGroups = s.device.textureGroups ∧ (∀ e ∈ events, e.offPass = true)
      ∧ Filled events vertices indices g ∧ 0 < g.vertices.size ∧ 0 < g.indices.size := by
  obtain ⟨hv, hi⟩ := flatMap_bytes_ne_nil hvertices hindices
  refine ⟨_, _, _, run_upload hvertices hindices s, rfl, ?_, ?_, ?_, ?_⟩
  · simp [uploadCalls, Event.offPass]
  · constructor
    all_goals simp [uploadCalls, uploaded]
  · exact Graphics.length_padded_pos hv
  · exact Graphics.length_padded_pos hi

def setupCalls (p : SpriteProgram) (globals : ObjectId .group) (g : Geometry)
    (width height : Nat) : List PassCall :=
  [.setBindGroup 0 globals, .setBindGroup 1 p.defaultGroup, .setPipeline (p.pipeline .over),
    .setVertexBuffer 0 g.vertices.buffer 0 g.vertices.size,
    .setIndexBuffer g.indices.buffer .uint16 0 g.indices.size,
    .setScissorRect (.whole width height)]

/-- Everything that the pass of a frame says. -/
def replayCalls (p : SpriteProgram) (globals : ObjectId .group) (g : Geometry)
    (extent : Nat × Nat) (ops : List PassOp) : List PassCall :=
  setupCalls p globals g extent.1 extent.2 ++ ops.map (replayOp p extent.1 extent.2)

theorem passSetup_eq {g : Geometry} (hv : 0 < g.vertices.size) (hi : 0 < g.indices.size)
    (p : SpriteProgram) (globals : ObjectId .group) (width height : Nat) :
    passSetup p globals g width height = .ok (setupCalls p globals g width height) := by
  have hv' : g.vertices.wholeRange = .ok g.vertices.size := if_neg (Nat.ne_of_gt hv)
  have hi' : g.indices.wholeRange = .ok g.indices.size := if_neg (Nat.ne_of_gt hi)
  rw [passSetup, hv', hi']
  rfl

/-- What is encoded in the end: one pass, or none if nothing is drawn. -/
def encodedPass (target : RenderTarget) (ops : List PassOp) (p : SpriteProgram)
    (globals : ObjectId .group) (g : Geometry) (pass : ObjectId .pass) :
    List (Event GraphicsCall) :=
  if ops.any PassOp.isDraw then
    passEvents pass (batchPass target) (replayCalls p globals g target.viewport.passExtent ops)
  else []

theorem exists_run_encodeBatches {g : Geometry} (hv : 0 < g.vertices.size)
    (hi : 0 < g.indices.size) (target : RenderTarget) (ops : Array PassOp) (p : SpriteProgram)
    (globals : ObjectId .group) (d : Device) :
    ∃ d', (encodeBatches target ops p globals g).run d
        = .ok ⟨(), d', encodedPass target ops.toList p globals g ⟨d.created .pass⟩⟩
      ∧ d'.textureGroups = d.textureGroups := by
  have hsetup := passSetup_eq hv hi p globals target.viewport.passExtent.1
    target.viewport.passExtent.2
  cases hdraw : ops.any PassOp.isDraw with
  | false => exact ⟨d, by simp [encodeBatches, encodedPass, hdraw], rfl⟩
  | true =>
      refine ⟨d.grow .pass, ?_, rfl⟩
      simp [encodeBatches, encodedPass, hdraw, hsetup, run_encode, replayCalls]

theorem exists_run_release {p : SpriteProgram} {globals : ObjectId .group} {g : Geometry}
    {s : SpritePass} (hg : s.geometry = some g) (hp : s.program = some p)
    (hglobals : s.globals = some globals) (hv : 0 < g.vertices.size) (hi : 0 < g.indices.size) :
    ∃ s', (backend.performAll [.releaseGeometry]).run s
        = .ok ⟨(), s', encodedPass s.target s.ops.toList p globals g ⟨s.device.created .pass⟩⟩
      ∧ s'.device.textureGroups = s.device.textureGroups := by
  obtain ⟨d, hrun, hgroups⟩ :=
    exists_run_encodeBatches hv hi s.target s.ops p globals s.device
  have hdevice := run_onDevice_of_ok
    (s := { s with geometry := none, program := none, globals := none, ops := #[] }) hrun
  refine ⟨{ s with geometry := none, program := none, globals := none, ops := #[], device := d },
    ?_, hgroups⟩
  simp [Backend.performAll, backend, perform, release, hg, hp, hglobals, hdevice]

/-- What switching the scissor test on writes down: the rectangle of the
moment, which before the first batch is empty. -/
def switchOps (applyScissor : Bool) (rect : Clip) : List PassOp :=
  if applyScissor then [.scissor (some rect)] else []

def withProgram (s : SpritePass) (p : SpriteProgram) : SpritePass :=
  { s with
    device := (s.device.grow .buffer).grow .group
    globals := some ⟨s.device.created .group⟩
    program := some p }

theorem run_useProgram (p : SpriteProgram) (projection : Projection) (s : SpritePass) :
    (backend.performAll [.useProgram p projection]).run s =
      .ok ⟨(), s.withProgram p,
        p.globalsCalls projection ⟨s.device.created .buffer⟩ ⟨s.device.created .group⟩⟩ := by
  have hglobals := run_onDevice_of_ok (p.run_createGlobals projection s.device)
  simp [Backend.performAll, backend, perform, hglobals, withProgram]

def switched (s : SpritePass) (applyScissor : Bool) : SpritePass :=
  { s with
    scissorTest := applyScissor
    ops := s.ops ++ (switchOps applyScissor s.scissorRect).toArray }

theorem run_switch {s : SpritePass} (untested : s.scissorTest = false) (applyScissor : Bool) :
    (backend.performAll (if applyScissor then [.scissorTest true] else [])).run s =
      .ok ⟨(), s.switched applyScissor, []⟩ := by
  obtain ⟨⟩ := s
  cases untested
  cases applyScissor <;> simp [Backend.performAll, backend, perform, switchOps, switched, note]

/-- From the program to the release, on a device that has geometry. -/
theorem exists_run_body {p : SpriteProgram} {used : SpriteTexture → Prop} (r : DeviceRenderer)
    (viewport : Viewport) (commands : List (DrawCommand SpriteTexture)) {s : SpritePass}
    {g : Geometry} (hg : s.geometry = some g) (hv : 0 < g.vertices.size)
    (hi : 0 < g.indices.size) (untested : s.scissorTest = false)
    (huse : ∀ t, Binds commands t → used t)
    (fits : ∀ first count, .draw first count ∈ commands → first.toNat + count.toNat < 2 ^ 32) :
    ∃ s' uniform globals pass events,
      (backend.performAll (r.body p viewport commands)).run s
        = .ok ⟨(), s', p.globalsCalls (.screen viewport) uniform globals
            ++ (events ++ encodedPass s.target
              (s.ops.toList ++ switchOps r.config.applyScissor s.scissorRect
                ++ commands.flatMap (recorded p s'.device r.config.applyScissor))
              p globals g pass)⟩
      ∧ Device.Grown p used s.device s'.device events ∧ (∀ e ∈ events, e.offPass = true)
      ∧ ∀ t, .bindTexture t ∈ commands → (p.groupIn? s'.device t).isSome = true := by
  have hprogram := run_useProgram p (.screen viewport) s
  have hswitch := run_switch (s := s.withProgram p) untested r.config.applyScissor
  obtain ⟨d, rect, events, hdrawing, grown, off, found⟩ :=
    exists_run_drawing commands (s := (s.withProgram p).switched r.config.applyScissor)
      (rfl : _ = some p) huse fits
  obtain ⟨s', hrelease, hgroups⟩ := exists_run_release
    (s := ((s.withProgram p).switched r.config.applyScissor).wrote d rect
      (commands.flatMap (recorded p d r.config.applyScissor))) hg rfl rfl hv hi
  have hgroups' : p.groupIn? s'.device = p.groupIn? d := by
    funext texture
    cases texture with
    | none => rfl
    | some t => exact Device.groupOf?_congr hgroups t.texture
  have hsame : recorded p s'.device = recorded p d := by
    funext test command
    cases command <;> simp only [recorded, hgroups']
  have hbefore : Device.Grown p used s.device (s.withProgram p).device events :=
    .of_textureGroups_eq rfl
  have hafter : Device.Grown p used d s'.device events := .of_textureGroups_eq hgroups
  refine ⟨s', ⟨s.device.created .buffer⟩, ⟨s.device.created .group⟩, ⟨d.created .pass⟩, events,
    ?_, (hbefore.trans grown).trans hafter, off, ?_⟩
  · have hrun := Backend.run_performAll_append
      (Backend.run_performAll_append (Backend.run_performAll_append hprogram hswitch) hdrawing)
      hrelease
    simpa [hsame, Renderer.body, wrote, switched, withProgram] using hrun
  · intro t ht
    rw [hgroups']
    exact found t ht

theorem exists_run_body_of_accept {r : DeviceRenderer} {frame : FrameData} {d : DecodedFrame}
    {viewport : Viewport} {warned : Bool} {done : Execution SpriteTexture}
    (accepted : r.accept frame = .ok d)
    (executed : (r.drawContext viewport).execute warned d.batches = .ok done) (p : SpriteProgram)
    {s : SpritePass} {g : Geometry} (hg : s.geometry = some g) (hv : 0 < g.vertices.size)
    (hi : 0 < g.indices.size) (untested : s.scissorTest = false) :
    ∃ s' uniform globals pass events,
      (backend.performAll (r.body p viewport done.commands)).run s
        = .ok ⟨(), s', p.globalsCalls (.screen viewport) uniform globals
            ++ (events ++ encodedPass s.target
              (s.ops.toList ++ switchOps r.config.applyScissor s.scissorRect
                ++ done.commands.flatMap (recorded p s'.device r.config.applyScissor))
              p globals g pass)⟩
      ∧ Device.Grown p ((r.drawContext viewport).ShowsTexture d.batches) s.device s'.device events
      ∧ (∀ e ∈ events, e.offPass = true)
      ∧ ∀ t, .bindTexture t ∈ done.commands → (p.groupIn? s'.device t).isSome = true := by
  have huse : ∀ t, Binds done.commands t → (r.drawContext viewport).ShowsTexture d.batches t :=
    fun t ht => Renderer.textureOf_of_bindTexture accepted executed ht
  have hfits : ∀ first count, .draw first count ∈ done.commands →
      first.toNat + count.toNat < 2 ^ 32 := by
    intro first count hc
    have hrange := (Renderer.range_of_draw accepted executed hc).1
    have hlength := (Renderer.length_lt_of_accept accepted).1
    omega
  exact exists_run_body r viewport done.commands hg hv hi untested huse hfits

end SpritePass

end SpriteRenderer

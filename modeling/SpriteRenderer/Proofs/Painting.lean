import SpriteRenderer.Proofs.DrawBounds
import SpriteRenderer.Proofs.HostCourse

/-!
# What painting does to a device

Whoever paints a frame is lent a target and a device. `Painted` is what may
become of the device: it numbers its objects on, textures and views that are
made are new, passes draw into the target that was lent, and nothing is said
to the surface or the queue.

Such stretches can be put one after the other (`painted_sequential`), so an
effect paints if its parts do; `Effect.Keeps` has a lemma for each way of
putting effects together. The sprite renderer paints, whatever the frame
(`keeps_render`).

What surrounds the painting, from the frame that is acquired to the frame that
is presented, is said in full by three equations about `FrameContext.draw`.
-/

namespace SpriteRenderer

/-! ## Relations along an effect -/

namespace Effect

variable {ε σ α β : Type} {R : σ → σ → List ε → Prop}

/-- A relation of states, through events, that runs can be put together along. -/
structure Sequential (R : σ → σ → List ε → Prop) : Prop where
  refl : ∀ s, R s s []
  trans : ∀ {s s' s'' es es'}, R s s' es → R s' s'' es' → R s s'' (es ++ es')

/-- The relation holds along every run from `s`. -/
def KeepsFrom (R : σ → σ → List ε → Prop) (x : Effect ε σ α) (s : σ) : Prop :=
  ∀ out, x.run s = .ok out → R s out.state out.events

def Keeps (R : σ → σ → List ε → Prop) (x : Effect ε σ α) : Prop := ∀ s, x.KeepsFrom R s

theorem keeps_of_run {x : Effect ε σ α} {f : σ → Ran ε σ α} (hrun : ∀ s, x.run s = .ok (f s))
    (hR : ∀ s, R s (f s).state (f s).events) : x.Keeps R := by
  intro s out ran
  rw [hrun s] at ran
  obtain rfl := Except.ok.inj ran
  exact hR s

theorem Sequential.pure (hR : Sequential R) (a : α) : (pure a : Effect ε σ α).Keeps R :=
  keeps_of_run (fun _ => rfl) hR.refl

theorem Sequential.lift (hR : Sequential R) (x : Except Fault α) :
    (Effect.lift x : Effect ε σ α).Keeps R := by
  intro s out ran
  obtain ⟨a, -, rfl⟩ := run_lift_eq_ok_iff.mp ran
  exact hR.refl s

theorem Sequential.bindFrom (hR : Sequential R) {x : Effect ε σ α} {f : α → Effect ε σ β} {s : σ}
    (hx : x.KeepsFrom R s)
    (hf : ∀ mid, x.run s = .ok mid → (f mid.value).KeepsFrom R mid.state) :
    (x >>= f).KeepsFrom R s := by
  intro out ran
  obtain ⟨mid, last, hmid, hlast, rfl⟩ := run_bind_eq_ok_iff.mp ran
  exact hR.trans (hx mid hmid) (hf mid hmid last hlast)

theorem Sequential.bind (hR : Sequential R) {x : Effect ε σ α} {f : α → Effect ε σ β}
    (hx : x.Keeps R) (hf : ∀ a, (f a).Keeps R) : (x >>= f).Keeps R :=
  fun s => hR.bindFrom (hx s) fun mid _ => hf mid.value mid.state

/-- An effect that looks at the state first knows where it is. -/
theorem keeps_get_bind {f : σ → Effect ε σ β} (hf : ∀ s, (f s).KeepsFrom R s) :
    (Effect.get >>= f).Keeps R := by
  intro s out ran
  rw [run_bind_of_silent (run_get s)] at ran
  exact hf s out ran

theorem Keeps.mapEvents {ε' : Type} {x : Effect ε' σ α} {f : ε' → ε}
    (hx : x.Keeps fun s s' events => R s s' (events.map f)) : (x.mapEvents f).Keeps R := by
  intro s out ran
  obtain ⟨inner, hinner, rfl⟩ := run_mapEvents_eq_ok_iff.mp ran
  exact hx s inner hinner

end Effect

/-! ## Painting -/

theorem Event.filterMap_call?_calls {C : Type} (calls : List C) :
    (calls.map Event.call).filterMap Event.call? = calls := by
  rw [List.filterMap_map]
  exact List.filterMap_some

theorem Event.filterMap_call?_logs {C : Type} (records : List LogRecord) :
    (records.map (Event.log (C := C))).filterMap Event.call? = [] := by
  induction records with
  | nil => rfl
  | cons r rest ih => exact ih

def deviceCalls (events : List (Event GraphicsCall)) : List GraphicsCall :=
  events.filterMap Event.call?

@[simp] theorem deviceCalls_append (xs ys : List (Event GraphicsCall)) :
    deviceCalls (xs ++ ys) = deviceCalls xs ++ deviceCalls ys :=
  List.filterMap_append

@[simp] theorem deviceCalls_logs (records : List LogRecord) :
    deviceCalls (records.map .log) = [] :=
  Event.filterMap_call?_logs records

theorem deviceCalls_calls (calls : List GraphicsCall) : deviceCalls (calls.map .call) = calls :=
  Event.filterMap_call?_calls calls

theorem mem_deviceCalls {events : List (Event GraphicsCall)} {c : GraphicsCall} :
    c ∈ deviceCalls events ↔ .call c ∈ events := by
  rw [deviceCalls, List.mem_filterMap]
  constructor
  · rintro ⟨e, he, hc⟩
    cases e with
    | call c' =>
        obtain rfl := Option.some.inj hc
        exact he
    | log r => cases hc
  · intro he
    exact ⟨_, he, rfl⟩

/-- The pass draws into the attachments of the target. -/
structure PassDescription.Into (target : RenderTarget) (description : PassDescription) :
    Prop where
  color : description.colors.map ColorAttachment.view = [target.colorView]
  stencil : description.depthStencil.map DepthStencilAttachment.view = target.stencilView

/-- A call of someone who paints the target on a device as it was at first. -/
def GraphicsCall.Paints (target : RenderTarget) (d : Device) : GraphicsCall → Prop
  | .createTexture texture _ => d.created .texture ≤ texture.number
  | .createView view _ => d.created .view ≤ view.number
  | .beginRenderPass _ description => description.Into target
  | .configure _ | .getCurrentTexture _ | .createCommandEncoder _ _ | .finish _ | .submit _
  | .present _ | .discard _ => False
  | _ => True

structure Painted (target : RenderTarget) (d d' : Device) (calls : List GraphicsCall) : Prop where
  counts : ∀ kind, d.created kind ≤ d'.created kind
  paints : ∀ c ∈ calls, c.Paints target d

section Painted

variable {target : RenderTarget} {d d' d'' : Device} {calls calls' : List GraphicsCall}

theorem GraphicsCall.Paints.mono {c : GraphicsCall} (h : c.Paints target d')
    (hcounts : ∀ kind, d.created kind ≤ d'.created kind) : c.Paints target d := by
  cases c with
  | createTexture texture description => exact Nat.le_trans (hcounts _) h
  | createView view source => exact Nat.le_trans (hcounts _) h
  | _ => exact h

theorem Painted.nil (d : Device) : Painted target d d [] :=
  ⟨fun _ => Nat.le_refl _, fun _ hmem => absurd hmem List.not_mem_nil⟩

theorem Painted.append (h : Painted target d d' calls) (h' : Painted target d' d'' calls') :
    Painted target d d'' (calls ++ calls') := by
  refine ⟨fun kind => Nat.le_trans (h.counts kind) (h'.counts kind), ?_⟩
  intro c hc
  rcases List.mem_append.mp hc with hc | hc
  · exact h.paints c hc
  · exact (h'.paints c hc).mono h.counts

theorem Painted.singleton {c : GraphicsCall} (hcounts : ∀ kind, d.created kind ≤ d'.created kind)
    (hc : c.Paints target d) : Painted target d d' [c] := by
  refine ⟨hcounts, fun c' hc' => ?_⟩
  obtain rfl := List.mem_singleton.mp hc'
  exact hc

end Painted

theorem Device.created_le_grow (d : Device) (kind k : ObjectKind) :
    d.created k ≤ (d.grow kind).created k := by
  show d.created k ≤ if k = kind then d.created k + 1 else d.created k
  split <;> omega

/-- Painting, as a relation along effects of the device. -/
def PaintedBy (target : RenderTarget) (d d' : Device) (events : List (Event GraphicsCall)) : Prop :=
  Painted target d d' (deviceCalls events)

theorem painted_sequential (target : RenderTarget) : Effect.Sequential (PaintedBy target) where
  refl := Painted.nil
  trans h h' := by
    unfold PaintedBy
    rw [deviceCalls_append]
    exact h.append h'

namespace Graphics

variable {target : RenderTarget}

theorem keeps_create (kind : ObjectKind) {call : ObjectId kind → GraphicsCall}
    (hcall : ∀ d : Device, (call ⟨d.created kind⟩).Paints target d) :
    (create kind call).Keeps (PaintedBy target) :=
  Effect.keeps_of_run (run_create kind call)
    fun d => .singleton (d.created_le_grow kind) (hcall d)

theorem keeps_tell {call : GraphicsCall} (hcall : ∀ d, call.Paints target d) :
    (tell call : Graphics Unit).Keeps (PaintedBy target) :=
  Effect.keeps_of_run (run_tell call) fun d => .singleton (fun _ => Nat.le_refl _) (hcall d)

theorem keeps_logAll (records : List LogRecord) :
    (logAll records : Graphics Unit).Keeps (PaintedBy target) := by
  refine Effect.keeps_of_run (fun _ => rfl) fun d => ?_
  unfold PaintedBy
  rw [deviceCalls_logs]
  exact .nil d

theorem keeps_createFilledBuffer (label : String) (usage : Nat) (contents : List UInt8) :
    (createFilledBuffer label usage contents).Keeps (PaintedBy target) := by
  have hR := painted_sequential target
  refine hR.bind (keeps_create .buffer fun _ => trivial) fun buffer => ?_
  dsimp only
  split
  · exact hR.bind (keeps_tell fun _ => trivial) fun _ => hR.pure _
  · exact hR.pure _

end Graphics

/-! ## Programs and textures -/

section

variable {target : RenderTarget}

theorem SpriteTexture.keeps_create (width height : UInt32) (pixels : List UInt8) :
    (create width height pixels).Keeps (PaintedBy target) := by
  have hR := painted_sequential target
  unfold create
  split
  · exact hR.pure _
  refine hR.bind (hR.lift _) fun expected => ?_
  split
  · exact hR.pure _
  refine hR.bind (Graphics.keeps_create .texture fun _ => Nat.le_refl _) fun texture => ?_
  refine hR.bind (hR.lift _) fun bytesPerRow => ?_
  refine hR.bind (Graphics.keeps_tell fun _ => trivial) fun _ => ?_
  exact hR.bind (Graphics.keeps_create .view fun _ => Nat.le_refl _) fun view => hR.pure _

namespace SpriteProgram

theorem keeps_createTextureGroup (layout : ObjectId .layout) (sampler : ObjectId .sampler)
    (texture : SpriteTexture) :
    (createTextureGroup layout sampler texture).Keeps (PaintedBy target) :=
  Graphics.keeps_create .group fun _ => trivial

theorem keeps_compile (formats : TargetFormats) (source : ShaderSource) :
    (compile formats source).Keeps (PaintedBy target) := by
  have hR := painted_sequential target
  unfold compile
  split
  · exact hR.pure _
  refine hR.bind (Graphics.keeps_create .shader fun _ => trivial) fun _ => ?_
  refine hR.bind (Graphics.keeps_create .layout fun _ => trivial) fun globalsLayout => ?_
  refine hR.bind (Graphics.keeps_create .layout fun _ => trivial) fun textureLayout => ?_
  refine hR.bind (Graphics.keeps_create .pipelineLayout fun _ => trivial) fun layout => ?_
  refine hR.bind (Graphics.keeps_create .pipeline fun _ => trivial) fun overPipeline => ?_
  refine hR.bind (Graphics.keeps_create .pipeline fun _ => trivial) fun additivePipeline => ?_
  refine hR.bind (Graphics.keeps_create .sampler fun _ => trivial) fun sampler => ?_
  refine hR.bind (SpriteTexture.keeps_create _ _ _) fun white => ?_
  split
  · exact hR.pure _
  · exact hR.bind (keeps_createTextureGroup _ _ _) fun _ => hR.pure _

theorem keeps_createGlobals (p : SpriteProgram) (projection : Projection) :
    (p.createGlobals projection).Keeps (PaintedBy target) :=
  (painted_sequential target).bind (Graphics.keeps_createFilledBuffer _ _ _) fun _ =>
    Graphics.keeps_create .group fun _ => trivial

theorem keeps_textureGroup (p : SpriteProgram) (texture : SpriteTexture) :
    (p.textureGroup texture).Keeps (PaintedBy target) := by
  have hR := painted_sequential target
  refine Effect.keeps_get_bind fun d => ?_
  split
  · exact hR.pure _ d
  · have hmodify : ∀ g : ObjectId .group, (Effect.modify fun d : Device =>
        { d with textureGroups := (texture.texture, g) :: d.textureGroups }).Keeps
          (PaintedBy target) := fun g =>
      Effect.keeps_of_run (Effect.run_modify _) fun d =>
        ⟨fun _ => Nat.le_refl _, fun _ hmem => absurd hmem List.not_mem_nil⟩
    exact hR.bind (keeps_createTextureGroup _ _ _) (fun g =>
      hR.bind (hmodify g) fun _ => hR.pure _) d

end SpriteProgram

end

/-! ## Frames -/

namespace SpritePass

/-- Painting, as a relation along effects on a frame; the target stays. -/
structure PaintedOn (s s' : SpritePass) (events : List (Event GraphicsCall)) : Prop where
  target : s'.target = s.target
  painted : PaintedBy s.target s.device s'.device events

theorem paintedOn_sequential : Effect.Sequential PaintedOn where
  refl _ := ⟨rfl, .nil _⟩
  trans h h' :=
    ⟨h'.target.trans h.target,
      (painted_sequential _).trans h.painted (h.target ▸ h'.painted)⟩

theorem keepsFrom_onDevice {α : Type} {x : Graphics α} {s : SpritePass}
    (hx : x.KeepsFrom (PaintedBy s.target) s.device) : (onDevice x).KeepsFrom PaintedOn s := by
  intro out ran
  obtain ⟨inner, hinner, rfl⟩ := Effect.run_zoom_eq_ok_iff.mp ran
  exact ⟨rfl, hx inner hinner⟩

/-- A change of the frame that is neither of its device nor of its target. -/
theorem keeps_modify {f : SpritePass → SpritePass} (htarget : ∀ s, (f s).target = s.target)
    (hdevice : ∀ s, (f s).device = s.device) : (Effect.modify f).Keeps PaintedOn :=
  Effect.keeps_of_run (Effect.run_modify f) fun s =>
    ⟨htarget s, by rw [show (f s).device = s.device from hdevice s]; exact .nil _⟩

theorem keeps_encode {target : RenderTarget} {description : PassDescription}
    (hinto : description.Into target) (calls : List PassCall) :
    (encode description calls).Keeps (PaintedBy target) := by
  have hR := painted_sequential target
  refine hR.bind (Graphics.keeps_create .pass fun _ => hinto) fun pass =>
    hR.bind ?_ fun _ => Graphics.keeps_tell fun _ => trivial
  refine Effect.keeps_of_run (Effect.run_emitAll _) fun d => ⟨fun _ => Nat.le_refl _, ?_⟩
  intro c hc
  obtain ⟨call, -, hcall⟩ := List.mem_map.mp (mem_deviceCalls.mp hc)
  obtain rfl := Event.call.inj hcall
  trivial

theorem stencil_depthStencil (target : RenderTarget) (depth : LoadOp Binary32)
    (stencil : LoadOp UInt32) :
    (depthStencil target depth stencil).map DepthStencilAttachment.view = target.stencilView := by
  unfold depthStencil
  cases target.stencilView <;> rfl

theorem into_clearPass (target : RenderTarget) (color : Rgba Binary32) (stencil : UInt32) :
    (clearPass target color stencil).Into target :=
  ⟨rfl, stencil_depthStencil target _ _⟩

theorem into_batchPass (target : RenderTarget) : (batchPass target).Into target :=
  ⟨rfl, stencil_depthStencil target _ _⟩

theorem keeps_encodeBatches (target : RenderTarget) (ops : Array PassOp) (program : SpriteProgram)
    (globals : ObjectId .group) (geometry : Geometry) :
    (encodeBatches target ops program globals geometry).Keeps (PaintedBy target) := by
  have hR := painted_sequential target
  unfold encodeBatches
  split
  · exact hR.bind (hR.lift _) fun _ => keeps_encode (into_batchPass target) _
  · exact hR.pure _

theorem keeps_release : release.Keeps PaintedOn := by
  refine Effect.keeps_get_bind fun s => ?_
  -- What is encoded was taken from `s`, but the device it is told to is that of the emptied pass.
  let s' : SpritePass := { s with geometry := none, program := none, globals := none, ops := #[] }
  refine paintedOn_sequential.bindFrom (x := Effect.set s') ?_ ?_
  · intro out ran
    obtain rfl := Except.ok.inj ran
    exact ⟨rfl, .nil _⟩
  · intro mid ran
    obtain rfl := Except.ok.inj ran
    split
    · exact keepsFrom_onDevice (keeps_encodeBatches _ _ _ _ _ _)
    · exact paintedOn_sequential.pure _ _

theorem keeps_performDrawing (command : DrawCommand SpriteTexture) :
    (performDrawing command).Keeps PaintedOn := by
  have hR := paintedOn_sequential
  have hnote : ∀ op, (Effect.modify (·.note op)).Keeps PaintedOn :=
    fun _ => keeps_modify (fun _ => rfl) fun _ => rfl
  cases command with
  | scissorRect clip =>
      refine keeps_modify (fun s => ?_) fun s => ?_
      · dsimp only
        split <;> rfl
      · dsimp only
        split <;> rfl
  | bindTexture texture =>
      refine Effect.keeps_get_bind fun s => ?_
      split
      · exact hR.pure _ s
      · refine hR.bindFrom (keepsFrom_onDevice ?_) fun mid _ => hnote _ _
        cases texture with
        | none => exact (painted_sequential _).pure _ _
        | some t => exact SpriteProgram.keeps_textureGroup _ t _
  | blend func => exact hnote _
  | draw first count => exact hR.bind (hR.lift _) fun _ => hnote _

theorem keeps_perform (command : Command SpriteProgram SpriteTexture) :
    (perform command).Keeps PaintedOn := by
  have hR := paintedOn_sequential
  cases command with
  | stencilTest on =>
      show (if on then Graphics.log stencilIgnored else pure ()).Keeps PaintedOn
      split
      · exact Effect.keeps_of_run (Effect.run_emit _) fun s => ⟨rfl, .nil _⟩
      · exact hR.pure _
  | scissorTest on => exact keeps_modify (fun _ => rfl) fun _ => rfl
  | clear color stencil =>
      exact Effect.keeps_get_bind fun s =>
        keepsFrom_onDevice (keeps_encode (into_clearPass s.target color stencil) [] _)
  | useProgram program projection =>
      intro s
      refine hR.bindFrom (keepsFrom_onDevice (program.keeps_createGlobals projection _))
        fun mid _ => ?_
      refine keeps_modify ?_ ?_ _ <;> exact fun _ => rfl
  | drawing command => exact keeps_performDrawing command
  | releaseGeometry => exact keeps_release

theorem keeps_compile (source : ShaderSource) : (compile source).Keeps PaintedOn :=
  Effect.keeps_get_bind fun _ => keepsFrom_onDevice (SpriteProgram.keeps_compile _ source _)

theorem keeps_upload (vertices : List Vertex) (indices : List UInt16) :
    (upload vertices indices).Keeps PaintedOn := by
  have hR := paintedOn_sequential
  have hbuffer : ∀ label usage contents,
      (onDevice (Graphics.createFilledBuffer label usage contents)).Keeps PaintedOn :=
    fun _ _ _ s => keepsFrom_onDevice (Graphics.keeps_createFilledBuffer _ _ _ _)
  refine hR.bind (hbuffer _ _ _) fun vertexBuffer => hR.bind (hbuffer _ _ _) fun indexBuffer => ?_
  exact hR.bind (keeps_modify (fun _ => rfl) fun _ => rfl) fun _ => hR.pure _

end SpritePass

/-! ## Renderers -/

section

variable {ε σ P T : Type} {R : σ → σ → List ε → Prop} {B : Backend ε σ P T}

theorem Backend.keeps_performAll (hR : Effect.Sequential R) {commands : List (Command P T)}
    (hperform : ∀ c ∈ commands, (B.perform c).Keeps R) : (B.performAll commands).Keeps R := by
  induction commands with
  | nil => exact hR.pure ()
  | cons c rest ih =>
      exact hR.bind (hperform c List.mem_cons_self) fun _ =>
        ih fun c' hc' => hperform c' (List.mem_cons_of_mem _ hc')

theorem Renderer.keeps_prepare (hR : Effect.Sequential R) {r : Renderer P T}
    (hheader : ∀ c ∈ r.header, (B.perform c).Keeps R)
    (hcompile : ∀ source, (B.compile source).Keeps R) : (prepare B r).Keeps R := by
  refine hR.bind (Backend.keeps_performAll hR hheader) fun _ => Effect.keeps_get_bind fun s => ?_
  refine hR.bindFrom ?_ fun mid _ => hR.pure _ _
  unfold ShaderCache.ensureCompiled
  split
  · exact hR.pure _ s
  · exact hR.bind (hcompile _) (fun _ => hR.pure _) s

/-- What a device keeps at every request, it keeps over every frame. -/
theorem Renderer.FrameCourse.keeps {r : Renderer P T} {frame : FrameData} {s : σ}
    {out : Ran ε σ (FrameRun P T)} (course : FrameCourse B r frame s out)
    (hR : Effect.Sequential R) (hperform : ∀ c, (B.perform c).Keeps R)
    (hcompile : ∀ source, (B.compile source).Keeps R)
    (hupload : ∀ vertices indices, (B.upload vertices indices).Keeps R) :
    R s out.state out.events := by
  have hall : ∀ commands, (B.performAll commands).Keeps R :=
    fun _ => Backend.keeps_performAll hR fun c _ => hperform c
  have hprepare : (prepare B r).Keeps R := keeps_prepare hR (fun c _ => hperform c) hcompile
  cases course with
  | empty _ cleared => exact hall _ _ _ cleared
  | unprogrammed _ prepared _ => exact hprepare _ _ prepared
  | rejected _ prepared _ _ => exact hprepare _ _ prepared
  | refused _ prepared _ _ uploaded released =>
      exact hR.trans (hprepare _ _ prepared)
        (hR.trans (hupload _ _ _ _ uploaded) (hperform _ _ _ released))
  | drawn _ prepared _ _ uploaded _ performed =>
      exact hR.trans (hprepare _ _ prepared)
        (hR.trans (hupload _ _ _ _ uploaded) (hall _ _ _ performed))

end

/-- Rendering a frame paints the target. -/
theorem DeviceRenderer.keeps_render (r : DeviceRenderer) (target : RenderTarget)
    (frame : FrameData) : (r.render target frame).Keeps (PaintedBy target) := by
  have hR := painted_sequential target
  refine hR.bind ?_ fun run => hR.bind (Graphics.keeps_logAll _) fun _ => hR.pure _
  intro d out ran
  obtain ⟨inner, hinner, rfl⟩ := Effect.run_zoom_eq_ok_iff.mp ran
  exact ((Renderer.frameCourse_of_run hinner).keeps SpritePass.paintedOn_sequential
    SpritePass.keeps_perform SpritePass.keeps_compile SpritePass.keeps_upload).painted

/-- Rendering is the frame on a fresh pass, and its notices. -/
theorem DeviceRenderer.run_render_of_ok {r : DeviceRenderer} {target : RenderTarget}
    {frame : FrameData} {d : Device}
    {out : Ran (Event GraphicsCall) SpritePass (Renderer.FrameRun SpriteProgram SpriteTexture)}
    (ran : (Renderer.renderFrame SpritePass.backend r frame).run (.start d target) = .ok out) :
    (r.render target frame).run d = .ok ⟨(out.value.renderer, out.value.outcome), out.state.device,
      out.events ++ (out.value.notices.map RenderNotice.record).map .log⟩ := by
  have hzoom : ((Renderer.renderFrame SpritePass.backend r frame).zoom
      (SpritePass.start · target) fun pass _ => pass.device).run d
      = .ok ⟨out.value, out.state.device, out.events⟩ := by
    rw [Effect.run_zoom, ran]
  simp [render, hzoom, Graphics.logAll]

/-! ## Frames of a surface -/

/-- The frame that a device gives out next. -/
def Device.nextFrame (d : Device) : SurfaceFrame :=
  ⟨⟨d.created .frame⟩, ⟨d.created .view⟩, ⟨d.created .encoder⟩⟩

/-- The device when it has given out that frame. -/
def Device.withFrame (d : Device) : Device := ((d.grow .frame).grow .view).grow .encoder

namespace SurfaceFrame

def acquireCalls (f : SurfaceFrame) : List GraphicsCall :=
  [.getCurrentTexture f.frame, .createView f.view (.frame f.frame),
    .createCommandEncoder f.encoder "drawbatch frame encoder"]

def presentCalls (f : SurfaceFrame) : List GraphicsCall :=
  [.finish f.encoder, .submit [f.encoder], .present f.frame]

theorem run_submit (f : SurfaceFrame) (d : Device) :
    f.submit.run d = .ok ⟨(), d, f.presentCalls.map .call⟩ := rfl

end SurfaceFrame

namespace GpuContext

/-- What is said to a surface that refused a frame. -/
def recoveryCalls (g : GpuContext) (e : SurfaceError) : List GraphicsCall :=
  if e.action = .reconfigured ∧ g.size.hasArea then [.configure g.config] else []

theorem run_handleError (g : GpuContext) (e : SurfaceError) (d : Device) :
    (g.handleError e).run d
      = .ok ⟨e.action, d, (g.recoveryCalls e).map .call ++ [.log e.record]⟩ := by
  unfold handleError recoveryCalls
  by_cases h : e.action = .reconfigured ∧ g.size.hasArea
  · rw [if_pos h, if_pos h]
    rfl
  · rw [if_neg h, if_neg h]
    rfl

theorem run_beginFrame_of_error {status : AcquireStatus} {e : SurfaceError}
    (refused : status.error? = some e) (d : Device) :
    (beginFrame status).run d
      = .ok ⟨.error e, d.grow .frame, [.call (.getCurrentTexture ⟨d.created .frame⟩)]⟩ := by
  simp [beginFrame, refused]

theorem run_beginFrame_of_none {status : AcquireStatus} (granted : status.error? = none)
    (d : Device) :
    (beginFrame status).run d
      = .ok ⟨.ok d.nextFrame, d.withFrame, d.nextFrame.acquireCalls.map .call⟩ := by
  simp [beginFrame, granted, Device.nextFrame, Device.withFrame, SurfaceFrame.acquireCalls,
    Device.grow]

end GpuContext

/-! ## Drawing on a screen -/

def CanvasCall.graphics? : CanvasCall → Option GraphicsCall
  | .graphics c => some c
  | _ => none

def canvasCalls (events : List (Event CanvasCall)) : List CanvasCall := events.filterMap Event.call?

@[simp] theorem canvasCalls_append (xs ys : List (Event CanvasCall)) :
    canvasCalls (xs ++ ys) = canvasCalls xs ++ canvasCalls ys :=
  List.filterMap_append

@[simp] theorem canvasCalls_logs (records : List LogRecord) :
    canvasCalls (records.map .log) = [] :=
  Event.filterMap_call?_logs records

@[simp] theorem canvasCalls_nil : canvasCalls [] = [] := rfl

@[simp] theorem canvasCalls_call (c : CanvasCall) (rest : List (Event CanvasCall)) :
    canvasCalls (.call c :: rest) = c :: canvasCalls rest := rfl

@[simp] theorem canvasCalls_log (r : LogRecord) (rest : List (Event CanvasCall)) :
    canvasCalls (.log r :: rest) = canvasCalls rest := rfl

theorem canvasCalls_calls (calls : List CanvasCall) : canvasCalls (calls.map .call) = calls :=
  Event.filterMap_call?_calls calls

@[simp] theorem canvasCalls_said (calls : List GraphicsCall) :
    canvasCalls (calls.map (Event.call ∘ CanvasCall.graphics)) = calls.map .graphics := by
  rw [← List.map_map, canvasCalls_calls]

/-- What a device hears is said on the canvas. -/
@[simp] theorem canvasCalls_device (events : List (Event GraphicsCall)) :
    canvasCalls (events.map (Event.map .graphics)) = (deviceCalls events).map .graphics := by
  induction events with
  | nil => rfl
  | cons e rest ih =>
      cases e with
      | call c => exact congrArg (.graphics c :: ·) ih
      | log r => exact ih

@[simp] theorem filterMap_graphics? (calls : List GraphicsCall) :
    calls.filterMap (CanvasCall.graphics? ∘ CanvasCall.graphics) = calls :=
  List.filterMap_some

/-- Painting, as a relation along effects of drawing. -/
def PaintedCanvas (target : RenderTarget) (s s' : Screen) (events : List (Event CanvasCall)) :
    Prop :=
  Painted target s.device s'.device ((canvasCalls events).filterMap CanvasCall.graphics?)

theorem paintedCanvas_sequential (target : RenderTarget) :
    Effect.Sequential (PaintedCanvas target) where
  refl _ := .nil _
  trans h h' := by
    unfold PaintedCanvas
    rw [canvasCalls_append, List.filterMap_append]
    exact h.append h'

theorem Screen.keeps_onDevice {target : RenderTarget} {α : Type} {x : Graphics α}
    (hx : x.Keeps (PaintedBy target)) : (Screen.onDevice x).Keeps (PaintedCanvas target) := by
  intro s out ran
  rw [Screen.run_onDevice] at ran
  cases hinner : x.run s.device with
  | error e =>
      rw [hinner] at ran
      cases ran
  | ok inner =>
      rw [hinner] at ran
      obtain rfl := Except.ok.inj ran
      unfold PaintedCanvas
      rw [canvasCalls_device, List.filterMap_map, filterMap_graphics?]
      exact hx s.device inner hinner

/-- A packed frame is painted on its target. -/
theorem FrameContext.keeps_paintFrame (frame : FrameData) (target : RenderTarget)
    (renderer : DeviceRenderer) :
    (paintFrame frame target renderer).Keeps (PaintedCanvas target) := by
  have hR := paintedCanvas_sequential target
  refine hR.bind (Screen.keeps_onDevice (renderer.keeps_render target frame)) fun rendered => ?_
  refine hR.bind ?_ fun _ => hR.pure _
  refine Effect.keeps_of_run (Effect.run_emitAll _) fun s => ?_
  unfold PaintedCanvas
  rw [canvasCalls_logs]
  exact .nil _

/-- The screen when the next frame has been given out. -/
def Screen.withFrame (s : Screen) : Screen := ⟨s.device.withFrame, s.statuses.tail⟩

def Screen.status (s : Screen) : AcquireStatus := s.statuses.headD .good

namespace FrameContext

variable {β : Type} (c : FrameContext) (state : β)
  (paint : RenderTarget → β → OnScreen (β × Outcome)) {s : Screen}

theorem run_draw_of_no_area (empty : c.gpu.size.hasArea = false) (s : Screen) :
    (c.draw state paint).run s = .ok ⟨(state, .ok .proceed), s, []⟩ := by
  simp [draw, empty]

theorem run_draw_of_refused {e : SurfaceError} (area : c.gpu.size.hasArea = true)
    (refused : s.status.error? = some e) :
    (c.draw state paint).run s = .ok ⟨(state, skipped e.action),
      ⟨s.device.grow .frame, s.statuses.tail⟩,
      (.graphics (.getCurrentTexture ⟨s.device.created .frame⟩)
        :: (c.gpu.recoveryCalls e).map CanvasCall.graphics).map .call ++ [.log e.record]⟩ := by
  have hbegin := GpuContext.run_beginFrame_of_error refused s.device
  unfold Screen.status at hbegin
  simp only [draw, area, if_true, Screen.nextStatus, Effect.run_bind, Effect.run_get,
    Effect.run_set, Effect.run_pure, Screen.run_onDevice, hbegin, GpuContext.run_handleError]
  simp [Event.map]

theorem run_draw_of_granted (area : c.gpu.size.hasArea = true)
    (granted : s.status.error? = none) :
    (c.draw state paint).run s =
      match (paint (c.gpu.target s.device.nextFrame) state).run s.withFrame with
      | .error e => .error e
      | .ok out => .ok ⟨(out.value.1,
          out.value.2.mapError (·.during (.drawingFrame c.time.frameIndex))), out.state,
          (s.device.nextFrame.acquireCalls.map CanvasCall.graphics).map .call ++ (out.events
            ++ (.prePresentNotify
              :: s.device.nextFrame.presentCalls.map CanvasCall.graphics).map .call)⟩ := by
  have hbegin := GpuContext.run_beginFrame_of_none granted s.device
  unfold Screen.status at hbegin
  have hscreen : ({ device := s.device.withFrame, statuses := s.statuses.tail } : Screen)
      = s.withFrame := rfl
  simp only [draw, area, if_true, Screen.nextStatus, Effect.run_bind, Effect.run_get,
    Effect.run_set, Effect.run_pure, Screen.run_onDevice, hbegin, hscreen]
  cases (paint (c.gpu.target s.device.nextFrame) state).run s.withFrame with
  | error e => rfl
  | ok out =>
      have hsaid : Event.map CanvasCall.graphics ∘ Event.call = Event.call ∘ CanvasCall.graphics :=
        rfl
      simp [SurfaceFrame.run_submit, hsaid]

/-- Painting a packed frame, from a run of its rendering. -/
theorem run_paintFrame_of_ok {frame : FrameData} {target : RenderTarget} {r : DeviceRenderer}
    {out : Ran (Event GraphicsCall) Device (DeviceRenderer × Except RenderError FrameStats)}
    (ran : (r.render target frame).run s.device = .ok out) :
    (paintFrame frame target r).run s = .ok ⟨(out.value.1, (frameOutcome out.value.2).1),
      { s with device := out.state },
      out.events.map (Event.map .graphics) ++ (frameOutcome out.value.2).2.map .log⟩ := by
  simp [paintFrame, Screen.run_onDevice, ran, Graphics.logAll]

/-- As long as the frame counter has room, a packed frame can be rendered. -/
theorem exists_run_render {r : DeviceRenderer} (hcount : r.frameCount < 2 ^ 64 - 1)
    (frame : FrameData) (s : Screen) : ∃ out, (c.render r frame).run s = .ok out := by
  cases area : c.gpu.size.hasArea with
  | false => exact ⟨_, c.run_draw_of_no_area r _ area s⟩
  | true =>
      cases hstatus : s.status.error? with
      | some e => exact ⟨_, c.run_draw_of_refused r _ area hstatus⟩
      | none =>
          obtain ⟨run, hrun⟩ := SpritePass.exists_run_frame hcount frame s.withFrame.device
            (c.gpu.target s.device.nextFrame)
          have hpaint := run_paintFrame_of_ok (DeviceRenderer.run_render_of_ok hrun)
          unfold render
          rw [c.run_draw_of_granted r _ area hstatus, hpaint]
          exact ⟨_, rfl⟩

end FrameContext

end SpriteRenderer

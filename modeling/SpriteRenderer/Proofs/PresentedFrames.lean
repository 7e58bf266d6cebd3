import SpriteRenderer.Proofs.CallProtocol
import SpriteRenderer.Proofs.Painting
import SpriteRenderer.Proofs.PassReplay

/-!
# Every acquired frame is presented

A frame of a surface that was acquired has to be cleared, submitted and
presented, whatever became of the drawing. `Presented` writes out all that is
said from the one to the other: a pass that clears, what is made in preparation,
at most one pass that draws, and the handover. What is made in preparation is
not listed, but it cannot be a pass, and nothing in it is said to the surface
or the queue (`GraphicsCall.isPreparation`).

There is a pass that draws exactly if the frame was rendered and has draws
(`exists_passes`).
-/

namespace SpriteRenderer

/-- A call that makes or fills an object. -/
def GraphicsCall.isPreparation : GraphicsCall → Bool
  | .beginRenderPass _ _ | .inPass _ | .endPass _ | .configure _ | .getCurrentTexture _
  | .createCommandEncoder _ _ | .finish _ | .submit _ | .present _ | .discard _ => false
  | _ => true

theorem GraphicsCall.Paints.isPreparation {target : RenderTarget} {d : Device} {c : GraphicsCall}
    (paints : c.Paints target d) (off : Event.offPass (.call c) = true) :
    c.isPreparation = true := by
  cases c with
  | beginRenderPass _ _ | inPass _ | endPass _ => cases off
  | configure _ | getCurrentTexture _ | createCommandEncoder _ _ | finish _ | submit _ | present _
  | discard _ => exact paints.elim
  | _ => rfl

/-- A whole pass as a list of calls. -/
def passOf (pass : ObjectId .pass) (description : PassDescription) (inside : List PassCall) :
    List GraphicsCall :=
  .beginRenderPass pass description :: inside.map .inPass ++ [.endPass pass]

theorem deviceCalls_passEvents (pass : ObjectId .pass) (description : PassDescription)
    (inside : List PassCall) :
    deviceCalls (SpritePass.passEvents pass description inside)
      = passOf pass description inside := by
  have hinside : deviceCalls (inside.map fun call => .call (.inPass call))
      = inside.map GraphicsCall.inPass := by
    rw [← deviceCalls_calls (inside.map GraphicsCall.inPass), List.map_map]
    rfl
  show .beginRenderPass pass description :: deviceCalls (_ ++ _) = _
  rw [deviceCalls_append, hinside]
  rfl

/-! ## Draws -/

/-- The frame was rendered, and something was drawn. -/
def Drew (result : Except RenderError FrameStats) : Prop :=
  ∃ stats, result = .ok stats ∧ 0 < stats.drawCalls

namespace SpritePass

theorem any_isDraw_recorded (p : SpriteProgram) (d : Device) (test : Bool)
    (commands : List (DrawCommand SpriteTexture)) :
    (commands.flatMap (recorded p d test)).any PassOp.isDraw = true
      ↔ ∃ first count, .draw first count ∈ commands := by
  rw [List.any_eq_true]
  constructor
  · rintro ⟨op, hop, hdraw⟩
    obtain ⟨command, hcommand, hop⟩ := List.mem_flatMap.mp hop
    cases command with
    | draw first count => exact ⟨first, count, hcommand⟩
    | scissorRect clip =>
        simp only [recorded] at hop
        split at hop
        · obtain rfl := List.mem_singleton.mp hop
          cases hdraw
        · cases hop
    | bindTexture texture =>
        obtain ⟨g, -, rfl⟩ := List.mem_map.mp hop
        cases hdraw
    | blend func =>
        obtain rfl := List.mem_singleton.mp hop
        cases hdraw
  · rintro ⟨first, count, hmem⟩
    exact ⟨_, List.mem_flatMap.mpr ⟨_, hmem, List.mem_singleton.mpr rfl⟩, rfl⟩

theorem any_isDraw_switchOps (on : Bool) (rect : Clip) :
    (switchOps on rect).any PassOp.isDraw = false := by
  cases on <;> rfl

/-- Draws are counted one for each draw. -/
theorem exists_draw_iff {c : DrawContext SpriteTexture} {warned : Bool} {batches : List Batch}
    {done : Execution SpriteTexture} (executed : c.execute warned batches = .ok done) :
    (∃ first count, .draw first count ∈ done.commands) ↔ 0 < done.stats.drawCalls := by
  obtain ⟨groups, hcommands, hcount⟩ := DrawContext.exists_groups_execute executed
  rw [hcommands, hcount]
  cases groups with
  | nil => simp
  | cons g rest =>
      refine ⟨fun _ => Nat.succ_pos _, fun _ => ⟨g.first, g.count, ?_⟩⟩
      simp [BatchGroup.commands]

variable {r : DeviceRenderer} {device : Device} {target : RenderTarget} {frame : FrameData}
  {out : Ran (Event GraphicsCall) SpritePass (Renderer.FrameRun SpriteProgram SpriteTexture)}

/-- The passes of a frame: one that clears and, if anything is drawn, one more. -/
theorem exists_passes
    (h : (Renderer.renderFrame backend r frame).run (start device target) = .ok out) :
    ∃ mid batches, out.events = passEvents ⟨device.created .pass⟩
          (clearPass target r.config.clearColor 0) [] ++ (mid ++ batches)
      ∧ (∀ e ∈ mid, e.offPass = true)
      ∧ (Drew out.value.outcome →
        ∃ pass inside, batches = passEvents pass (batchPass target) inside)
      ∧ (¬ Drew out.value.outcome → batches = []) := by
  have failed : ∀ e : RenderError, ¬ Drew (.error e) := by
    rintro e ⟨stats, hstats, -⟩
    cases hstats
  cases Renderer.frameCourse_of_run h with
  | empty _ cleared =>
      rw [run_header] at cleared
      obtain ⟨-, rfl⟩ : _ ∧ passEvents _ _ [] = _ := by simpa using cleared
      refine ⟨[], [], by simp, by simp, ?_, fun _ => rfl⟩
      rintro ⟨stats, hstats, hpos⟩
      obtain rfl := Except.ok.inj hstats
      exact absurd hpos (Nat.lt_irrefl _)
  | unprogrammed _ prepared _ =>
      obtain ⟨-, d₁, events₁, -, rfl, -, off₁, -⟩ := of_run_prepare prepared
      exact ⟨events₁, [], by simp, off₁, fun drew => absurd drew (failed _), fun _ => rfl⟩
  | rejected _ prepared _ _ =>
      obtain ⟨-, d₁, events₁, -, rfl, -, off₁, -⟩ := of_run_prepare prepared
      exact ⟨events₁, [], by simp, off₁, fun drew => absurd drew (failed _), fun _ => rfl⟩
  | refused something prepared _ accepted uploaded _ =>
      -- A sprite device takes every upload.
      obtain ⟨-, d₁, events₁, rfl, -⟩ := of_run_prepare prepared
      obtain ⟨hvertices, hindices⟩ := Renderer.ne_nil_of_accept accepted something
      obtain ⟨d₂, g, events₂, hupload, -⟩ :=
        exists_run_upload hvertices hindices (cleared d₁ target)
      rw [hupload] at uploaded
      cases uploaded
  | @drawn viewport lookup s₁ s₂ s₃ e₁ e₂ e₃ p d done something prepared programmed accepted
      uploaded executed performed =>
      obtain ⟨hvertices, hindices⟩ := Renderer.ne_nil_of_accept accepted something
      obtain ⟨rfl, d₁, events₁, rfl, rfl, -, off₁, -⟩ := of_run_prepare prepared
      obtain ⟨d₂, g, events₂, hupload, -, off₂, -, hv, hi⟩ :=
        exists_run_upload hvertices hindices (cleared d₁ target)
      rw [hupload] at uploaded
      obtain ⟨rfl, rfl⟩ : _ = s₂ ∧ events₂ = e₂ := by simpa using uploaded
      obtain ⟨s₃', uniform, globals, pass, events₃, hbody, -, off₃, -⟩ :=
        exists_run_body_of_accept accepted executed p
          (s := { cleared d₁ target with device := d₂, geometry := some g }) rfl hv hi rfl
      rw [hbody] at performed
      obtain ⟨rfl, rfl⟩ : s₃' = s₃ ∧ _ = e₃ := by simpa using performed
      let ops : List PassOp := [.scissor none] ++ switchOps r.config.applyScissor ⟨0, 0, 0, 0⟩
        ++ done.commands.flatMap (recorded p s₃'.device r.config.applyScissor)
      have hany : ops.any PassOp.isDraw = true ↔ 0 < done.stats.drawCalls := by
        rw [← exists_draw_iff executed, ← any_isDraw_recorded p s₃'.device r.config.applyScissor]
        simp only [ops, List.any_append, any_isDraw_switchOps]
        simp [PassOp.isDraw]
      have hdrew : Drew (.ok done.stats) ↔ ops.any PassOp.isDraw = true := by
        rw [hany]
        refine ⟨?_, fun hpos => ⟨_, rfl, hpos⟩⟩
        rintro ⟨stats, hstats, hpos⟩
        obtain rfl := Except.ok.inj hstats
        exact hpos
      refine ⟨events₁ ++ (events₂
          ++ (p.globalsCalls (.screen target.viewport) uniform globals ++ events₃)),
        encodedPass target ops p globals g pass, ?_, ?_, ?_, ?_⟩
      · simp [ops, cleared]
      · intro e he
        rcases List.mem_append.mp he with he | he
        · exact off₁ e he
        rcases List.mem_append.mp he with he | he
        · exact off₂ e he
        rcases List.mem_append.mp he with he | he
        · exact p.offPass_globalsCalls _ _ _ e he
        · exact off₃ e he
      · intro drew
        exact ⟨pass, _, if_pos (hdrew.mp drew)⟩
      · intro idle
        exact if_neg fun hdraw => idle (hdrew.mpr hdraw)

end SpritePass

/-! ## Frames of a surface -/

/-- All that is said for a frame that was acquired, when rendering it came to
`result`. -/
structure Presented (c : FrameContext) (r : DeviceRenderer) (f : SurfaceFrame)
    (result : Except RenderError FrameStats) (clear batch : PassDescription)
    (clearing : ObjectId .pass) (mid batches : List GraphicsCall) (calls : List CanvasCall) :
    Prop where
  said : calls =
    [.graphics (.getCurrentTexture f.frame), .graphics (.createView f.view (.frame f.frame)),
      .graphics (.createCommandEncoder f.encoder "drawbatch frame encoder")]
    ++ (passOf clearing clear [] ++ mid ++ batches).map .graphics
    ++ [.prePresentNotify, .graphics (.finish f.encoder), .graphics (.submit [f.encoder]),
      .graphics (.present f.frame)]
  /-- The first pass clears everything there is. -/
  clears : clear =
    { label := "drawbatch clear"
      colors := [⟨.created f.view, .clear (r.config.clearColor.map Binary32.widen)⟩]
      depthStencil := c.gpu.stencil.map fun b => ⟨.created b.view, .clear .one, .clear 0⟩ }
  prepares : ∀ call ∈ mid, call.isPreparation = true
  loads : batch =
    { label := "drawbatch batches"
      colors := [⟨.created f.view, .load⟩]
      depthStencil := c.gpu.stencil.map fun b => ⟨.created b.view, .load, .load⟩ }
  /-- There is a second pass if something is drawn. -/
  draws : Drew result → ∃ pass inside, batches = passOf pass batch inside
  idle : ¬ Drew result → batches = []

/-- What a host is told of a frame: a program that cannot be compiled is
fatal, and nothing else is. -/
structure Answered (index : UInt64) (result : Except RenderError FrameStats) (outcome : Outcome) :
    Prop where
  fatal : ∀ name log, result = .error (.shaderCompileFailure name log) →
    outcome = .error ⟨[.drawingFrame index], .render (.shaderCompileFailure name log)⟩
  benign : (∀ name log, result ≠ .error (.shaderCompileFailure name log)) →
    outcome = .ok .proceed

theorem answered_frameOutcome (index : UInt64) (result : Except RenderError FrameStats) :
    Answered index result ((frameOutcome result).1.mapError (·.during (.drawingFrame index))) := by
  cases result with
  | ok stats => exact ⟨fun _ _ h => (by cases h), fun _ => rfl⟩
  | error e =>
      cases e with
      | shaderCompileFailure name log =>
          refine ⟨fun name' log' h => ?_, fun h => absurd rfl (h name log)⟩
          obtain ⟨rfl, rfl⟩ := RenderError.shaderCompileFailure.inj (Except.error.inj h)
          rfl
      | _ => exact ⟨fun _ _ h => (by cases h), fun _ => rfl⟩

namespace FrameContext

theorem depthStencil_target (g : GpuContext) (f : SurfaceFrame) (depth : LoadOp Binary32)
    (stencil : LoadOp UInt32) :
    SpritePass.depthStencil (g.target f) depth stencil
      = g.stencil.map fun b => ⟨.created b.view, depth, stencil⟩ := by
  unfold SpritePass.depthStencil GpuContext.target
  cases g.stencil <;> rfl

/-- A frame that is acquired is rendered into, and then presented. -/
theorem exists_presented (c : FrameContext) {r : DeviceRenderer}
    (hcount : r.frameCount < 2 ^ 64 - 1) (data : FrameData) {s : Screen}
    (area : c.gpu.size.hasArea = true) (granted : s.status.error? = none) :
    ∃ out result events clear batch clearing mid batches,
      (c.render r data).run s = .ok out
        ∧ (r.render (c.gpu.target s.device.nextFrame) data).run s.device.withFrame
          = .ok ⟨(out.value.1, result), out.state.device, events⟩
        ∧ Presented c r s.device.nextFrame result clear batch clearing mid batches
          (canvasCalls out.events)
        ∧ Answered c.time.frameIndex result out.value.2 := by
  let target := c.gpu.target s.device.nextFrame
  obtain ⟨run, hrun⟩ := SpritePass.exists_run_frame hcount data s.withFrame.device target
  have hrender := DeviceRenderer.run_render_of_ok hrun
  have hpaint := run_paintFrame_of_ok hrender
  have hdraw := c.run_draw_of_granted r (paintFrame data) area granted
  rw [hpaint] at hdraw
  obtain ⟨mid, batches, hevents, off, hdrew, hidle⟩ := SpritePass.exists_passes hrun
  have painted : Painted target s.withFrame.device run.state.device
      (deviceCalls (run.events ++ (run.value.notices.map RenderNotice.record).map .log)) :=
    r.keeps_render target data _ _ hrender
  rw [deviceCalls_append, deviceCalls_logs, List.append_nil, hevents, deviceCalls_append,
    deviceCalls_append] at painted
  refine ⟨_, run.value.outcome, _, SpritePass.clearPass target r.config.clearColor 0,
    SpritePass.batchPass target, ⟨s.withFrame.device.created .pass⟩, deviceCalls mid,
    deviceCalls batches, hdraw, hrender, ⟨?_, ?_, ?_, ?_, ?_, ?_⟩,
    answered_frameOutcome c.time.frameIndex run.value.outcome⟩
  · dsimp only
    rw [canvasCalls_append, canvasCalls_append, canvasCalls_append, canvasCalls_device,
      canvasCalls_logs, canvasCalls_calls, canvasCalls_calls, deviceCalls_append, deviceCalls_logs,
      hevents, deviceCalls_append, deviceCalls_append, deviceCalls_passEvents]
    simp [SurfaceFrame.acquireCalls, SurfaceFrame.presentCalls]
  · unfold SpritePass.clearPass
    rw [depthStencil_target]
    rfl
  · intro call hcall
    have paints := painted.paints call (List.mem_append_right _ (List.mem_append_left _ hcall))
    exact paints.isPreparation (off _ (mem_deviceCalls.mp hcall))
  · unfold SpritePass.batchPass
    rw [depthStencil_target]
    rfl
  · intro drew
    obtain ⟨pass, inside, rfl⟩ := hdrew drew
    exact ⟨pass, inside, deviceCalls_passEvents pass _ inside⟩
  · intro idle
    rw [hidle idle]
    rfl

/-- **Every acquired frame is cleared, submitted and presented once.** For any
surface, renderer and frame data, valid or not:

* a surface without area is left alone;
* a surface that gives no frame is asked once and configured at most once, and
  the host goes on unless memory ran out;
* a frame that is given is cleared in the first pass, drawn into in at most one
  more, submitted and presented, also if rendering failed, and only a program
  that cannot be compiled stops the host. -/
theorem acquired_frames_presented (c : FrameContext) (r : DeviceRenderer) (data : FrameData)
    (s : Screen) :
    (c.gpu.size.hasArea = false → (c.render r data).run s = .ok ⟨(r, .ok .proceed), s, []⟩)
      ∧ (∀ e, c.gpu.size.hasArea = true → s.status.error? = some e →
        ∃ out, (c.render r data).run s = .ok out ∧ out.value.1 = r
          ∧ canvasCalls out.events
            = .graphics (.getCurrentTexture ⟨s.device.created .frame⟩)
              :: (if e = .lost ∨ e = .outdated then [.graphics (.configure c.gpu.config)] else [])
          ∧ (e ≠ .outOfMemory → out.value.2 = .ok .proceed))
      ∧ (c.gpu.size.hasArea = true → s.status.error? = none → r.frameCount < 2 ^ 64 - 1 →
        ∃ out result events clear batch clearing mid batches,
          (c.render r data).run s = .ok out
            ∧ (r.render (c.gpu.target s.device.nextFrame) data).run s.device.withFrame
              = .ok ⟨(out.value.1, result), out.state.device, events⟩
            ∧ Presented c r s.device.nextFrame result clear batch clearing mid batches
              (canvasCalls out.events)
            ∧ Answered c.time.frameIndex result out.value.2) := by
  refine ⟨fun empty => c.run_draw_of_no_area r _ empty s, ?_,
    fun area granted hcount => c.exists_presented hcount data area granted⟩
  intro e area refused
  refine ⟨_, c.run_draw_of_refused r _ area refused, rfl, ?_, ?_⟩
  · cases e <;> simp [GpuContext.recoveryCalls, SurfaceError.action, area]
  · intro hmemory
    cases e with
    | outOfMemory => exact absurd rfl hmemory
    | _ => rfl

/-- A malformed frame: it is not drawn, but presented all the same. -/
theorem acquired_frames_presented_sample :
    let config : SurfaceConfig := ⟨.bgra8Unorm, 8, 8, .fifo, .auto, 2, 16⟩
    let c : FrameContext := ⟨⟨config, none, none, ⟨8, 8⟩⟩, ⟨0, 0, 0⟩⟩
    let data : FrameData := ⟨#[], -1, #[], 3, #[], 0⟩
    let s : Screen := ⟨.fresh, []⟩
    ∃ out result clear batch clearing mid,
      (c.render SpritePass.sampleRenderer data).run s = .ok out
        ∧ (∃ e, result = .error e)
        ∧ Presented c SpritePass.sampleRenderer s.device.nextFrame result clear batch clearing
          mid [] (canvasCalls out.events)
        ∧ out.value.2 = .ok .proceed := by
  intro config c data s
  obtain ⟨out, result, events, clear, batch, clearing, mid, batches, hout, hrender, presented,
    answered⟩ := (acquired_frames_presented c SpritePass.sampleRenderer data s).2.2 rfl rfl
      (by decide)
  obtain ⟨rendered, hrendered, hbenign⟩ := exists_ok_of_map_toOption (b := some false)
    (f := fun out : Ran (Event GraphicsCall) Device
        (DeviceRenderer × Except RenderError FrameStats) =>
      match out.value.2 with
      | .error e => some e.isFatal
      | .ok _ => none)
    (x := (SpritePass.sampleRenderer.render (c.gpu.target s.device.nextFrame) data).run
      s.device.withFrame) (by decide +kernel)
  obtain rfl := Except.ok.inj (hrendered.symm.trans hrender)
  cases result with
  | ok stats => cases hbenign
  | error e =>
      have idle : ¬ Drew (.error e) := by
        rintro ⟨stats, hstats, -⟩
        cases hstats
      rw [presented.idle idle] at presented
      refine ⟨out, .error e, clear, batch, clearing, mid, hout, ⟨e, rfl⟩, presented,
        answered.benign ?_⟩
      intro name log hfatal
      obtain rfl := Except.error.inj hfatal
      cases hbenign

end FrameContext

end SpriteRenderer

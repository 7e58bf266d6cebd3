import SpriteRenderer.Proofs.Extent
import SpriteRenderer.Proofs.Recording

/-!
# A replayed frame draws what its batches say

On a sprite device a frame is written down and replayed later, inside one
render pass. `PassState` is such a pass as the device runs it, and
`PassState.draws` reads off its draws, each with everything in force at
that point. They are compared with the batches themselves
(`PassScene.drawOf`), and not with the commands in between.

The proof goes through the immediate-mode reading of those commands
(`DrawState`): `PassScene.view` says what a pass looks like when the
immediate-mode device is in a given state, `view_step` that one command,
written down and replayed, takes one view to the next, and
`draws_recorded` the same of a whole list. A pass sets up everything
before the first operation, so its state before that plays no part.

A clip has been cut to the target when it reaches the pass, and is cut
again there, to a target of a different rounding. The second cut changes
nothing (`within_eq_self`), by `Viewport.extent_le_passExtent`.
-/

namespace SpriteRenderer

/-! ## A render pass as the device runs it -/

/-- What a draw in a render pass depends on; `none` is what nobody has set.
Group 0 is `globals` and group 1 is `texture`; vertices come from slot 0. -/
structure PassState where
  pipeline : Option (ObjectId .pipeline)
  globals : Option (ObjectId .group)
  texture : Option (ObjectId .group)
  /-- A buffer, an offset and a size. -/
  vertices : Option (ObjectId .buffer × Nat × Nat)
  indices : Option (ObjectId .buffer × IndexFormat × Nat × Nat)
  scissor : Option Clip
deriving DecidableEq

/-- An indexed draw with what is in force when it is issued. -/
structure PassDraw where
  first : Nat
  stop : Nat
  baseVertex : Int
  firstInstance : Nat
  stopInstance : Nat
  under : PassState
deriving DecidableEq

namespace PassState

def after (w : PassState) : PassCall → PassState
  | .setBindGroup 0 group => { w with globals := some group }
  | .setBindGroup 1 group => { w with texture := some group }
  | .setBindGroup _ _ => w
  | .setPipeline pipeline => { w with pipeline := some pipeline }
  | .setVertexBuffer 0 buffer offset size => { w with vertices := some (buffer, offset, size) }
  | .setVertexBuffer _ _ _ _ => w
  | .setIndexBuffer buffer format offset size =>
      { w with indices := some (buffer, format, offset, size) }
  | .setScissorRect clip => { w with scissor := some clip }
  | .drawIndexed _ _ _ _ _ => w

def afterAll (w : PassState) (calls : List PassCall) : PassState := calls.foldl after w

def drawnBy (w : PassState) : PassCall → List PassDraw
  | .drawIndexed first stop baseVertex firstInstance stopInstance =>
      [⟨first, stop, baseVertex, firstInstance, stopInstance, w⟩]
  | _ => []

/-- The draws of a pass, in order. -/
def draws (w : PassState) : List PassCall → List PassDraw
  | [] => []
  | call :: rest => w.drawnBy call ++ (w.after call).draws rest

theorem afterAll_append (w : PassState) (xs ys : List PassCall) :
    w.afterAll (xs ++ ys) = (w.afterAll xs).afterAll ys := by
  simp [afterAll]

theorem draws_append (w : PassState) (xs ys : List PassCall) :
    w.draws (xs ++ ys) = w.draws xs ++ (w.afterAll xs).draws ys := by
  induction xs generalizing w with
  | nil => rfl
  | cons x rest ih => simp [draws, afterAll, ih]

end PassState

/-! ## The pass among the device's events -/

/-- The calls inside the passes of a label, from inside one of them or not. -/
def passCalls (label : String) : Bool → List (Event GraphicsCall) → List PassCall
  | _, [] => []
  | _, .call (.beginRenderPass _ description) :: rest =>
      passCalls label (description.label = label) rest
  | _, .call (.endPass _) :: rest => passCalls label false rest
  | inside, .call (.inPass call) :: rest =>
      (if inside then [call] else []) ++ passCalls label inside rest
  | inside, _ :: rest => passCalls label inside rest

theorem passCalls_cons_of_offPass {e : Event GraphicsCall} (off : e.offPass = true)
    (label : String) (inside : Bool) (rest : List (Event GraphicsCall)) :
    passCalls label inside (e :: rest) = passCalls label inside rest := by
  cases e with
  | log record => rfl
  | call c =>
      cases c with
      | beginRenderPass _ _ | inPass _ | endPass _ => cases off
      | _ => rfl

theorem passCalls_append_of_offPass {events : List (Event GraphicsCall)}
    (off : ∀ e ∈ events, e.offPass = true) (label : String) (inside : Bool)
    (rest : List (Event GraphicsCall)) :
    passCalls label inside (events ++ rest) = passCalls label inside rest := by
  induction events with
  | nil => rfl
  | cons e others ih =>
      rw [List.cons_append, passCalls_cons_of_offPass (off e List.mem_cons_self),
        ih fun e' he' => off e' (List.mem_cons_of_mem _ he')]

theorem passCalls_passEvents (label : String) (inside : Bool) (pass : ObjectId .pass)
    (description : PassDescription) (calls : List PassCall) (rest : List (Event GraphicsCall)) :
    passCalls label inside (SpritePass.passEvents pass description calls ++ rest) =
      (if description.label = label then calls else []) ++ passCalls label false rest := by
  have hin : ∀ inside, passCalls label inside
      ((calls.map fun call => .call (.inPass call)) ++ (.call (.endPass pass) :: rest))
        = (if inside then calls else []) ++ passCalls label false rest := by
    intro inside
    induction calls with
    | nil => simp [passCalls]
    | cons call others ih =>
        rw [List.map_cons, List.cons_append, passCalls, ih]
        cases inside <;> simp
  simp only [SpritePass.passEvents, List.cons_append, List.append_assoc, List.nil_append, passCalls]
  rw [hin]
  simp

/-! ## Clips -/

theorem ScissorRect.clampTo_bounds {r : ScissorRect} {width height : Nat} {clip : Clip}
    (h : r.clampTo width height = some clip) :
    clip.x + clip.width ≤ width ∧ clip.y + clip.height ≤ height := by
  unfold clampTo at h
  dsimp only at h
  split at h
  · cases h
  · obtain rfl := Option.some.inj h
    dsimp only [clampEdge]
    omega

namespace Clip

theorem within_bounds (clip : Clip) (width height : Nat) :
    (clip.within width height).x + (clip.within width height).width ≤ width
      ∧ (clip.within width height).y + (clip.within width height).height ≤ height := by
  dsimp only [within]
  omega

theorem within_eq_self {clip : Clip} {width height : Nat} (hx : clip.x + clip.width ≤ width)
    (hy : clip.y + clip.height ≤ height) : clip.within width height = clip := by
  obtain ⟨x, y, w, h⟩ := clip
  dsimp only at hx hy
  rw [within, Clip.mk.injEq]
  dsimp only
  omega

theorem within_whole (width height : Nat) :
    (whole width height).within width height = whole width height :=
  within_eq_self (by simp [whole]) (by simp [whole])

end Clip

/-! ## Written down and replayed -/

/-- What a pass is encoded from, apart from its operations. -/
structure PassScene where
  program : SpriteProgram
  globals : ObjectId .group
  geometry : Geometry
  /-- Size of the target. -/
  extent : Nat × Nat
  /-- The device, with the bind groups of the textures. -/
  device : Device

namespace PassScene

/-- The pass when an immediate-mode device is in a given state. -/
def view (scene : PassScene) (m : DrawState SpriteTexture) : PassState where
  pipeline := m.blend.map scene.program.pipeline
  globals := some scene.globals
  texture := m.texture.bind (scene.program.groupIn? scene.device)
  vertices := some (scene.geometry.vertices.buffer, 0, scene.geometry.vertices.size)
  indices := some (scene.geometry.indices.buffer, .uint16, 0, scene.geometry.indices.size)
  scissor := m.clip.map (·.within scene.extent.1 scene.extent.2)

/-- A draw of an immediate-mode device, as the pass does it. -/
def drawn (scene : PassScene) (x : Drawn SpriteTexture) : PassDraw :=
  ⟨x.first.toNat, x.first.toNat + x.count.toNat, 0, 0, 1, scene.view x.under⟩

def replay (scene : PassScene) (ops : List PassOp) : List PassCall :=
  ops.map (SpritePass.replayOp scene.program scene.extent.1 scene.extent.2)

/-- One command, written down and replayed. -/
theorem view_step (scene : PassScene) {test : Bool} {command : DrawCommand SpriteTexture}
    (found : ∀ t, command = .bindTexture t →
      (scene.program.groupIn? scene.device t).isSome = true)
    (tested : ∀ clip, command = .scissorRect clip → test = true) (m : DrawState SpriteTexture) :
    (scene.view m).afterAll
        (scene.replay (SpritePass.recorded scene.program scene.device test command))
        = scene.view (m.after command)
      ∧ (scene.view m).draws
        (scene.replay (SpritePass.recorded scene.program scene.device test command))
        = (m.drawnBy command).map scene.drawn := by
  cases command with
  | scissorRect clip =>
      obtain rfl := tested clip rfl
      exact ⟨rfl, rfl⟩
  | bindTexture texture =>
      obtain ⟨group, hgroup⟩ := Option.isSome_iff_exists.mp (found texture rfl)
      simp [SpritePass.recorded, hgroup, replay, SpritePass.replayOp, PassState.afterAll,
        PassState.after, PassState.draws, PassState.drawnBy, view, DrawState.after,
        DrawState.drawnBy]
  | blend func => exact ⟨rfl, rfl⟩
  | draw first count => exact ⟨rfl, rfl⟩

theorem draws_recorded (scene : PassScene) {test : Bool}
    {commands : List (DrawCommand SpriteTexture)}
    (found : ∀ t, .bindTexture t ∈ commands →
      (scene.program.groupIn? scene.device t).isSome = true)
    (tested : ∀ clip, .scissorRect clip ∈ commands → test = true) (m : DrawState SpriteTexture) :
    (scene.view m).draws
        (scene.replay (commands.flatMap (SpritePass.recorded scene.program scene.device test)))
      = (m.draws commands).map scene.drawn := by
  induction commands generalizing m with
  | nil => rfl
  | cons command rest ih =>
      obtain ⟨hafter, hdraws⟩ := scene.view_step
        (fun t ht => found t (List.mem_cons.mpr (Or.inl ht.symm)))
        (fun clip hc => tested clip (List.mem_cons.mpr (Or.inl hc.symm))) m
      have hrest := ih (fun t ht => found t (List.mem_cons_of_mem _ ht))
        (fun clip hc => tested clip (List.mem_cons_of_mem _ hc)) (m.after command)
      simp only [replay, List.flatMap_cons, List.map_append] at hafter hdraws hrest ⊢
      rw [PassState.draws_append, hafter, hdraws, hrest, DrawState.draws, List.map_append]

/-- The immediate-mode state that a pass starts its batches in. -/
def opening (scene : PassScene) (applyScissor : Bool) : DrawState SpriteTexture where
  clip := some (if applyScissor then ⟨0, 0, 0, 0⟩ else .whole scene.extent.1 scene.extent.2)
  texture := some none
  blend := some .over

/-- What comes before the batches leaves nothing of the state before it. -/
theorem view_opening (scene : PassScene) (applyScissor : Bool) (initial : PassState) :
    initial.afterAll
        (SpritePass.setupCalls scene.program scene.globals scene.geometry scene.extent.1
            scene.extent.2
          ++ scene.replay (.scissor none :: SpritePass.switchOps applyScissor ⟨0, 0, 0, 0⟩))
        = scene.view (scene.opening applyScissor)
      ∧ initial.draws
        (SpritePass.setupCalls scene.program scene.globals scene.geometry scene.extent.1
            scene.extent.2
          ++ scene.replay (.scissor none :: SpritePass.switchOps applyScissor ⟨0, 0, 0, 0⟩))
        = [] := by
  cases applyScissor with
  | false =>
      refine ⟨?_, rfl⟩
      simp [SpritePass.setupCalls, SpritePass.switchOps, replay, SpritePass.replayOp,
        PassState.afterAll, PassState.after, view, opening, Clip.within_whole,
        SpriteProgram.groupIn?]
  | true => exact ⟨rfl, rfl⟩

/-- The draw that a batch asks for. -/
def drawOf (scene : PassScene) (c : DrawContext SpriteTexture) (b : Batch) : PassDraw where
  first := b.indexStart.toInt.toNat
  stop := (b.indexStart.toInt + 3 * b.triangleCount.toInt).toNat
  baseVertex := 0
  firstInstance := 0
  stopInstance := 1
  under :=
    { pipeline := some (scene.program.pipeline b.blendMode.func)
      globals := some scene.globals
      texture := scene.program.groupIn? scene.device (c.textureOf b.textureId)
      vertices := some (scene.geometry.vertices.buffer, 0, scene.geometry.vertices.size)
      indices := some (scene.geometry.indices.buffer, .uint16, 0, scene.geometry.indices.size)
      scissor :=
        if c.applyScissor then c.clipOf b else some (.whole scene.extent.1 scene.extent.2) }

theorem drawn_eq_drawOf {scene : PassScene} {c : DrawContext SpriteTexture} {b : Batch}
    {indexCount capacity : Nat} (hextent : scene.extent = c.viewport.passExtent)
    (fits : b.Fits indexCount capacity) (hcount : indexCount < 2 ^ 32) :
    scene.drawn (c.drawn (scene.opening c.applyScissor).clip b) = scene.drawOf c b := by
  have hfirst : ((c.drawn (scene.opening c.applyScissor).clip b).first.toNat : Int)
      = b.indexStart.toInt := (DrawContext.draw_toNat_of_fits fits hcount).1
  have hlength : ((c.drawn (scene.opening c.applyScissor).clip b).count.toNat : Int)
      = 3 * b.triangleCount.toInt := (DrawContext.draw_toNat_of_fits fits hcount).2
  have hclip : (c.drawn (scene.opening c.applyScissor).clip b).under.clip.map
      (·.within scene.extent.1 scene.extent.2)
      = if c.applyScissor then c.clipOf b else some (.whole scene.extent.1 scene.extent.2) := by
    cases hs : c.applyScissor with
    | false => simp [DrawContext.drawn, opening, hs, Clip.within_whole]
    | true =>
        cases hcut : c.clipOf b with
        | none => simp [DrawContext.drawn, hs, hcut]
        | some clip =>
            obtain ⟨hx, hy⟩ := ScissorRect.clampTo_bounds hcut
            obtain ⟨hwidth, hheight⟩ := c.viewport.extent_le_passExtent
            have hsame : clip.within scene.extent.1 scene.extent.2 = clip := by
              rw [hextent]
              exact Clip.within_eq_self (Nat.le_trans hx hwidth) (Nat.le_trans hy hheight)
            simp [DrawContext.drawn, hs, hcut, hsame]
  rw [drawn, drawOf, view, hclip, PassDraw.mk.injEq]
  refine ⟨by omega, by omega, rfl, rfl, rfl, rfl⟩

/-- A pass draws what its batches draw on an immediate-mode device. -/
theorem draws_replayCalls (scene : PassScene) (applyScissor : Bool)
    {commands : List (DrawCommand SpriteTexture)}
    (found : ∀ t, .bindTexture t ∈ commands →
      (scene.program.groupIn? scene.device t).isSome = true)
    (tested : ∀ clip, .scissorRect clip ∈ commands → applyScissor = true) (initial : PassState) :
    initial.draws (SpritePass.replayCalls scene.program scene.globals scene.geometry scene.extent
        (.scissor none :: SpritePass.switchOps applyScissor ⟨0, 0, 0, 0⟩
          ++ commands.flatMap (SpritePass.recorded scene.program scene.device applyScissor)))
      = ((scene.opening applyScissor).draws commands).map scene.drawn := by
  obtain ⟨hafter, hdraws⟩ := scene.view_opening applyScissor initial
  have hbatches := scene.draws_recorded found tested (scene.opening applyScissor)
  rw [SpritePass.replayCalls, List.map_append, ← List.append_assoc, PassState.draws_append]
  simp only [replay] at hafter hdraws hbatches
  rw [hafter, hdraws, hbatches, List.nil_append]

end PassScene

/-! ## Encoded passes -/

/-- The calls of a frame's pass over its batches. -/
def batchCalls (events : List (Event GraphicsCall)) : List PassCall :=
  passCalls "drawbatch batches" false events

namespace SpritePass

variable {target : RenderTarget} {ops : List PassOp} {p : SpriteProgram}
  {globals : ObjectId .group} {g : Geometry} {pass : ObjectId .pass}

theorem batchCalls_encodedPass :
    batchCalls (encodedPass target ops p globals g pass)
      = if ops.any PassOp.isDraw then replayCalls p globals g target.viewport.passExtent ops
        else [] := by
  unfold encodedPass batchCalls
  split
  · have hcalls := passCalls_passEvents "drawbatch batches" false pass (batchPass target)
      (replayCalls p globals g target.viewport.passExtent ops) []
    simpa [batchPass, passCalls] using hcalls
  · rfl

/-- A pass that would draw nothing is not missed. -/
theorem draws_replayCalls_of_not_any (hnone : ops.any PassOp.isDraw = false) (extent : Nat × Nat)
    (initial : PassState) : initial.draws (replayCalls p globals g extent ops) = [] := by
  have hops : ∀ (ops : List PassOp) (w : PassState), ops.any PassOp.isDraw = false →
      w.draws (ops.map (replayOp p extent.1 extent.2)) = [] := by
    intro ops
    induction ops with
    | nil => exact fun _ _ => rfl
    | cons op rest ih =>
        intro w hany
        obtain ⟨hop, hrest⟩ := Bool.or_eq_false_iff.mp hany
        rw [List.map_cons, PassState.draws, ih _ hrest, List.append_nil]
        cases op with
        | draw first stop => cases hop
        | scissor clip => cases clip <;> rfl
        | pipeline _ | texture _ => rfl
  rw [replayCalls, PassState.draws_append, hops _ _ hnone]
  rfl

theorem draws_encodedPass (initial : PassState) :
    initial.draws (batchCalls (encodedPass target ops p globals g pass))
      = initial.draws (replayCalls p globals g target.viewport.passExtent ops) := by
  rw [batchCalls_encodedPass]
  cases hany : ops.any PassOp.isDraw with
  | true => rfl
  | false =>
      rw [draws_replayCalls_of_not_any hany]
      rfl

theorem scissor_bounds {clip : Clip}
    (hmem : .setScissorRect clip ∈ batchCalls (encodedPass target ops p globals g pass)) :
    clip.x + clip.width ≤ target.viewport.passExtent.1
      ∧ clip.y + clip.height ≤ target.viewport.passExtent.2 := by
  rw [batchCalls_encodedPass] at hmem
  split at hmem
  · rcases List.mem_append.mp hmem with hsetup | hreplay
    · have hwhole : clip = .whole target.viewport.passExtent.1 target.viewport.passExtent.2 := by
        simpa [setupCalls] using hsetup
      simp [hwhole, Clip.whole]
    · obtain ⟨op, -, hop⟩ := List.mem_map.mp hreplay
      cases op with
      | scissor rect =>
          cases rect with
          | none =>
              obtain rfl := PassCall.setScissorRect.inj hop
              simp [Clip.whole]
          | some rect =>
              obtain rfl := PassCall.setScissorRect.inj hop
              exact Clip.within_bounds _ _ _
      | pipeline _ | texture _ | draw _ _ => cases hop
  · cases hmem

end SpritePass

/-! ## Whole frames -/

/-- Where the parts of a scene come from. The program was there or is built
in this frame; the projection is that of the target; the buffers hold the
frame's vertices and indices; and the texture of every batch that shows has
a bind group, the one it had before if it had one. -/
structure PassScene.BuiltBy (scene : PassScene) (r : DeviceRenderer) (device : Device)
    (target : RenderTarget) (d : DecodedFrame) (events : List (Event GraphicsCall)) : Prop where
  program : SpritePass.Provides r target events scene.program
  globals : ∃ uniform,
    scene.program.globalsCalls (.screen target.viewport) uniform scene.globals <:+: events
  geometry : SpritePass.Filled events d.vertices d.indices scene.geometry
  extent : scene.extent = target.viewport.passExtent
  groups : Device.Grown scene.program ((r.drawContext target.viewport).ShowsTexture d.batches)
    device scene.device events
  found : ∀ b ∈ d.batches, (r.drawContext target.viewport).shows b = true →
    (scene.program.groupIn? scene.device
      ((r.drawContext target.viewport).textureOf b.textureId)).isSome = true

namespace SpritePass

variable {r : DeviceRenderer} {device : Device} {target : RenderTarget} {frame : FrameData}
  {out : Ran (Event GraphicsCall) SpritePass (Renderer.FrameRun SpriteProgram SpriteTexture)}
  {stats : FrameStats}

/-- A frame that is drawn, down to the pass it ends with. -/
theorem exists_scene
    (h : (Renderer.renderFrame backend r frame).run (start device target) = .ok out)
    (ok : out.value.outcome = .ok stats) (something : frame.isEmpty = false) :
    ∃ d done pass, ∃ scene : PassScene, r.accept frame = .ok d
      ∧ (r.drawContext target.viewport).execute r.warnedUnbound d.batches = .ok done
      ∧ scene.BuiltBy r device target d out.events
      ∧ scene.device = out.state.device
      ∧ (∀ t, .bindTexture t ∈ done.commands →
        (scene.program.groupIn? scene.device t).isSome = true)
      ∧ batchCalls out.events = batchCalls (encodedPass target
          (.scissor none :: switchOps r.config.applyScissor ⟨0, 0, 0, 0⟩
            ++ done.commands.flatMap (recorded scene.program scene.device r.config.applyScissor))
          scene.program scene.globals scene.geometry pass) := by
  cases Renderer.frameCourse_of_run h with
  | empty nothing cleared =>
      rw [nothing] at something
      cases something
  | unprogrammed _ _ _ => cases ok
  | rejected _ _ _ _ => cases ok
  | refused _ _ _ _ _ _ => cases ok
  | @drawn viewport lookup s₁ s₂ s₃ e₁ e₂ e₃ p d done _ prepared programmed accepted uploaded
      executed performed =>
      -- Effects are functions, so each link of the course is the one run of it
      -- that is known.
      obtain ⟨hvertices, hindices⟩ := Renderer.ne_nil_of_accept accepted something
      obtain ⟨rfl, d₁, events₁, rfl, rfl, hgroups₁, off₁, provides⟩ := of_run_prepare prepared
      obtain ⟨d₂, g, events₂, hupload, hgroups₂, off₂, filled, hv, hi⟩ :=
        exists_run_upload hvertices hindices (cleared d₁ target)
      rw [hupload] at uploaded
      obtain ⟨rfl, rfl⟩ : _ = s₂ ∧ events₂ = e₂ := by simpa using uploaded
      obtain ⟨s₃', uniform, globals, pass, events₃, hbody, grown, off₃, found⟩ :=
        exists_run_body_of_accept accepted executed p
          (s := { cleared d₁ target with device := d₂, geometry := some g }) rfl hv hi rfl
      rw [hbody] at performed
      obtain ⟨rfl, rfl⟩ : s₃' = s₃ ∧ _ = e₃ := by simpa using performed
      refine ⟨d, done, pass, ⟨p, globals, g, target.viewport.passExtent, s₃'.device⟩, accepted,
        executed, ?_, rfl, found, ?_⟩
      · have hall : Device.Grown p ((r.drawContext target.viewport).ShowsTexture d.batches)
            device s₃'.device events₃ := by
          have hbefore : d₂.textureGroups = device.textureGroups := hgroups₂.trans hgroups₁
          exact Device.Grown.trans (.of_textureGroups_eq hbefore) grown
        refine ⟨(provides p programmed).mono ?_, ⟨uniform, ?_⟩, filled.mono ?_, rfl,
          hall.mono ?_, ?_⟩
        · intro e he
          simp [he]
        · exact ((List.prefix_append _ _).isInfix.trans (List.suffix_append _ _).isInfix).trans
            (List.suffix_append _ _).isInfix
        · intro e he
          simp [he]
        · intro e he
          simp [he]
        · intro b hb shown
          exact found _ (DrawContext.bindTexture_mem_execute
            (fun b hb => (Renderer.fits_of_accept accepted b hb).triangles) executed hb shown)
      · dsimp only
        simp only [batchCalls]
        rw [List.append_assoc, passCalls_passEvents, passCalls_append_of_offPass off₁,
          passCalls_append_of_offPass off₂,
          passCalls_append_of_offPass (p.offPass_globalsCalls _ _ _),
          passCalls_append_of_offPass off₃]
        rw [ite_self, List.nil_append]
        rfl

theorem batchCalls_of_empty
    (h : (Renderer.renderFrame backend r frame).run (start device target) = .ok out)
    (nothing : frame.isEmpty = true) : batchCalls out.events = [] := by
  cases Renderer.frameCourse_of_run h with
  | empty _ cleared =>
      rw [run_header] at cleared
      obtain ⟨-, rfl⟩ : _ ∧ passEvents _ _ [] = _ := by simpa using cleared
      have hcalls := passCalls_passEvents "drawbatch batches" false ⟨device.created .pass⟩
        (clearPass target r.config.clearColor 0) [] []
      simpa [batchCalls, passCalls] using hcalls
  | unprogrammed something _ _ | rejected something _ _ _ | refused something _ _ _ _ _
  | drawn something _ _ _ _ _ _ =>
      rw [nothing] at something
      cases something

/-- **A deferred frame draws its batches.** For a frame that is drawn on a
fresh pass, whatever the renderer, the device and the size of the target: its
pass over the batches, run from any state, issues one indexed draw for each
batch that shows, in order, with base vertex 0 and one instance. At each of
them everything in force is what the batch asks for: the pipeline of its
blend function, the bind group of its texture or the default one, the
projection of the target, the frame's own buffers, and as scissor rectangle
its clip, or the whole target where scissors do not count. No rectangle in
the pass leaves the target. An empty frame has no such pass. -/
theorem draws_batches_pass (r : DeviceRenderer) (device : Device) (target : RenderTarget)
    (frame : FrameData)
    (out : Ran (Event GraphicsCall) SpritePass (Renderer.FrameRun SpriteProgram SpriteTexture))
    (stats : FrameStats)
    (h : (Renderer.renderFrame backend r frame).run (start device target) = .ok out)
    (ok : out.value.outcome = .ok stats) (initial : PassState) :
    (frame.isEmpty = true → batchCalls out.events = [])
      ∧ (frame.isEmpty = false → ∃ d, ∃ scene : PassScene, r.accept frame = .ok d
        ∧ scene.BuiltBy r device target d out.events ∧ scene.device = out.state.device
        ∧ initial.draws (batchCalls out.events)
          = (d.batches.filter (r.drawContext target.viewport).shows).map
              (scene.drawOf (r.drawContext target.viewport)))
      ∧ ∀ clip, .setScissorRect clip ∈ batchCalls out.events →
          clip.x + clip.width ≤ target.viewport.passExtent.1
            ∧ clip.y + clip.height ≤ target.viewport.passExtent.2 := by
  refine ⟨batchCalls_of_empty h, ?_, ?_⟩
  · intro something
    obtain ⟨d, done, pass, scene, accepted, executed, built, hdevice, found, hcalls⟩ :=
      exists_scene h ok something
    refine ⟨d, scene, accepted, built, hdevice, ?_⟩
    have fits := Renderer.fits_of_accept accepted
    have hlength := (Renderer.length_lt_of_accept accepted).1
    have hdraws := DrawContext.draws_execute (fun b hb => (fits b hb).triangles) executed
      (scene.opening r.config.applyScissor)
    rw [hcalls, draws_encodedPass, ← built.extent,
      scene.draws_replayCalls r.config.applyScissor found
        (fun clip hclip => Renderer.applyScissor_of_scissorRect accepted executed hclip) initial,
      hdraws, List.map_map]
    refine List.map_congr_left fun b hb => ?_
    exact PassScene.drawn_eq_drawOf (c := r.drawContext target.viewport) built.extent
      (fits b (List.mem_filter.mp hb).1) (by omega)
  · intro clip hclip
    cases something : frame.isEmpty with
    | true =>
        rw [batchCalls_of_empty h something] at hclip
        cases hclip
    | false =>
        obtain ⟨d, done, pass, scene, -, -, -, -, -, hcalls⟩ := exists_scene h ok something
        rw [hcalls] at hclip
        exact scissor_bounds hclip

/-- A renderer whose program is ready and whose pool holds one texture, with
scissors on. -/
def sampleRenderer : DeviceRenderer where
  config := ⟨2, .black, true⟩
  textures := ⟨#[.free, .bound ⟨⟨3⟩, ⟨3⟩, 8, 8⟩], [0]⟩
  shader := ⟨.sprite, .ready ⟨⟨0⟩, ⟨1⟩, ⟨0⟩, ⟨0⟩, ⟨1⟩, ⟨0⟩⟩⟩
  warnedUnbound := false
  frameCount := 0

def sampleTarget : RenderTarget where
  viewport := DrawContext.sampleContext.viewport
  formats := ⟨.rgba8Unorm, none⟩
  colorView := .lent "surface"
  stencilView := none

/-- Four draws, of which two show a texture that the device has no group for
yet. -/
theorem draws_batches_pass_sample :
    ∃ out, (Renderer.renderFrame backend sampleRenderer DrawContext.sampleFrame.pack).run
        (start .fresh sampleTarget) = .ok out
      ∧ (∃ stats, out.value.outcome = .ok stats) ∧ (batchCalls out.events).length = 17
      ∧ ∃ d, ∃ scene : PassScene, sampleRenderer.accept DrawContext.sampleFrame.pack = .ok d
        ∧ scene.BuiltBy sampleRenderer .fresh sampleTarget d out.events
        ∧ PassState.draws ⟨none, none, none, none, none, none⟩ (batchCalls out.events)
          = (d.batches.filter (sampleRenderer.drawContext sampleTarget.viewport).shows).map
              (scene.drawOf (sampleRenderer.drawContext sampleTarget.viewport)) := by
  obtain ⟨out, hout, hfacts⟩ := exists_ok_of_map_toOption (b := (true, 17))
    (f := fun out : Ran (Event GraphicsCall) SpritePass
        (Renderer.FrameRun SpriteProgram SpriteTexture) =>
      (out.value.outcome.toOption.isSome, (batchCalls out.events).length))
    (x := (Renderer.renderFrame backend sampleRenderer DrawContext.sampleFrame.pack).run
      (start .fresh sampleTarget)) (by decide +kernel)
  obtain ⟨hsome, hlength⟩ := Prod.mk.inj hfacts
  obtain ⟨stats, ok⟩ : ∃ stats, out.value.outcome = .ok stats := by
    cases houtcome : out.value.outcome with
    | error e =>
        rw [houtcome] at hsome
        cases hsome
    | ok stats => exact ⟨stats, rfl⟩
  obtain ⟨d, scene, accepted, built, -, hdraws⟩ :=
    (draws_batches_pass sampleRenderer .fresh sampleTarget DrawContext.sampleFrame.pack out stats
      hout ok ⟨none, none, none, none, none, none⟩).2.1 (by decide +kernel)
  exact ⟨out, hout, ⟨stats, ok⟩, hlength, d, scene, accepted, built, hdraws⟩

end SpritePass

end SpriteRenderer

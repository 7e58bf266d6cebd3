import Mathlib.Data.List.Forall2
import SpriteRenderer.Proofs.FrameCounters
import SpriteRenderer.Proofs.LiveHandles
import SpriteRenderer.Proofs.PresentedFrames
import SpriteRenderer.Proofs.TextureBooks
import SpriteRenderer.Proofs.TextureCreation

/-!
# One bind group for each texture

Handles are handed out again, they are what a frame compares to leave out a
binding, and they do not tell which texture they stood for a frame ago. The
bind group that is set for a handle still is the group of the texture that the
handle holds now, since groups are kept by texture, and the books say which
(`Books`).

A `Gallery` is a renderer, its device and the textures that were made for it;
`Gallery.History` is what can become of one.
-/

namespace SpriteRenderer

/-! ## The groups that a pass sets -/

namespace DrawContext

variable {T : Type} {c : DrawContext T} {batches : List Batch}

theorem exists_of_mem_handlesShown {h : TextureHandle} (hmem : some h ∈ c.handlesShown batches) :
    ∃ texture, c.textures.get? h = some texture := by
  obtain ⟨b, -, hb⟩ := List.mem_map.mp ((List.destutter_sublist _ _).subset hmem)
  exact get?_of_handleOf hb

/-- Something is drawn exactly where there is a handle to draw it with. -/
theorem exists_draw_iff_handlesShown {warned : Bool} {done : Execution T}
    (ht : ∀ b ∈ batches, 0 ≤ b.triangleCount.toInt)
    (executed : c.execute warned batches = .ok done) :
    (∃ first count, .draw first count ∈ done.commands) ↔ c.handlesShown batches ≠ [] := by
  have hbindings := bindings_execute ht executed
  obtain ⟨groups, hcommands, -⟩ := exists_groups_execute executed
  constructor
  · rintro ⟨first, count, hdraw⟩ hnil
    obtain ⟨b, hb, shown, -⟩ := exists_batch_of_mem_execute ht executed hdraw
    have hbound := bindTexture_mem_execute ht executed hb shown
    rw [hnil, List.map_nil, List.filterMap_eq_nil_iff] at hbindings
    cases hbindings _ hbound
  · intro hne
    rw [hcommands] at hbindings ⊢
    cases groups with
    | nil => exact absurd (List.map_eq_nil_iff.mp hbindings.symm) hne
    | cons g rest => exact ⟨g.first, g.count, by simp [BatchGroup.commands]⟩

end DrawContext

/-- The bind group that a call sets for textures. -/
def PassCall.textureGroup? : PassCall → Option (ObjectId .group)
  | .setBindGroup 1 group => some group
  | _ => none

def PassOp.group? : PassOp → Option (ObjectId .group)
  | .texture group => some group
  | .pipeline _ | .scissor _ | .draw _ _ => none

namespace SpritePass

theorem textureGroups_replayCalls (p : SpriteProgram) (globals : ObjectId .group) (g : Geometry)
    (extent : Nat × Nat) (ops : List PassOp) :
    (replayCalls p globals g extent ops).filterMap PassCall.textureGroup?
      = p.defaultGroup :: ops.filterMap PassOp.group? := by
  have hop : PassCall.textureGroup? ∘ replayOp p extent.1 extent.2 = PassOp.group? := by
    funext op
    cases op with
    | scissor clip => cases clip <;> rfl
    | pipeline _ | texture _ | draw _ _ => rfl
  rw [replayCalls, List.filterMap_append, List.filterMap_map, hop]
  rfl

/-- The groups written down for drawing commands are those of the textures bound. -/
theorem forall₂_groups_recorded {p : SpriteProgram} {d : Device} (test : Bool)
    {commands : List (DrawCommand SpriteTexture)}
    (found : ∀ t, .bindTexture t ∈ commands → (p.groupIn? d t).isSome = true) :
    List.Forall₂ (fun t group => p.groupIn? d t = some group)
      (commands.filterMap DrawCommand.binding?)
      ((commands.flatMap (recorded p d test)).filterMap PassOp.group?) := by
  induction commands with
  | nil => exact .nil
  | cons command rest ih =>
      have hrest := ih fun t ht => found t (List.mem_cons_of_mem _ ht)
      rw [List.flatMap_cons, List.filterMap_append]
      cases command with
      | bindTexture t =>
          obtain ⟨group, hgroup⟩ := Option.isSome_iff_exists.mp (found t List.mem_cons_self)
          have hhere : (recorded p d test (.bindTexture t)).filterMap PassOp.group? = [group] := by
            simp [recorded, hgroup, PassOp.group?]
          rw [hhere]
          exact .cons hgroup hrest
      | scissorRect clip =>
          have hhere : (recorded p d test (.scissorRect clip)).filterMap PassOp.group? = [] := by
            cases test <;> rfl
          rw [hhere]
          exact hrest
      | blend _ | draw _ _ => exact hrest

variable {r : DeviceRenderer} {device : Device} {target : RenderTarget} {frame : FrameData}
  {out : Ran (Event GraphicsCall) SpritePass (Renderer.FrameRun SpriteProgram SpriteTexture)}

/-- The groups that the pass of a frame sets for textures: the default one, and
then one for each handle shown. Where nothing shows there is no pass. -/
theorem exists_textureGroups {d : DecodedFrame} {stats : FrameStats}
    (ran : (Renderer.renderFrame backend r frame).run (start device target) = .ok out)
    (ok : out.value.outcome = .ok stats) (something : frame.isEmpty = false)
    (accepted : r.accept frame = .ok d) :
    ∃ p : SpriteProgram, ∃ groups,
      List.Forall₂ (fun handle group =>
          p.groupIn? out.state.device (handle.bind r.textures.get?) = some group)
        ((r.drawContext target.viewport).handlesShown d.batches) groups
      ∧ (batchCalls out.events).filterMap PassCall.textureGroup?
        = if (r.drawContext target.viewport).handlesShown d.batches = [] then []
          else p.defaultGroup :: groups := by
  obtain ⟨d', done, pass, scene, accepted', executed, -, hdevice, found, hcalls⟩ :=
    exists_scene ran ok something
  obtain rfl : d = d' := Except.ok.inj (accepted.symm.trans accepted')
  have ht : ∀ b ∈ d.batches, 0 ≤ b.triangleCount.toInt :=
    fun b hb => (Renderer.fits_of_accept accepted b hb).triangles
  have hgroups := forall₂_groups_recorded r.config.applyScissor found
  rw [DrawContext.bindings_execute ht executed, List.forall₂_map_left_iff, hdevice] at hgroups
  refine ⟨scene.program, _, hgroups, ?_⟩
  have hdraws := DrawContext.exists_draw_iff_handlesShown ht executed
  rw [← any_isDraw_recorded scene.program scene.device r.config.applyScissor] at hdraws
  have hswitch : (switchOps r.config.applyScissor ⟨0, 0, 0, 0⟩).filterMap PassOp.group? = [] := by
    cases r.config.applyScissor <;> rfl
  rw [hcalls, batchCalls_encodedPass, List.any_append, List.any_cons, any_isDraw_switchOps]
  by_cases hnil : (r.drawContext target.viewport).handlesShown d.batches = []
  · have hquiet := mt hdraws.mp (not_not.mpr hnil)
    rw [if_pos hnil, if_neg (by simpa [PassOp.isDraw] using hquiet)]
    rfl
  · rw [if_neg hnil, if_pos (by simp [hdraws.mpr hnil]), textureGroups_replayCalls,
      List.filterMap_append, List.filterMap_cons_none rfl, hswitch, hdevice]
    rfl

/-- A frame that is not drawn has no pass over batches. -/
theorem batchCalls_of_error {e : RenderError}
    (ran : (Renderer.renderFrame backend r frame).run (start device target) = .ok out)
    (failed : out.value.outcome = .error e) : batchCalls out.events = [] := by
  have hprepared : ∀ {viewport lookup s₁ e₁},
      (r.prepare backend).run (start device target) = .ok ⟨(viewport, lookup), s₁, e₁⟩ →
      batchCalls e₁ = [] := by
    intro viewport lookup s₁ e₁ prepared
    obtain ⟨-, d₁, events, -, rfl, -, off, -⟩ := of_run_prepare prepared
    have hrest := passCalls_append_of_offPass off "drawbatch batches" false []
    rw [List.append_nil] at hrest
    rw [batchCalls, passCalls_passEvents, hrest]
    rfl
  cases Renderer.frameCourse_of_run ran with
  | empty _ _ => cases failed
  | unprogrammed _ prepared _ => exact hprepared prepared
  | rejected _ prepared _ _ => exact hprepared prepared
  | refused something _ _ accepted uploaded _ =>
      obtain ⟨hvertices, hindices⟩ := Renderer.ne_nil_of_accept accepted something
      rw [run_upload hvertices hindices] at uploaded
      cases uploaded
  | drawn _ _ _ _ _ _ _ => cases failed

end SpritePass

/-! ## Frames and the textures they show -/

/-- The frame holds something, is accepted, and is drawn. -/
structure Renderer.Draws {P T : Type} (r : Renderer P T) (frame : FrameData)
    (run : Renderer.FrameRun P T) (d : DecodedFrame) : Prop where
  something : frame.isEmpty = false
  accepted : r.accept frame = .ok d
  rendered : ∃ stats, run.outcome = .ok stats

namespace SpritePass

variable {r : DeviceRenderer} {device : Device} {target : RenderTarget} {frame : FrameData}
  {out : Ran (Event GraphicsCall) SpritePass (Renderer.FrameRun SpriteProgram SpriteTexture)}

theorem batchCalls_of_not_draws
    (ran : (Renderer.renderFrame backend r frame).run (start device target) = .ok out)
    (undrawn : ∀ d, ¬ r.Draws frame out.value d) : batchCalls out.events = [] := by
  cases something : frame.isEmpty with
  | true => exact batchCalls_of_empty ran something
  | false =>
      cases rendered : out.value.outcome with
      | error e => exact batchCalls_of_error ran rendered
      | ok stats =>
          obtain ⟨d, -, -, -, accepted, -⟩ := exists_scene ran rendered something
          exact absurd ⟨something, accepted, stats, rendered⟩ (undrawn d)

/-- The textures that a frame binds are those that its batches show. -/
theorem binding_mem_calls_iff {t : SpriteTexture}
    (ran : (Renderer.renderFrame backend r frame).run (start device target) = .ok out) :
    .command (.drawing (.bindTexture (some t))) ∈ out.value.calls ↔
      ∃ d, r.Draws frame out.value d
        ∧ (r.drawContext target.viewport).ShowsTexture d.batches t := by
  have hcourse := Renderer.frameCourse_of_run ran
  cases rendered : out.value.outcome with
  | error e =>
      refine iff_of_false (Renderer.no_drawing_of_error ran rendered _) ?_
      rintro ⟨d, ⟨-, -, stats, hstats⟩, -⟩
      rw [rendered] at hstats
      cases hstats
  | ok stats =>
      cases hcourse with
      | empty nothing cleared =>
          refine iff_of_false (by simp [Renderer.opening, Renderer.header]) ?_
          rintro ⟨d, ⟨something, -, -⟩, -⟩
          rw [nothing] at something
          cases something
      | unprogrammed _ _ _ | rejected _ _ _ _ | refused _ _ _ _ _ _ => cases rendered
      | @drawn viewport lookup s₁ s₂ s₃ e₁ e₂ e₃ p d done something prepared programmed accepted
          uploaded executed performed =>
          obtain ⟨rfl, -⟩ := of_run_prepare prepared
          have ht : ∀ b ∈ d.batches, 0 ≤ b.triangleCount.toInt :=
            fun b hb => (Renderer.fits_of_accept accepted b hb).triangles
          have hcalls := Renderer.drawing_of_drawn prepared d.vertices d.indices p done.commands
          rw [← Renderer.mem_filterMap_drawing?, hcalls]
          constructor
          · intro hbind
            exact ⟨d, ⟨something, accepted, stats, rendered⟩,
              Renderer.textureOf_of_bindTexture accepted executed hbind⟩
          · rintro ⟨d', ⟨-, accepted', -⟩, b, hb, shown, htexture⟩
            obtain rfl : d = d' := Except.ok.inj (accepted.symm.trans accepted')
            rw [← htexture]
            exact DrawContext.bindTexture_mem_execute ht executed hb shown

end SpritePass

/-! ## Pools -/

namespace TexturePool

variable {T : Type} {p p' : TexturePool T} {h h' : TextureHandle} {x y : T}

theorem get?_of_insert (inserted : p.insert x = .ok (h, p')) (held : p'.get? h' = some y) :
    y = x ∨ p.get? h' = some y := by
  obtain ⟨rest, -, rfl⟩ := take_eq_ok_iff.mp inserted
  rw [get?_eq_some_iff, slots_setSlot] at held
  split at held
  · split at held
    · exact Or.inl (Slot.bound.inj (Option.some.inj held)).symm
    · cases held
  · exact Or.inr (get?_eq_some_iff.mpr held)

theorem get?_of_dispose {resource : Option T} (disposed : p.dispose h = .ok (resource, p'))
    (held : p'.get? h' = some y) : p.get? h' = some y := by
  obtain ⟨-, rfl⟩ := dispose_eq_ok_iff.mp disposed
  rw [get?_eq_some_iff] at held
  change (p.setSlot h .free).slots[h'.index]? = _ at held
  rw [slots_setSlot] at held
  split at held
  · split at held
    · cases held
    · cases held
  · exact get?_eq_some_iff.mpr held

end TexturePool

/-! ## Galleries -/

theorem SpriteTexture.of_run_create {width height : UInt32} {pixels : List UInt8} {d d' : Device}
    {t : SpriteTexture} {events : List (Event GraphicsCall)}
    (ran : (create width height pixels).run d = .ok ⟨.ok t, d', events⟩) :
    t.texture = ⟨d.created .texture⟩ ∧ t.view = ⟨d.created .view⟩
      ∧ d' = (d.grow .texture).grow .view
      ∧ ∀ e ∈ events, Narration.group? (.told e) = none := by
  have course := creationCourse width height pixels d
  rw [ran] at course
  cases course with
  | created => exact ⟨rfl, rfl, rfl, by simp [Narration.group?]⟩

/-- A renderer on its device, with the textures that were made for it. -/
structure Gallery where
  device : Device
  renderer : DeviceRenderer
  made : List SpriteTexture

namespace Gallery

/-- What can become of a gallery, with a log of it. A texture is made on the
device and moves into the pool, where it is in one slot at a time; each frame is
drawn on a fresh pass. Others may work on the device aside, as long as they make
no bind groups. -/
inductive History (r₀ : DeviceRenderer) (d₀ : Device) : List DeviceNote → Gallery → Prop
  | start : History r₀ d₀ [] ⟨d₀, r₀, []⟩
  | make {log : List DeviceNote} {g : Gallery} {width height : UInt32} {pixels : List UInt8}
      {answer : Except RenderError SpriteTexture} {d' : Device} {events : List (Event GraphicsCall)}
      (before : History r₀ d₀ log g)
      (ran : (SpriteTexture.create width height pixels).run g.device = .ok ⟨answer, d', events⟩) :
      History r₀ d₀ (log ++ events.map .told) ⟨d', g.renderer, g.made ++ answer.toOption.toList⟩
  | allocate {log : List DeviceNote} {g : Gallery} {t : SpriteTexture} {handle : TextureHandle}
      {r' : DeviceRenderer} {notice : RenderNotice} (before : History r₀ d₀ log g)
      (made : t ∈ g.made) (moved : ∀ h, g.renderer.textures.get? h ≠ some t)
      (allocated : g.renderer.allocateTexture t = .ok (handle, r', notice)) :
      History r₀ d₀ log ⟨g.device, r', g.made⟩
  | dispose {log : List DeviceNote} {g : Gallery} {t : Option SpriteTexture}
      {handle : TextureHandle} {r' : DeviceRenderer} {notice : RenderNotice}
      (before : History r₀ d₀ log g)
      (disposed : g.renderer.disposeTexture handle = .ok (t, r', notice)) :
      History r₀ d₀ log ⟨g.device, r', g.made⟩
  | frame {log notes : List DeviceNote} {g : Gallery} {target : RenderTarget} {data : FrameData}
      {run : Renderer.FrameRun SpriteProgram SpriteTexture} {pass : SpritePass}
      (before : History r₀ d₀ log g)
      (heard : (Renderer.renderFrame SpritePass.backend.narrated g.renderer data).run
        (.start g.device target) = .ok ⟨run, pass, notes⟩) :
      History r₀ d₀ (log ++ notes) ⟨pass.device, run.renderer, g.made⟩
  | aside {log : List DeviceNote} {g : Gallery} {d' : Device} {events : List (Event GraphicsCall)}
      (before : History r₀ d₀ log g) (counts : ∀ kind, g.device.created kind ≤ d'.created kind)
      (groups : d'.textureGroups = g.device.textureGroups)
      (others : ∀ e ∈ events, Narration.group? (.told e) = none) :
      History r₀ d₀ (log ++ events.map .told) ⟨d', g.renderer, g.made⟩

/-- Every texture in the pool was made here. -/
def Owns (g : Gallery) : Prop := ∀ h t, g.renderer.textures.get? h = some t → t ∈ g.made

variable {config : RendererConfig} {r₀ : DeviceRenderer} {d₀ : Device} {log : List DeviceNote}
  {g : Gallery}

theorem History.owns (created : Renderer.create config = .ok r₀)
    (history : History r₀ d₀ log g) : g.Owns := by
  induction history with
  | start =>
      obtain ⟨textures, htextures, hpure⟩ := except_bind_eq_ok_iff.mp created
      obtain rfl := Except.ok.inj hpure
      obtain ⟨-, rfl⟩ := TexturePool.create_eq_ok_iff.mp htextures
      intro h t held
      rw [TexturePool.get?_empty] at held
      cases held
  | make before ran ih => exact fun h t held => List.mem_append_left _ (ih h t held)
  | allocate before made moved allocated ih =>
      intro h t held
      rcases TexturePool.get?_of_insert (Renderer.insert_of_allocate allocated) held with rfl | hold
      · exact made
      · exact ih h t hold
  | dispose before disposed ih =>
      exact fun h t held =>
        ih h t (TexturePool.get?_of_dispose (Renderer.dispose_of_dispose disposed) held)
  | frame before heard ih =>
      intro h t held
      rw [show _ = _ from Renderer.textures_of_run heard] at held
      exact ih h t held
  | aside before counts groups others ih => exact ih

theorem History.books (created : Renderer.create config = .ok r₀) (tidy : d₀.Tidy)
    (history : History r₀ d₀ log g) : Books g.made g.device log := by
  induction history with
  | start => exact .start tidy
  | @make log g width height pixels answer d' events before ran ih =>
      have calm := CalmBy.createTexture width height pixels _ _ ran
      cases answer with
      | error e =>
          rw [show (Except.error e : Except _ SpriteTexture).toOption.toList = [] from rfl,
            List.append_nil]
          exact ih.calm calm
      | ok t =>
          obtain ⟨htexture, hview, rfl, hevents⟩ := SpriteTexture.of_run_create ran
          refine ih.make calm (fun note hnote => ?_) ?_ ?_
          · obtain ⟨e, he, rfl⟩ := List.mem_map.mp hnote
            exact hevents e he
          · rw [htexture]
            exact ⟨Nat.le_refl _, Nat.lt_succ_self _⟩
          · rw [hview]
            exact ⟨Nat.le_refl _, Nat.lt_succ_self _⟩
  | allocate before made moved allocated ih => exact ih
  | dispose before disposed ih => exact ih
  | frame before heard ih => exact ih.frame (before.owns created) heard
  | aside before counts groups others ih => exact ih.calm (CalmBy.of_events counts groups others)

/-- A group that is set for a handle: the default where there is no texture,
and else the one group of the texture that the handle holds. -/
def Stands (g : Gallery) (log : List DeviceNote) (default : ObjectId .group) :
    Option TextureHandle → ObjectId .group → Prop
  | none, group => group = default
  | some h, group => ∃ t ∈ g.made, g.renderer.textures.get? h = some t
      ∧ t.BuiltOnce group log ∧ viewsOf group log = [t.view]

/-- What a frame has to do with the textures of a gallery: it binds those that
its batches show, and every group that its pass sets is the one that stands for
the handle of a batch. -/
structure Shown (g : Gallery) (log : List DeviceNote) (target : RenderTarget) (frame : FrameData)
    (out : Ran (Event GraphicsCall) SpritePass (Renderer.FrameRun SpriteProgram SpriteTexture))
    (notes : List DeviceNote) : Prop where
  heard : (Renderer.renderFrame SpritePass.backend.narrated g.renderer frame).run
    (.start g.device target) = .ok ⟨out.value, out.state, notes⟩
  tells : Narration.Tells notes out.value.calls out.events
  binds : ∀ t, .binding t ∈ notes ↔ ∃ d, g.renderer.Draws frame out.value d
    ∧ (g.renderer.drawContext target.viewport).ShowsTexture d.batches t
  undrawn : (∀ d, ¬ g.renderer.Draws frame out.value d) → batchCalls out.events = []
  drawn : ∀ d, g.renderer.Draws frame out.value d → ∃ default groups,
    List.Forall₂ (g.Stands (log ++ notes) default)
      ((g.renderer.drawContext target.viewport).handlesShown d.batches) groups
    ∧ (batchCalls out.events).filterMap PassCall.textureGroup?
      = if (g.renderer.drawContext target.viewport).handlesShown d.batches = [] then []
        else default :: groups

theorem exists_shown {target : RenderTarget} {frame : FrameData}
    {out : Ran (Event GraphicsCall) SpritePass (Renderer.FrameRun SpriteProgram SpriteTexture)}
    (books : Books g.made g.device log) (owns : g.Owns)
    (ran : (Renderer.renderFrame SpritePass.backend g.renderer frame).run (.start g.device target)
      = .ok out) : ∃ notes, g.Shown log target frame out notes := by
  obtain ⟨notes, heard, tells⟩ := Renderer.exists_narrated ran
  refine ⟨notes, heard, tells, fun t => ?_, SpritePass.batchCalls_of_not_draws ran,
    fun d draws => ?_⟩
  · rw [← SpritePass.binding_mem_calls_iff ran, ← tells.said]
    exact Narration.mem_filterMap_said?.symm
  · have after := books.frame owns heard
    obtain ⟨stats, rendered⟩ := draws.rendered
    obtain ⟨p, groups, hgroups, hcalls⟩ :=
      SpritePass.exists_textureGroups ran rendered draws.something draws.accepted
    refine ⟨p.defaultGroup, groups, ?_, hcalls⟩
    have hheld : ∀ handle ∈ (g.renderer.drawContext target.viewport).handlesShown d.batches,
        ∀ h, handle = some h → ∃ t, g.renderer.textures.get? h = some t := by
      rintro _ hmem h rfl
      exact DrawContext.exists_of_mem_handlesShown hmem
    refine ((List.forall₂_and_left _ _).mpr ⟨hheld, hgroups⟩).imp ?_
    rintro handle group ⟨held, hgroup⟩
    cases handle with
    | none => exact (Option.some.inj hgroup).symm
    | some h =>
        obtain ⟨t, ht⟩ := held h rfl
        have hkept : out.state.device.groupOf? t.texture = some group := by
          rw [Option.bind_some, ht] at hgroup
          exact hgroup
        exact ⟨t, owns h t ht, ht, after.built t (owns h t ht) group hkept⟩

/-- **Bind groups are built once, and none is stale.** Take any history of a new
renderer: textures made and moved into its pool, handles disposed of and handed
out again, and frames, each on a fresh pass. No two textures share a view. A
texture has either never been bound and has no bind group, or its one group was
made right at its first binding and none before or after. Any frame that comes
next binds exactly the textures that its drawn batches show. In its pass, the
group set for a handle shows the view of the texture that the pool holds there
in this frame, and is the one group made for that texture. -/
theorem texture_groups_built_once (created : Renderer.create config = .ok r₀) (tidy : d₀.Tidy)
    (history : History r₀ d₀ log g) :
    (g.made.map SpriteTexture.view).Nodup
      ∧ (∀ t ∈ g.made, t.Untouched log ∨ ∃ group, t.BuiltOnce group log)
      ∧ ∀ target frame out,
        (Renderer.renderFrame SpritePass.backend g.renderer frame).run (.start g.device target)
          = .ok out → ∃ notes, g.Shown log target frame out notes := by
  have books := history.books created tidy
  refine ⟨?_, fun t ht => ?_, fun target frame out ran =>
    exists_shown books (history.owns created) ran⟩
  · exact List.pairwise_map.mpr (books.distinct.imp And.right)
  · cases hg : g.device.groupOf? t.texture with
    | none => exact Or.inl (books.untouched t ht hg)
    | some group => exact Or.inr ⟨group, (books.built t ht group hg).1⟩

/-- The pixel that a device makes next. -/
def pixel (d : Device) : SpriteTexture := ⟨⟨d.created .texture⟩, ⟨d.created .view⟩, 1, 1⟩

def sampleRenderer (textures : TexturePool SpriteTexture) : DeviceRenderer :=
  ⟨⟨1, .black, false⟩, textures, .ofSource .sprite, false, 0⟩

/-- A pixel, made on a new device and moved into a pool of one slot. -/
def sample : Gallery where
  device := (Device.fresh.grow .texture).grow .view
  renderer := sampleRenderer ⟨#[.bound (pixel .fresh)], []⟩
  made := [pixel .fresh]

theorem get?_empty_ne (h : TextureHandle) (t : SpriteTexture) :
    (TexturePool.empty 1).get? h ≠ some t := by
  rw [TexturePool.get?_empty]
  exact (Option.some_ne_none t).symm

theorem exists_history_sample : ∃ log, History (sampleRenderer (.empty 1)) .fresh log sample := by
  obtain ⟨_, _, -, -, made⟩ := SpriteProgram.run_white .fresh
  exact ⟨_, (History.start.make made).allocate (List.mem_singleton_self _)
    (fun h => get?_empty_ne h _) rfl⟩

/-- The pixel is drawn and disposed of, and another one gets its handle and is
drawn: each has a group of its own. -/
theorem texture_groups_built_once_sample :
    ∃ log, ∃ g : Gallery, ∃ t t' : SpriteTexture,
      Renderer.create ⟨1, .black, false⟩ = .ok (sampleRenderer (.empty 1)) ∧ Device.fresh.Tidy
        ∧ History (sampleRenderer (.empty 1)) .fresh log g
        ∧ g.made = [t, t'] ∧ g.renderer.textures.get? ⟨0⟩ = some t' ∧ t.view ≠ t'.view
        ∧ (∃ group, t.BuiltOnce group log)
        ∧ ∃ out notes,
          g.Shown log SpritePass.sampleTarget (Renderer.triangle ⟨0⟩).pack out notes := by
  obtain ⟨log, history⟩ := exists_history_sample
  have created : Renderer.create ⟨1, .black, false⟩ = .ok (sampleRenderer (.empty 1)) := rfl
  have tidy : Device.fresh.Tidy := by
    intro t g hg
    cases hg
  obtain ⟨out, ran, hbind⟩ := exists_ok_of_map_toOption (b := true)
    (f := fun out : Ran (Event GraphicsCall) SpritePass
        (Renderer.FrameRun SpriteProgram SpriteTexture) =>
      decide (Call.command (.drawing (.bindTexture (some (pixel .fresh)))) ∈ out.value.calls))
    (x := (Renderer.renderFrame SpritePass.backend sample.renderer
      (Renderer.triangle ⟨0⟩).pack).run (.start sample.device SpritePass.sampleTarget))
    (by decide +kernel)
  obtain ⟨notes, heard, tells⟩ := Renderer.exists_narrated ran
  have bound : .binding (pixel .fresh) ∈ notes := by
    have hcall := of_decide_eq_true hbind
    rw [← tells.said] at hcall
    exact Narration.mem_filterMap_said?.mp hcall
  have hpool : out.value.renderer.textures = sample.renderer.textures :=
    Renderer.textures_of_run ran
  have hcount : out.value.renderer.frameCount = 1 := by
    cases Renderer.frameCourse_of_run ran <;> rfl
  have disposed : out.value.renderer.disposeTexture ⟨0⟩ = .ok (some (pixel .fresh),
      { out.value.renderer with textures := .empty 1 }, .textureDisposed ⟨0⟩ 0) := by
    rw [Renderer.disposeTexture, hpool]
    rfl
  obtain ⟨_, _, -, -, made⟩ := SpriteProgram.run_white out.state.device
  have later := (((history.frame heard).dispose disposed).make made).allocate
    (List.mem_append_right _ (List.mem_singleton_self _)) (fun h => get?_empty_ne h _) rfl
  obtain ⟨hviews, hbuilt, hshown⟩ := texture_groups_built_once created tidy later
  obtain ⟨out', ran'⟩ := SpritePass.exists_run_frame
    (r := { out.value.renderer with textures := ⟨#[.bound (pixel out.state.device)], []⟩ })
    (by rw [hcount]; decide) (Renderer.triangle ⟨0⟩).pack
    ((out.state.device.grow .texture).grow .view) SpritePass.sampleTarget
  refine ⟨_, _, _, _, created, tidy, later, rfl, rfl, List.pairwise_pair.mp hviews, ?_, out',
    hshown _ _ out' ran'⟩
  refine (hbuilt (pixel .fresh)
    (List.mem_append_left _ (List.mem_singleton_self _))).resolve_left fun untouched => ?_
  exact (untouched _ (List.mem_append_left _ (List.mem_append_right _ bound))).1 rfl

end Gallery

end SpriteRenderer

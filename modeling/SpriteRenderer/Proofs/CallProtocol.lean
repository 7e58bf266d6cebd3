import Mathlib.Logic.ExistsUnique
import SpriteRenderer.Proofs.FrameCourse

/-!
# The call protocol of a frame

What one frame says to its device has one of four shapes, and the shape
is settled by the frame's outcome: nothing to draw, stopped before the
upload, refused at the upload, or drawn (`FrameShape.Matches`,
`exists_unique_shape`). A drawn frame is a sequence of `BatchGroup`s
between an upload and a release.

Over whole runs the shapes are folded into a two-state reading of the
calls, `Bracket`: geometry is either there or not, drawing commands are in
place only while it is there, and every upload, taken or refused, is
followed by exactly one release before the next. Frames start and end with
no geometry (`Bracket.after_matches`), so any sequence of them does
(`brackets_session`).
-/

namespace SpriteRenderer

variable {ε σ P T : Type}

/-! ## Groups of commands -/

/-- One drawn batch: what it sets, each at most once and in this order, and
its draw. -/
structure BatchGroup (T : Type) where
  clip : Option Clip
  texture : Option (Option T)
  blend : Option BlendFunc
  first : UInt32
  count : UInt32

def BatchGroup.commands (g : BatchGroup T) : List (DrawCommand T) :=
  g.clip.toList.map .scissorRect ++ g.texture.toList.map .bindTexture
    ++ g.blend.toList.map .blend ++ [.draw g.first g.count]

namespace DrawContext

theorem exists_group_drawBatch (c : DrawContext T) (cursor : Cursor) (shown : Visibility)
    (b : Batch) : ∃ g : BatchGroup T, (c.drawBatch cursor shown b).commands = g.commands := by
  have hclip : ∃ o : Option Clip, (clipChange cursor shown : List (DrawCommand T))
      = o.toList.map .scissorRect := by
    cases shown with
    | hidden | unclipped => exact ⟨none, rfl⟩
    | clipped clip =>
        by_cases hsame : cursor.clip = some clip
        · exact ⟨none, by simp [clipChange, hsame]⟩
        · exact ⟨some clip, by simp [clipChange, hsame]⟩
  have htexture : ∀ handle, ∃ o : Option (Option T), rebind c cursor handle
      = o.toList.map .bindTexture := by
    intro handle
    by_cases hsame : cursor.texture = some handle
    · exact ⟨none, by simp [rebind, hsame]⟩
    · exact ⟨some (handle.bind c.textures.get?), by simp [rebind, hsame]⟩
  have hblend : ∀ func, ∃ o : Option BlendFunc, (reblend cursor func : List (DrawCommand T))
      = o.toList.map .blend := by
    intro func
    by_cases hsame : cursor.blend = some func
    · exact ⟨none, by simp [reblend, hsame]⟩
    · exact ⟨some func, by simp [reblend, hsame]⟩
  obtain ⟨clip, hclip⟩ := hclip
  obtain ⟨texture, htexture⟩ := htexture (c.resolve b.textureId).handle?
  obtain ⟨blend, hblend⟩ := hblend b.blendMode.func
  refine ⟨⟨clip, texture, blend, b.indexStart.toUInt32, .ofInt b.indexLength⟩, ?_⟩
  rw [BatchGroup.commands, ← hclip, ← htexture, ← hblend]
  rfl

/-- An executed list is a sequence of groups, one for each draw it counts. -/
theorem exists_groups_steps (c : DrawContext T) (cursor : Cursor) (batches : List Batch) :
    ∃ groups : List (BatchGroup T),
      (c.steps cursor batches).commands = groups.flatMap BatchGroup.commands
        ∧ (c.steps cursor batches).cursor.stats.drawCalls
          = cursor.stats.drawCalls + groups.length := by
  induction batches generalizing cursor with
  | nil => exact ⟨[], rfl, rfl⟩
  | cons b rest ih =>
      obtain ⟨groups, hcommands, hcalls⟩ := ih (c.step cursor b).cursor
      simp only [steps, hcommands, hcalls]
      unfold step
      cases hvis : c.visibility b with
      | hidden => exact ⟨groups, rfl, rfl⟩
      | unclipped =>
          obtain ⟨g, hg⟩ := exists_group_drawBatch c cursor .unclipped b
          refine ⟨g :: groups, by simp [hg], ?_⟩
          simp only [drawBatch, List.length_cons]
          omega
      | clipped clip =>
          obtain ⟨g, hg⟩ := exists_group_drawBatch c cursor (.clipped clip) b
          refine ⟨g :: groups, by simp [hg], ?_⟩
          simp only [drawBatch, List.length_cons]
          omega

theorem exists_groups_execute {c : DrawContext T} {warned : Bool} {batches : List Batch}
    {done : Execution T} (h : c.execute warned batches = .ok done) :
    ∃ groups : List (BatchGroup T), done.commands = groups.flatMap BatchGroup.commands
      ∧ done.stats.drawCalls = groups.length := by
  obtain ⟨_, -, hdone⟩ := except_bind_eq_ok_iff.mp h
  obtain rfl := Except.ok.inj hdone
  simpa [Cursor.start, FrameStats.zero] using
    exists_groups_steps c (.start warned batches.length) batches

end DrawContext

/-! ## Shapes of frames -/

/-- The four shapes: nothing to draw, stopped before the upload, refused at
the upload, drawn. -/
inductive FrameShape where
  | cleared
  | stopped
  | refused
  | drawn
deriving DecidableEq

namespace FrameShape

def header (r : Renderer P T) : List (Call P T) :=
  [.command (.stencilTest false), .command (.scissorTest false),
    .command (.clear r.config.clearColor 0)]

def compiling (r : Renderer P T) : List (Call P T) :=
  match r.shader.state with
  | .uncompiled => [.compile r.shader.source]
  | .ready _ | .failed _ => []

/-- Whether an outcome and a list of calls have a given shape. -/
def Matches (r : Renderer P T) (frame : FrameData) (outcome : Except RenderError FrameStats)
    (calls : List (Call P T)) : FrameShape → Prop
  | .cleared => frame.isEmpty = true ∧ outcome = .ok .zero ∧ calls = header r
  | .stopped =>
      frame.isEmpty = false
        ∧ (∃ e, outcome = .error e
          ∧ ((∃ log, e = .shaderCompileFailure r.shader.source.name log)
            ∨ r.accept frame = .error e))
        ∧ calls = header r ++ compiling r
  | .refused =>
      frame.isEmpty = false
        ∧ ∃ d e, r.accept frame = .ok d ∧ outcome = .error e
          ∧ calls = header r ++ compiling r
            ++ [.upload d.vertices d.indices false, .command .releaseGeometry]
  | .drawn =>
      frame.isEmpty = false
        ∧ ∃ d stats program projection, ∃ groups : List (BatchGroup T),
          r.accept frame = .ok d ∧ outcome = .ok stats ∧ stats.drawCalls = groups.length
            ∧ calls = header r ++ compiling r
              ++ [.upload d.vertices d.indices true,
                .command (.useProgram program projection)]
              ++ (if r.config.applyScissor then [.command (.scissorTest true)] else [])
              ++ (groups.flatMap BatchGroup.commands).map (fun c => .command (.drawing c))
              ++ [.command .releaseGeometry]

/-- The shape, read off the outcome and whether anything was uploaded. -/
def tell (outcome : Except RenderError FrameStats) (calls : List (Call P T)) : FrameShape :=
  match outcome, calls.any fun | .upload _ _ _ => true | _ => false with
  | .ok _, true => .drawn
  | .ok _, false => .cleared
  | .error _, true => .refused
  | .error _, false => .stopped

theorem eq_tell {r : Renderer P T} {frame : FrameData} {outcome : Except RenderError FrameStats}
    {calls : List (Call P T)} {shape : FrameShape} (h : Matches r frame outcome calls shape) :
    shape = tell outcome calls := by
  cases shape with
  | cleared =>
      obtain ⟨-, rfl, rfl⟩ := h
      rfl
  | stopped =>
      obtain ⟨-, ⟨e, rfl, -⟩, rfl⟩ := h
      unfold compiling
      cases r.shader.state <;> rfl
  | refused =>
      obtain ⟨-, d, e, -, rfl, rfl⟩ := h
      simp [tell]
  | drawn =>
      obtain ⟨-, d, stats, program, projection, groups, -, rfl, -, rfl⟩ := h
      simp [tell]

end FrameShape

namespace Renderer

variable {B : Backend ε σ P T} {r : Renderer P T} {frame : FrameData} {s : σ}

/-- The program is asked for exactly if it was never compiled, and a failure
names the source. -/
theorem lookup_of_prepare {viewport : Viewport} {lookup : ShaderCache.Lookup P T} {s₁ : σ}
    {e₁ : List ε} (h : (prepare B r).run s = .ok ⟨(viewport, lookup), s₁, e₁⟩) :
    lookup.calls = FrameShape.compiling r
      ∧ ∀ e, lookup.outcome = .error e →
        ∃ log, e = .shaderCompileFailure r.shader.source.name log := by
  obtain ⟨answer, houtcome, -, hanswer⟩ := lookup_cases h
  refine ⟨?_, ?_⟩
  · unfold FrameShape.compiling
    rcases hanswer with ⟨hknown, hcalls⟩ | ⟨hunknown, hcalls, -⟩
    · cases answer with
      | ok program => rw [hcalls, ShaderCache.answer?_eq_ok_iff.mp hknown]
      | error log => rw [hcalls, ShaderCache.answer?_eq_error_iff.mp hknown]
    · rw [hcalls, ShaderCache.answer?_eq_none_iff.mp hunknown]
  · intro e he
    obtain ⟨log, -, rfl⟩ := exists_error_of_mapError (houtcome.symm.trans he)
    exact ⟨log, rfl⟩

theorem map_command_body (r : Renderer P T) (program : P) (viewport : Viewport)
    (drawing : List (DrawCommand T)) :
    (r.body program viewport drawing).map Call.command =
      .command (.useProgram program (.screen viewport))
        :: ((if r.config.applyScissor then [.command (.scissorTest true)] else [])
          ++ drawing.map (fun c => .command (.drawing c)) ++ [.command .releaseGeometry]) := by
  cases hs : r.config.applyScissor <;> simp [body, hs]

theorem exists_shape {out : Ran ε σ (FrameRun P T)}
    (h : (renderFrame B r frame).run s = .ok out) :
    ∃ shape, FrameShape.Matches r frame out.value.outcome out.value.calls shape := by
  cases frameCourse_of_run h with
  | empty nothing cleared => exact ⟨.cleared, nothing, rfl, rfl⟩
  | unprogrammed something prepared failed =>
      obtain ⟨hcalls, hlog⟩ := lookup_of_prepare prepared
      refine ⟨.stopped, something, ⟨_, rfl, Or.inl (hlog _ failed)⟩, ?_⟩
      rw [hcalls]
      rfl
  | rejected something prepared programmed bad =>
      refine ⟨.stopped, something, ⟨_, rfl, Or.inr bad⟩, ?_⟩
      rw [(lookup_of_prepare prepared).1]
      rfl
  | refused something prepared programmed accepted uploaded released =>
      refine ⟨.refused, something, _, _, accepted, rfl, ?_⟩
      rw [(lookup_of_prepare prepared).1, ← List.append_assoc]
      rfl
  | @drawn viewport lookup _ _ _ _ _ _ program d done something prepared programmed accepted
      uploaded executed performed =>
      obtain ⟨groups, hcommands, hcalls⟩ := DrawContext.exists_groups_execute executed
      refine ⟨.drawn, something, d, done.stats, program, .screen viewport, groups, accepted, rfl,
        hcalls, ?_⟩
      rw [(lookup_of_prepare prepared).1, ← hcommands, map_command_body]
      simp [opening, Renderer.header, FrameShape.header]

theorem exists_unique_shape {out : Ran ε σ (FrameRun P T)}
    (h : (renderFrame B r frame).run s = .ok out) :
    ∃! shape, FrameShape.Matches r frame out.value.outcome out.value.calls shape := by
  obtain ⟨shape, hshape⟩ := exists_shape h
  refine ⟨shape, hshape, fun shape' hshape' => ?_⟩
  rw [FrameShape.eq_tell hshape, FrameShape.eq_tell hshape']

end Renderer

/-! ## Brackets -/

/-- Whether there is geometry: none, or an upload that was taken or not. -/
inductive Bracket where
  | closed
  | opened (taken : Bool)
deriving DecidableEq

namespace Bracket

/-- What a call makes of it; `none` where the call is out of place. -/
def next : Bracket → Call P T → Option Bracket
  | .closed, .upload _ _ taken => some (.opened taken)
  | .opened _, .upload _ _ _ => none
  | .opened _, .command .releaseGeometry => some .closed
  | .closed, .command .releaseGeometry => none
  | .opened true, .command (.drawing _) => some (.opened true)
  | _, .command (.drawing _) => none
  | b, _ => some b

def after (b : Bracket) (calls : List (Call P T)) : Option Bracket := calls.foldlM next b

theorem after_append (b : Bracket) (xs ys : List (Call P T)) :
    b.after (xs ++ ys) = (b.after xs).bind fun b' => b'.after ys := by
  simp [after]

theorem after_drawing (drawing : List (DrawCommand T)) :
    (opened true).after (drawing.map fun c => (.command (.drawing c) : Call P T))
      = some (opened true) := by
  induction drawing with
  | nil => rfl
  | cons c rest ih => simpa [after, next] using ih

theorem after_header (r : Renderer P T) :
    closed.after (FrameShape.header r ++ FrameShape.compiling r) = some closed := by
  unfold FrameShape.compiling
  cases r.shader.state <;> rfl

/-- A frame leaves no geometry behind, and draws only while it is there. -/
theorem after_matches {r : Renderer P T} {frame : FrameData}
    {outcome : Except RenderError FrameStats} {calls : List (Call P T)} {shape : FrameShape}
    (h : FrameShape.Matches r frame outcome calls shape) : closed.after calls = some closed := by
  cases shape with
  | cleared =>
      obtain ⟨-, -, rfl⟩ := h
      rfl
  | stopped =>
      obtain ⟨-, -, rfl⟩ := h
      exact after_header r
  | refused =>
      obtain ⟨-, d, e, -, -, rfl⟩ := h
      rw [after_append, after_header]
      rfl
  | drawn =>
      obtain ⟨-, d, stats, program, projection, groups, -, -, -, rfl⟩ := h
      have hupload : closed.after [(.upload d.vertices d.indices true : Call P T),
          .command (.useProgram program projection)] = some (opened true) := rfl
      have hscissor : (opened true).after (if r.config.applyScissor
          then [(.command (.scissorTest true) : Call P T)] else []) = some (opened true) := by
        cases r.config.applyScissor <;> rfl
      rw [after_append, after_append, after_append, after_append, after_header, Option.bind_some,
        hupload, Option.bind_some, hscissor, Option.bind_some, after_drawing]
      rfl

end Bracket

namespace Renderer

/-! ## Sessions -/

/-- A renderer at work: frames, each on a device and in a device state of its
own, with textures coming and going between them. The list is the frames. -/
inductive Session : Renderer P T → List (FrameRun P T) → Renderer P T → Prop
  | start (r : Renderer P T) : Session r [] r
  | frame {ε σ : Type} {B : Backend ε σ P T} {s : σ} {data : FrameData}
      {r r' : Renderer P T} {log : List (FrameRun P T)} {out : Ran ε σ (FrameRun P T)}
      (before : Session r log r') (ran : (renderFrame B r' data).run s = .ok out) :
      Session r (log ++ [out.value]) out.value.renderer
  | allocate {r r' r'' : Renderer P T} {log : List (FrameRun P T)} {resource : T}
      {handle : TextureHandle} {notice : RenderNotice} (before : Session r log r')
      (allocated : r'.allocateTexture resource = .ok (handle, r'', notice)) : Session r log r''
  | dispose {r r' r'' : Renderer P T} {log : List (FrameRun P T)} {resource : Option T}
      {handle : TextureHandle} {notice : RenderNotice} (before : Session r log r')
      (disposed : r'.disposeTexture handle = .ok (resource, r'', notice)) : Session r log r''

theorem brackets_session {r r' : Renderer P T} {log : List (FrameRun P T)}
    (session : Session r log r') :
    Bracket.closed.after (log.flatMap FrameRun.calls) = some .closed := by
  induction session with
  | start r => rfl
  | frame before ran ih =>
      obtain ⟨shape, hshape⟩ := exists_shape ran
      rw [List.flatMap_append, Bracket.after_append, ih, Option.bind_some, List.flatMap_singleton]
      exact Bracket.after_matches hshape
  | allocate before allocated ih => exact ih
  | dispose before disposed ih => exact ih

variable {B : Backend ε σ P T} {r : Renderer P T} {frame : FrameData} {s : σ}

/-- A frame that failed has not drawn, nor set anything to draw with. -/
theorem no_drawing_of_error {out : Ran ε σ (FrameRun P T)} {e : RenderError}
    (h : (renderFrame B r frame).run s = .ok out) (failed : out.value.outcome = .error e)
    (c : DrawCommand T) : .command (.drawing c) ∉ out.value.calls := by
  obtain ⟨shape, hshape⟩ := exists_shape h
  rw [failed] at hshape
  have hcompiling : Call.command (.drawing c) ∉ FrameShape.compiling r := by
    unfold FrameShape.compiling
    cases r.shader.state <;> simp
  cases shape with
  | cleared =>
      obtain ⟨-, hok, -⟩ := hshape
      cases hok
  | stopped =>
      obtain ⟨-, -, hcalls⟩ := hshape
      simp [hcalls, FrameShape.header, hcompiling]
  | refused =>
      obtain ⟨-, d, e', -, -, hcalls⟩ := hshape
      simp [hcalls, FrameShape.header, hcompiling]
  | drawn =>
      obtain ⟨-, d, stats, program, projection, groups, -, hok, -⟩ := hshape
      cases hok

/-- **The call protocol.** What a frame reports is what its device hears. It
has exactly one of the four shapes; after an error it holds no drawing
command; it leaves no geometry behind. Over any session, whatever the devices
answered in it, drawing happens between an upload that was taken and its
release only, and every upload has one release before the next. -/
theorem frame_call_protocol (B : Backend ε σ P T) (r : Renderer P T) (frame : FrameData) (s : σ)
    (out : Ran ε σ (FrameRun P T)) (h : (renderFrame B r frame).run s = .ok out) :
    (renderFrame B.observed r frame).run s = .ok ⟨out.value, out.state, out.value.calls⟩
      ∧ (∃! shape, FrameShape.Matches r frame out.value.outcome out.value.calls shape)
      ∧ (∀ e, out.value.outcome = .error e → ∀ c, .command (.drawing c) ∉ out.value.calls)
      ∧ Bracket.closed.after out.value.calls = some .closed
      ∧ ∀ (r₀ r₁ : Renderer P T) (log : List (FrameRun P T)), Session r₀ log r₁ →
        Bracket.closed.after (log.flatMap FrameRun.calls) = some .closed := by
  obtain ⟨shape, hshape⟩ := exists_shape h
  exact ⟨run_renderFrame_observed h, exists_unique_shape h,
    fun e failed => no_drawing_of_error h failed, Bracket.after_matches hshape,
    fun r₀ r₁ log session => brackets_session session⟩

/-- A drawn frame of nine commands in four groups, and the same frame where
the device refuses its geometry. -/
theorem frame_call_protocol_sample :
    (∃ out, (renderFrame (Rehearsal.backend Nat) sampleRenderer DrawContext.sampleFrame.pack).run
          ⟨DrawContext.sampleContext.viewport, none, none, 0⟩ = .ok out
        ∧ out.value.calls.length = 17
        ∧ ∃! shape, FrameShape.Matches sampleRenderer DrawContext.sampleFrame.pack
          out.value.outcome out.value.calls shape)
      ∧ ∃ out, (renderFrame (Rehearsal.backend Nat) sampleRenderer
            DrawContext.sampleFrame.pack).run
          ⟨DrawContext.sampleContext.viewport, none, some "lost", 0⟩ = .ok out
        ∧ out.value.calls.length = 6
        ∧ ∃! shape, FrameShape.Matches sampleRenderer DrawContext.sampleFrame.pack
          out.value.outcome out.value.calls shape := by
  refine ⟨?_, ?_⟩
  · obtain ⟨out, hout, hlength⟩ := exists_ok_of_map_toOption (b := 17)
      (f := fun out : Ran Empty Rehearsal (FrameRun Nat Nat) => out.value.calls.length)
      (x := (renderFrame (Rehearsal.backend Nat) sampleRenderer DrawContext.sampleFrame.pack).run
        ⟨DrawContext.sampleContext.viewport, none, none, 0⟩) (by decide +kernel)
    exact ⟨out, hout, hlength, (frame_call_protocol _ _ _ _ _ hout).2.1⟩
  · obtain ⟨out, hout, hlength⟩ := exists_ok_of_map_toOption (b := 6)
      (f := fun out : Ran Empty Rehearsal (FrameRun Nat Nat) => out.value.calls.length)
      (x := (renderFrame (Rehearsal.backend Nat) sampleRenderer DrawContext.sampleFrame.pack).run
        ⟨DrawContext.sampleContext.viewport, none, some "lost", 0⟩) (by decide +kernel)
    exact ⟨out, hout, hlength, (frame_call_protocol _ _ _ _ _ hout).2.1⟩

end Renderer

end SpriteRenderer

import SpriteRenderer.Proofs.CallProtocol
import SpriteRenderer.Proofs.DrawBounds

/-!
# Dropped frames

A frame that fails without being fatal is dropped, and the renderer goes on
as if it had not been there: `renderer_of_dropped` says what is left of it,
a number on the frame counter and a program if there was none yet.

So such frames can be put into a run, or taken out of it, without a change to
anything else. To say this, a `Bench` is a renderer with a rehearsing device,
`RendererOp.run` works on it for a while, and `Woven` compares the replies of
two runs of which one has frames inserted. What carries the induction is that
a renderer reads its frame counter only to write it into the log
(`frameCourse_of_later`).
-/

namespace SpriteRenderer

variable {ε σ P T : Type}

namespace Renderer

variable {B : Backend ε σ P T} {r : Renderer P T} {frame : FrameData} {s : σ}

/-! ## What a dropped frame leaves -/

theorem cache_of_programmed {viewport : Viewport} {lookup : ShaderCache.Lookup P T} {s₁ : σ}
    {e₁ : List ε} {program : P} (prepared : (prepare B r).run s = .ok ⟨(viewport, lookup), s₁, e₁⟩)
    (programmed : lookup.outcome = .ok program) :
    lookup.cache = ⟨r.shader.source, .ready program⟩
      ∧ (r.shader.state = .ready program ∨ r.shader.state = .uncompiled) := by
  obtain ⟨answer, houtcome, hcache, hanswer⟩ := lookup_cases prepared
  obtain rfl := eq_ok_of_mapError (houtcome.symm.trans programmed)
  refine ⟨hcache, ?_⟩
  rcases hanswer with ⟨hknown, -⟩ | ⟨hunknown, -, -⟩
  · exact Or.inl (ShaderCache.answer?_eq_ok_iff.mp hknown)
  · exact Or.inr (ShaderCache.answer?_eq_none_iff.mp hunknown)

/-- A dropped frame is counted, and has its program compiled. -/
theorem renderer_of_dropped {out : Ran ε σ (FrameRun P T)} {e : RenderError}
    (h : (renderFrame B r frame).run s = .ok out) (dropped : out.value.outcome = .error e)
    (mild : e.isFatal = false) :
    ∃ program, out.value.renderer = { r.counted with shader := ⟨r.shader.source, .ready program⟩ }
      ∧ (r.shader.state = .ready program ∨ r.shader.state = .uncompiled) := by
  cases frameCourse_of_run h with
  | empty nothing cleared => cases dropped
  | drawn something prepared programmed accepted uploaded executed performed => cases dropped
  | unprogrammed something prepared failed =>
      obtain ⟨log, rfl⟩ := (lookup_of_prepare prepared).2 _ failed
      obtain rfl := Except.error.inj dropped
      cases mild
  | @rejected _ _ _ _ program _ something prepared programmed bad =>
      obtain ⟨hcache, hbefore⟩ := cache_of_programmed prepared programmed
      exact ⟨program, by rw [lookedUp, hcache], hbefore⟩
  | @refused _ _ _ _ _ _ _ _ program _ _ something prepared programmed accepted uploaded released =>
      obtain ⟨hcache, hbefore⟩ := cache_of_programmed prepared programmed
      exact ⟨program, by rw [lookedUp, hcache], hbefore⟩

/-! ## Renderers that differ in their frame counters -/

/-- The same renderer after `k` more frames that left nothing else behind. -/
def later (k : Nat) (r : Renderer P T) : Renderer P T :=
  { r with frameCount := r.frameCount + k }

theorem counted_later (k : Nat) (r : Renderer P T) : (r.later k).counted = r.counted.later k := by
  simp only [later, counted, Nat.add_right_comm]

theorem lookedUp_later (k : Nat) (r : Renderer P T) (lookup : ShaderCache.Lookup P T) :
    (r.later k).lookedUp lookup = (r.lookedUp lookup).later k := by
  rw [lookedUp, counted_later]
  rfl

end Renderer

/-- A notice as it is worded `k` frames later. -/
def RenderNotice.later (k : Nat) : RenderNotice → RenderNotice
  | .frameDrawn number stats => .frameDrawn (number + k) stats
  | notice => notice

namespace Renderer

def FrameRun.later (k : Nat) (run : FrameRun P T) : FrameRun P T :=
  { run with renderer := run.renderer.later k, notices := run.notices.map (.later k) }

variable {B : Backend ε σ P T} {r : Renderer P T} {frame : FrameData} {s : σ} {k : Nat}

theorem map_later {α : Type} {f : α → RenderNotice} (unnumbered : ∀ a, (f a).later k = f a)
    (xs : List α) : (xs.map f).map (RenderNotice.later k) = xs.map f := by
  rw [List.map_map]
  exact List.map_congr_left fun a _ => unnumbered a

/-- The counter is no part of any decision: the course of a frame is that of
the same frame earlier. -/
theorem frameCourse_of_later {out : Ran ε σ (FrameRun P T)}
    (course : FrameCourse B (r.later k) frame s out) :
    ∃ run, FrameCourse B r frame s ⟨run, out.state, out.events⟩ ∧ out.value = run.later k := by
  cases course with
  | empty nothing cleared =>
      refine ⟨_, .empty nothing cleared, ?_⟩
      rw [counted_later]
      rfl
  | unprogrammed something prepared failed =>
      refine ⟨_, .unprogrammed something prepared failed, ?_⟩
      rw [lookedUp_later, FrameRun.later, map_later fun _ => rfl]
      rfl
  | rejected something prepared programmed bad =>
      refine ⟨_, .rejected something prepared programmed bad, ?_⟩
      rw [lookedUp_later, FrameRun.later, map_later fun _ => rfl]
      rfl
  | refused something prepared programmed accepted uploaded released =>
      refine ⟨_, .refused something prepared programmed accepted uploaded released, ?_⟩
      rw [lookedUp_later, FrameRun.later, map_later fun _ => rfl]
      rfl
  | drawn something prepared programmed accepted uploaded executed performed =>
      refine ⟨_, .drawn something prepared programmed accepted uploaded executed performed, ?_⟩
      have hnumber : (r.later k).frameCount + 1 = r.frameCount + 1 + k := Nat.add_right_comm ..
      rw [lookedUp_later, hnumber, FrameRun.later, List.map_append, List.map_append,
        map_later fun _ => rfl, map_later fun _ => rfl]
      rfl

theorem run_of_later {out : Ran ε σ (FrameRun P T)}
    (h : (renderFrame B (r.later k) frame).run s = .ok out) :
    ∃ run, (renderFrame B r frame).run s = .ok ⟨run, out.state, out.events⟩
      ∧ out.value = run.later k := by
  have hcount : r.frameCount + k + 1 < 2 ^ 64 := frameCount_of_run h
  obtain ⟨run, course, hvalue⟩ := frameCourse_of_later (frameCourse_of_run h)
  exact ⟨run, run_of_frameCourse (by omega) course, hvalue⟩

theorem allocateTexture_later (resource : T) :
    (r.later k).allocateTexture resource
      = (r.allocateTexture resource).map fun x => (x.1, x.2.1.later k, x.2.2.later k) := by
  unfold allocateTexture
  change (r.textures.insert resource >>= _) = Except.map _ (r.textures.insert resource >>= _)
  cases r.textures.insert resource <;> rfl

theorem disposeTexture_later (handle : TextureHandle) :
    (r.later k).disposeTexture handle
      = (r.disposeTexture handle).map fun x => (x.1, x.2.1.later k, x.2.2.later k) := by
  unfold disposeTexture
  change (r.textures.dispose handle >>= _) = Except.map _ (r.textures.dispose handle >>= _)
  cases r.textures.dispose handle <;> rfl

/-! ## Programs that are settled -/

/-- The program has been compiled, or compiling it has failed. -/
def Settled (r : Renderer P T) : Prop := r.shader.answer? ≠ none

theorem settled_lookedUp {viewport : Viewport} {lookup : ShaderCache.Lookup P T} {s₁ : σ}
    {e₁ : List ε} (prepared : (prepare B r).run s = .ok ⟨(viewport, lookup), s₁, e₁⟩) :
    (r.lookedUp lookup).Settled := by
  obtain ⟨answer, -, hcache, -⟩ := lookup_cases prepared
  change lookup.cache.answer? ≠ none
  rw [hcache, ShaderCache.answer?_settle]
  exact Option.some_ne_none _

theorem settled_of_run {out : Ran ε σ (FrameRun P T)} (h : (renderFrame B r frame).run s = .ok out)
    (hsettled : r.Settled ∨ frame.isEmpty = false) : out.value.renderer.Settled := by
  cases frameCourse_of_run h with
  | empty nothing cleared =>
      rcases hsettled with hsettled | something
      · exact hsettled
      · rw [something] at nothing
        cases nothing
  | unprogrammed something prepared failed => exact settled_lookedUp prepared
  | rejected something prepared programmed bad => exact settled_lookedUp prepared
  | refused something prepared programmed accepted uploaded released =>
      exact settled_lookedUp prepared
  | drawn something prepared programmed accepted uploaded executed performed =>
      exact settled_lookedUp prepared

end Renderer

/-! ## Rehearsing devices -/

namespace Rehearsal

open Renderer

variable {r : Renderer Nat T} {frame : FrameData} {s : Rehearsal}

theorem run_performAll (commands : List (Command Nat T)) (s : Rehearsal) :
    ((backend T).performAll commands).run s = .ok ⟨(), s, []⟩ := by
  induction commands with
  | nil => rfl
  | cons command rest ih => exact Effect.run_bind_eq_ok_iff.mpr ⟨⟨(), s, []⟩, _, rfl, ih, rfl⟩

theorem not_faults (e : Fault) : ¬ (backend T).Faults e := by
  intro faults
  cases faults with
  | perform h => cases h
  | @compile s _ h =>
      obtain ⟨_, compileError, _, _⟩ := s
      cases compileError <;> cases h
  | @upload s _ _ h =>
      obtain ⟨_, _, uploadError, _⟩ := s
      cases uploadError <;> cases h

theorem exists_run_renderFrame (hcount : r.frameCount + 1 < 2 ^ 64) (frame : FrameData)
    (s : Rehearsal) : ∃ out, (renderFrame (backend T) r frame).run s = .ok out := by
  cases hrun : (renderFrame (backend T) r frame).run s with
  | error e => exact absurd (faults_of_run (by omega) hrun) (not_faults e)
  | ok out => exact ⟨out, rfl⟩

theorem state_of_upload {vertices : List Vertex} {indices : List UInt16}
    {out : Ran Empty Rehearsal (Except RenderError Unit)}
    (h : ((backend T).upload vertices indices).run s = .ok out) : out.state = s := by
  obtain ⟨_, _, uploadError, _⟩ := s
  cases uploadError <;> (obtain rfl := Except.ok.inj h; rfl)

theorem state_of_prepare {viewport : Viewport} {lookup : ShaderCache.Lookup Nat T} {s₁ : Rehearsal}
    {e₁ : List Empty} (hsettled : r.Settled)
    (prepared : (prepare (backend T) r).run s = .ok ⟨(viewport, lookup), s₁, e₁⟩) : s₁ = s := by
  obtain ⟨mid, last, hheader, hlookup, hout⟩ := run_prepare_eq_ok_iff.mp prepared
  rw [run_performAll] at hheader
  obtain rfl := Except.ok.inj hheader
  obtain rfl : s₁ = last.state := congrArg Ran.state hout
  rcases ShaderCache.run_ensureCompiled_eq_ok_iff.mp hlookup with ⟨outcome, -, rfl⟩
    | ⟨hunknown, -, -, -⟩
  · rfl
  · exact absurd (ShaderCache.program?_eq_none_iff.mp hunknown) hsettled

/-- A dropped frame leaves the device as it was, and of the renderer only the
frame counter has moved. -/
theorem unchanged_of_dropped {out : Ran Empty Rehearsal (FrameRun Nat T)} {e : RenderError}
    (hsettled : r.Settled) (h : (renderFrame (backend T) r frame).run s = .ok out)
    (dropped : out.value.outcome = .error e) (mild : e.isFatal = false) :
    out.value.renderer = r.later 1 ∧ out.state = s := by
  refine ⟨?_, ?_⟩
  · obtain ⟨program, hrenderer, hready | huncompiled⟩ := renderer_of_dropped h dropped mild
    · rw [hrenderer, ← hready]
      rfl
    · exact absurd (ShaderCache.answer?_eq_none_iff.mpr huncompiled) hsettled
  · cases frameCourse_of_run h with
    | empty nothing cleared => cases dropped
    | drawn something prepared programmed accepted uploaded executed performed => cases dropped
    | unprogrammed something prepared failed => exact state_of_prepare hsettled prepared
    | rejected something prepared programmed bad => exact state_of_prepare hsettled prepared
    | refused something prepared programmed accepted uploaded released =>
        obtain rfl := congrArg Ran.state (Except.ok.inj released)
        exact (state_of_upload uploaded).trans (state_of_prepare hsettled prepared)

end Rehearsal

/-! ## Runs -/

/-- What a rehearsing device is set to while it gets a frame. -/
structure Rehearsal.Setting where
  viewport : Viewport
  compileError : Option String
  uploadError : Option String

/-- A renderer, and how many programs its device has compiled. -/
structure Bench (T : Type) where
  renderer : Renderer Nat T
  programs : Nat

inductive RendererOp (T : Type) where
  | allocate (resource : T)
  | dispose (handle : TextureHandle)
  | frame (setting : Rehearsal.Setting) (data : FrameData)

inductive RendererResult (T : Type) where
  | allocated (outcome : Except RenderError TextureHandle)
  | disposed (outcome : Except RenderError (Option T))
  | rendered (outcome : Except RenderError FrameStats)

/-- All that an operation shows: its result, the calls that reached the
device and the notices for the log. -/
structure Reply (T : Type) where
  result : RendererResult T
  calls : List (Call Nat T)
  notices : List RenderNotice

/-- A frame that failed, but not for good. -/
def Reply.isDropped (reply : Reply T) : Bool :=
  match reply.result with
  | .rendered (.error e) => !e.isFatal
  | _ => false

def Reply.later (k : Nat) (reply : Reply T) : Reply T :=
  { reply with notices := reply.notices.map (.later k) }

def Bench.later (k : Nat) (b : Bench T) : Bench T := { b with renderer := b.renderer.later k }

/-- The reply to a request that the renderer answers without its device. -/
def Bench.settle {α : Type} (b : Bench T) (wrap : Except RenderError α → RendererResult T) :
    Except RenderError (α × Renderer Nat T × RenderNotice) → Reply T × Bench T
  | .error e => (⟨wrap (.error e), [], []⟩, b)
  | .ok (a, r, notice) => (⟨wrap (.ok a), [], [notice]⟩, { b with renderer := r })

theorem Bench.settle_later {α : Type} (k : Nat) (b : Bench T)
    (wrap : Except RenderError α → RendererResult T)
    (answer : Except RenderError (α × Renderer Nat T × RenderNotice)) :
    (b.later k).settle wrap (answer.map fun x => (x.1, x.2.1.later k, x.2.2.later k))
      = ((b.settle wrap answer).1.later k, (b.settle wrap answer).2.later k) := by
  cases answer <;> rfl

namespace RendererOp

/-- A frame with something in it. -/
def isFilled : RendererOp T → Bool
  | .frame _ data => !data.isEmpty
  | _ => false

def perform (b : Bench T) : RendererOp T → Except Fault (Reply T × Bench T)
  | .allocate resource => .ok (b.settle .allocated (b.renderer.allocateTexture resource))
  | .dispose handle => .ok (b.settle .disposed (b.renderer.disposeTexture handle))
  | .frame setting data => do
      let device := ⟨setting.viewport, setting.compileError, setting.uploadError, b.programs⟩
      let out ← (Renderer.renderFrame (Rehearsal.backend T) b.renderer data).run device
      return (⟨.rendered out.value.outcome, Rehearsal.reached out.value.calls, out.value.notices⟩,
        ⟨out.value.renderer, out.state.programs⟩)

def run : List (RendererOp T) → Bench T → Except Fault (List (Reply T) × Bench T)
  | [], b => .ok ([], b)
  | op :: rest, b => do
      let (reply, b) ← op.perform b
      let (replies, b) ← run rest b
      return (reply :: replies, b)

theorem run_cons_eq_ok_iff {op : RendererOp T} {rest : List (RendererOp T)} {b c : Bench T}
    {replies : List (Reply T)} :
    run (op :: rest) b = .ok (replies, c) ↔
      ∃ reply mid tail, op.perform b = .ok (reply, mid) ∧ run rest mid = .ok (tail, c)
        ∧ replies = reply :: tail := by
  simp only [run, except_bind_eq_ok_iff]
  constructor
  · rintro ⟨⟨reply, mid⟩, hop, ⟨tail, c'⟩, hrest, hpure⟩
    obtain ⟨rfl, rfl⟩ := Prod.mk.inj (Except.ok.inj hpure)
    exact ⟨reply, mid, tail, hop, hrest, rfl⟩
  · rintro ⟨reply, mid, tail, hop, hrest, rfl⟩
    exact ⟨_, hop, _, hrest, rfl⟩

theorem perform_frame_eq_ok_iff {setting : Rehearsal.Setting} {data : FrameData} {b c : Bench T}
    {reply : Reply T} :
    (frame setting data).perform b = .ok (reply, c) ↔
      ∃ out, (Renderer.renderFrame (Rehearsal.backend T) b.renderer data).run
            ⟨setting.viewport, setting.compileError, setting.uploadError, b.programs⟩ = .ok out
        ∧ reply = ⟨.rendered out.value.outcome, Rehearsal.reached out.value.calls,
            out.value.notices⟩
        ∧ c = ⟨out.value.renderer, out.state.programs⟩ := by
  simp only [perform, except_bind_eq_ok_iff]
  constructor
  · rintro ⟨out, hrun, hpure⟩
    obtain ⟨rfl, rfl⟩ := Prod.mk.inj (Except.ok.inj hpure)
    exact ⟨out, hrun, rfl, rfl⟩
  · rintro ⟨out, hrun, rfl, rfl⟩
    exact ⟨out, hrun, rfl⟩

/-- An operation some frames later is the same operation. -/
theorem perform_of_later {op : RendererOp T} {b c : Bench T} {reply : Reply T} {k : Nat}
    (h : op.perform (b.later k) = .ok (reply, c)) :
    ∃ reply₀ c₀, op.perform b = .ok (reply₀, c₀) ∧ reply = reply₀.later k ∧ c = c₀.later k := by
  cases op with
  | allocate resource =>
      have hlater := Renderer.allocateTexture_later (r := b.renderer) (k := k) resource
      rw [perform, show (b.later k).renderer = b.renderer.later k from rfl, hlater,
        Bench.settle_later] at h
      obtain ⟨rfl, rfl⟩ := Prod.mk.inj (Except.ok.inj h)
      exact ⟨_, _, rfl, rfl, rfl⟩
  | dispose handle =>
      have hlater := Renderer.disposeTexture_later (r := b.renderer) (k := k) handle
      rw [perform, show (b.later k).renderer = b.renderer.later k from rfl, hlater,
        Bench.settle_later] at h
      obtain ⟨rfl, rfl⟩ := Prod.mk.inj (Except.ok.inj h)
      exact ⟨_, _, rfl, rfl, rfl⟩
  | frame setting data =>
      obtain ⟨out, hrun, rfl, rfl⟩ := perform_frame_eq_ok_iff.mp h
      obtain ⟨run, hrun', hvalue⟩ := Renderer.run_of_later hrun
      refine ⟨_, _, perform_frame_eq_ok_iff.mpr ⟨_, hrun', rfl, rfl⟩, ?_, ?_⟩
      · rw [hvalue]
        rfl
      · rw [hvalue]
        rfl

/-- An operation is a frame, or touches nothing but the textures. -/
theorem perform_cases {op : RendererOp T} {b c : Bench T} {reply : Reply T}
    (h : op.perform b = .ok (reply, c)) :
    (op.isFilled = false ∧ ∃ textures, c.renderer = { b.renderer with textures := textures })
      ∨ ∃ setting data, op = .frame setting data := by
  have hsettle : ∀ {α : Type} (wrap : Except RenderError α → RendererResult T)
      {answer : Except RenderError (α × Renderer Nat T × RenderNotice)},
      (∀ a r notice, answer = .ok (a, r, notice) →
        ∃ textures, r = { b.renderer with textures := textures }) →
      ∃ textures, (b.settle wrap answer).2.renderer
        = { b.renderer with textures := textures } := by
    intro α wrap answer hanswer
    cases answer with
    | error e => exact ⟨b.renderer.textures, rfl⟩
    | ok answer => exact hanswer _ _ _ rfl
  cases op with
  | allocate resource =>
      obtain rfl : _ = c := congrArg Prod.snd (Except.ok.inj h)
      exact Or.inl ⟨rfl, hsettle _ fun _ _ _ => Renderer.exists_textures_of_allocate⟩
  | dispose handle =>
      obtain rfl : _ = c := congrArg Prod.snd (Except.ok.inj h)
      exact Or.inl ⟨rfl, hsettle _ fun _ _ _ => Renderer.exists_textures_of_dispose⟩
  | frame setting data => exact Or.inr ⟨setting, data, rfl⟩

theorem settled_perform {op : RendererOp T} {b c : Bench T} {reply : Reply T}
    (h : op.perform b = .ok (reply, c)) (hsettled : b.renderer.Settled ∨ op.isFilled = true) :
    c.renderer.Settled := by
  rcases perform_cases h with ⟨hfilled, textures, hrenderer⟩ | ⟨setting, data, rfl⟩
  · rw [hrenderer]
    exact hsettled.resolve_right (by rw [hfilled]; exact Bool.false_ne_true)
  · obtain ⟨out, hrun, -, rfl⟩ := perform_frame_eq_ok_iff.mp h
    exact Renderer.settled_of_run hrun (hsettled.imp_right fun hfilled => by
      simpa [isFilled] using hfilled)

theorem frameCount_perform {op : RendererOp T} {b c : Bench T} {reply : Reply T}
    (h : op.perform b = .ok (reply, c)) :
    c.renderer.frameCount ≤ b.renderer.frameCount + 1 := by
  rcases perform_cases h with ⟨-, textures, hrenderer⟩ | ⟨setting, data, rfl⟩
  · rw [hrenderer]
    exact Nat.le_succ _
  · obtain ⟨out, hrun, -, rfl⟩ := perform_frame_eq_ok_iff.mp h
    cases Renderer.frameCourse_of_run hrun <;> exact Nat.le_refl _

theorem exists_perform (op : RendererOp T) {b : Bench T}
    (hcount : b.renderer.frameCount + 1 < 2 ^ 64) :
    ∃ reply c, op.perform b = .ok (reply, c) := by
  cases op with
  | allocate resource => exact ⟨_, _, rfl⟩
  | dispose handle => exact ⟨_, _, rfl⟩
  | frame setting data =>
      obtain ⟨out, hrun⟩ := Rehearsal.exists_run_renderFrame hcount data
        ⟨setting.viewport, setting.compileError, setting.uploadError, b.programs⟩
      exact ⟨_, _, perform_frame_eq_ok_iff.mpr ⟨out, hrun, rfl, rfl⟩⟩

/-- As long as the frame counter has room, a run comes to its end. -/
theorem exists_run (ops : List (RendererOp T)) {b : Bench T}
    (hcount : b.renderer.frameCount + ops.length < 2 ^ 64) :
    ∃ replies c, run ops b = .ok (replies, c) := by
  induction ops generalizing b with
  | nil => exact ⟨[], b, rfl⟩
  | cons op rest ih =>
      rw [List.length_cons] at hcount
      obtain ⟨reply, mid, hop⟩ := exists_perform op (b := b) (by omega)
      have hmid := frameCount_perform hop
      obtain ⟨tail, c, hrest⟩ := ih (b := mid) (by omega)
      exact ⟨_, c, run_cons_eq_ok_iff.mpr ⟨reply, mid, tail, hop, hrest, rfl⟩⟩

end RendererOp

/-! ## Inserted frames -/

/-- A step of a run into which frames are inserted. -/
inductive RunStep (T : Type) where
  | kept (op : RendererOp T)
  | inserted (setting : Rehearsal.Setting) (data : FrameData)

namespace RunStep

def op : RunStep T → RendererOp T
  | .kept op => op
  | .inserted setting data => .frame setting data

/-- The step without the insertions. -/
def kept? : RunStep T → Option (RendererOp T)
  | .kept op => some op
  | .inserted _ _ => none

def isInserted : RunStep T → Bool
  | .kept _ => false
  | .inserted _ _ => true

/-- No frame is inserted before the first one with something in it. -/
def InsertedLater : List (RunStep T) → Prop
  | [] => True
  | .kept op :: rest => op.isFilled = true ∨ InsertedLater rest
  | .inserted _ _ :: _ => False

/-- The replies to all steps, and to the steps without the insertions, of
which `k` have gone before: the same, but for the numbers of the frames. -/
inductive Woven : Nat → List (RunStep T) → List (Reply T) → List (Reply T) → Prop
  | nil {k : Nat} : Woven k [] [] []
  | kept {k : Nat} {steps : List (RunStep T)} {all alone : List (Reply T)} {op : RendererOp T}
      {reply : Reply T} (rest : Woven k steps all alone) :
      Woven k (.kept op :: steps) (reply.later k :: all) (reply :: alone)
  | inserted {k : Nat} {steps : List (RunStep T)} {all alone : List (Reply T)}
      {setting : Rehearsal.Setting} {data : FrameData} {reply : Reply T}
      (rest : Woven (k + 1) steps all alone) :
      Woven k (.inserted setting data :: steps) (reply :: all) alone

theorem later_of_dropped {setting : Rehearsal.Setting} {data : FrameData} {b c : Bench T}
    {reply : Reply T} (hsettled : b.renderer.Settled)
    (h : (RendererOp.frame setting data).perform b = .ok (reply, c))
    (dropped : reply.isDropped = true) : c = b.later 1 := by
  obtain ⟨out, hrun, rfl, rfl⟩ := RendererOp.perform_frame_eq_ok_iff.mp h
  cases houtcome : out.value.outcome with
  | ok stats => simp [Reply.isDropped, houtcome] at dropped
  | error e =>
      have mild : e.isFatal = false := by simpa [Reply.isDropped, houtcome] using dropped
      obtain ⟨hrenderer, hstate⟩ := Rehearsal.unchanged_of_dropped hsettled hrun houtcome mild
      rw [hrenderer, hstate]
      rfl

/-- A run with insertions against the run without. The one with insertions is
ahead by `k` frames, which is all that its renderer knows of them. -/
theorem run_without_inserted {steps : List (RunStep T)} {b c : Bench T} {replies : List (Reply T)}
    {k : Nat} (hsettled : b.renderer.Settled ∨ InsertedLater steps)
    (h : RendererOp.run (steps.map op) (b.later k) = .ok (replies, c))
    (dropped : ∀ p ∈ steps.zip replies, p.1.isInserted = true → p.2.isDropped = true) :
    ∃ alone c₀, RendererOp.run (steps.filterMap kept?) b = .ok (alone, c₀)
      ∧ Woven k steps replies alone ∧ c = c₀.later (k + steps.countP isInserted) := by
  induction steps generalizing b k replies with
  | nil =>
      obtain ⟨rfl, rfl⟩ := Prod.mk.inj (Except.ok.inj h)
      exact ⟨[], b, rfl, .nil, rfl⟩
  | cons step rest ih =>
      obtain ⟨reply, mid, tail, hop, hrest, rfl⟩ := RendererOp.run_cons_eq_ok_iff.mp h
      have dropped' : ∀ p ∈ rest.zip tail, p.1.isInserted = true → p.2.isDropped = true :=
        fun p hp => dropped p (List.mem_cons_of_mem _ hp)
      cases step with
      | kept op =>
          obtain ⟨reply₀, mid₀, hop₀, rfl, rfl⟩ := RendererOp.perform_of_later hop
          have hsettled' : mid₀.renderer.Settled ∨ InsertedLater rest := by
            rcases hsettled with hsettled | hfilled | hlater
            · exact Or.inl (RendererOp.settled_perform hop₀ (Or.inl hsettled))
            · exact Or.inl (RendererOp.settled_perform hop₀ (Or.inr hfilled))
            · exact Or.inr hlater
          obtain ⟨alone, c₀, halone, hwoven, hc⟩ := ih hsettled' hrest dropped'
          exact ⟨reply₀ :: alone, c₀,
            RendererOp.run_cons_eq_ok_iff.mpr ⟨reply₀, mid₀, alone, hop₀, halone, rfl⟩,
            .kept hwoven, hc⟩
      | inserted setting data =>
          -- Nothing is inserted before the program is settled, so the frame
          -- moves the counter and does nothing else.
          have hsettled' : b.renderer.Settled := hsettled.resolve_right id
          obtain rfl := later_of_dropped (b := b.later k) hsettled' hop
            (dropped _ List.mem_cons_self rfl)
          obtain ⟨alone, c₀, halone, hwoven, hc⟩ :=
            ih (k := k + 1) (Or.inl hsettled') hrest dropped'
          refine ⟨alone, c₀, halone, .inserted hwoven, ?_⟩
          rw [hc, List.countP_cons_of_pos rfl, Nat.add_right_comm, Nat.add_assoc]

/-- **Dropped frames leave no trace.** On any device, a frame that fails
without being fatal leaves the renderer as it was, but for its number and a
program that was not compiled yet. On a rehearsing device such frames can be
inserted anywhere after the first frame with something in it: every other
operation has the same result, the same calls and the same notices, but for
the numbers of the frames, and the renderer ends up the same, ahead by as many
frames as were inserted. No run ends early before the counter is full. -/
theorem dropped_frames_leave_no_trace :
    (∀ {ε σ P T : Type} (B : Backend ε σ P T) (r : Renderer P T) (frame : FrameData) (s : σ)
        (out : Ran ε σ (Renderer.FrameRun P T)) (e : RenderError),
        (Renderer.renderFrame B r frame).run s = .ok out → out.value.outcome = .error e →
        e.isFatal = false →
        ∃ program,
          out.value.renderer =
              { r with
                frameCount := r.frameCount + 1, shader := ⟨r.shader.source, .ready program⟩ }
            ∧ (r.shader.state = .ready program ∨ r.shader.state = .uncompiled))
      ∧ (∀ {T : Type} (b c : Bench T) (steps : List (RunStep T)) (replies : List (Reply T)),
        InsertedLater steps → RendererOp.run (steps.map op) b = .ok (replies, c) →
        (∀ p ∈ steps.zip replies, p.1.isInserted = true → p.2.isDropped = true) →
        ∃ alone c₀, RendererOp.run (steps.filterMap kept?) b = .ok (alone, c₀)
          ∧ Woven 0 steps replies alone ∧ c = c₀.later (steps.countP isInserted))
      ∧ ∀ {T : Type} (b : Bench T) (ops : List (RendererOp T)),
        b.renderer.frameCount + ops.length < 2 ^ 64 →
        ∃ replies c, RendererOp.run ops b = .ok (replies, c) := by
  refine ⟨?_, ?_, ?_⟩
  · intro ε σ P T B r frame s out e h dropped mild
    exact Renderer.renderer_of_dropped h dropped mild
  · intro T b c steps replies later h dropped
    obtain ⟨alone, c₀, halone, hwoven, hc⟩ :=
      run_without_inserted (b := b) (k := 0) (Or.inr later) h dropped
    exact ⟨alone, c₀, halone, hwoven, by rw [hc, Nat.zero_add]⟩
  · intro T b ops hcount
    exact RendererOp.exists_run ops hcount

/-- Two frames and a texture, with a frame inserted that the device refuses
and one that lacks its indices. -/
def sampleSteps : List (RunStep Nat) :=
  let calm : Rehearsal.Setting := ⟨DrawContext.sampleContext.viewport, none, none⟩
  let frame := DrawContext.sampleFrame.pack
  [.kept (.frame calm frame), .inserted { calm with uploadError := some "lost" } frame,
    .kept (.allocate 9), .inserted calm { frame with indexCount := 9 }, .kept (.frame calm frame)]

theorem dropped_frames_leave_no_trace_sample :
    ∃ replies c alone c₀,
      RendererOp.run (sampleSteps.map op) ⟨Renderer.sampleRenderer, 0⟩ = .ok (replies, c)
        ∧ replies.map Reply.isDropped = [false, true, false, true, false]
        ∧ RendererOp.run (sampleSteps.filterMap kept?) ⟨Renderer.sampleRenderer, 0⟩
          = .ok (alone, c₀)
        ∧ Woven 0 sampleSteps replies alone ∧ c = c₀.later 2 := by
  obtain ⟨⟨replies, c⟩, hrun, hreplies⟩ := exists_ok_of_map_toOption
    (x := RendererOp.run (sampleSteps.map op) ⟨Renderer.sampleRenderer, 0⟩)
    (f := fun out : List (Reply Nat) × Bench Nat => (out.1.map Reply.isDropped,
      (sampleSteps.zip out.1).all fun p => !p.1.isInserted || p.2.isDropped))
    (b := ([false, true, false, true, false], true)) (by decide +kernel)
  obtain ⟨hflags, hall⟩ := Prod.mk.inj hreplies
  have dropped : ∀ p ∈ sampleSteps.zip replies, p.1.isInserted = true → p.2.isDropped = true := by
    intro p hp hinserted
    have hp := List.all_eq_true.mp hall p hp
    rwa [hinserted] at hp
  obtain ⟨alone, c₀, halone, hwoven, hc⟩ :=
    dropped_frames_leave_no_trace.2.1 _ c sampleSteps replies (Or.inl rfl) hrun dropped
  exact ⟨replies, c, alone, c₀, hrun, hflags, halone, hwoven, hc⟩

end RunStep

end SpriteRenderer

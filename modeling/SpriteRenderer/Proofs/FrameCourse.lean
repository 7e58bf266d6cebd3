import SpriteRenderer.Renderer.Basic
import SpriteRenderer.Proofs.Effect
import SpriteRenderer.Proofs.Elision

/-!
# The courses a frame can take

`FrameCourse` lists, once and for all, what rendering a frame can come
to: one constructor for each way out, with everything that was asked of
the device on that way and everything that is left behind.
`frameCourse_of_run` says that there are no others, so a fact about all
frames is a fact about five cases, and no later proof opens
`renderFrame` again.

`run_of_frameCourse` is the converse: a course that can be walked is the
one that rendering takes, as long as the frame counter has room.
-/

namespace SpriteRenderer

variable {ε σ P T : Type}

/-! ## Looking up the program -/

namespace ShaderCache

/-- What the device has answered so far. -/
def answer? (c : ShaderCache P) : Option (Except String P) :=
  match c.state with
  | .uncompiled => none
  | .ready program => some (.ok program)
  | .failed log => some (.error log)

theorem answer?_eq_none_iff {c : ShaderCache P} : c.answer? = none ↔ c.state = .uncompiled := by
  unfold answer?
  cases c.state <;> simp

theorem answer?_eq_ok_iff {c : ShaderCache P} {program : P} :
    c.answer? = some (.ok program) ↔ c.state = .ready program := by
  unfold answer?
  cases c.state <;> simp

theorem answer?_eq_error_iff {c : ShaderCache P} {log : String} :
    c.answer? = some (.error log) ↔ c.state = .failed log := by
  unfold answer?
  cases c.state <;> simp

theorem answer?_settle (c : ShaderCache P) (answer : Except String P) :
    (c.settle answer).answer? = some answer := by
  cases answer <;> rfl

theorem source_settle (c : ShaderCache P) (answer : Except String P) :
    (c.settle answer).source = c.source := by
  cases answer <;> rfl

theorem settle_of_answer? {c : ShaderCache P} {answer : Except String P}
    (h : c.answer? = some answer) : c.settle answer = c := by
  obtain ⟨source, state⟩ := c
  cases answer with
  | ok program => rw [settle, ← answer?_eq_ok_iff.mp h]
  | error log => rw [settle, ← answer?_eq_error_iff.mp h]

theorem program?_eq (c : ShaderCache P) :
    c.program? = c.answer?.map fun answer =>
      answer.mapError (.shaderCompileFailure c.source.name) := by
  unfold program? answer?
  cases c.state <;> rfl

theorem program?_eq_none_iff {c : ShaderCache P} : c.program? = none ↔ c.answer? = none := by
  rw [program?_eq, Option.map_eq_none_iff]

end ShaderCache

theorem eq_ok_of_mapError {answer : Except String P} {f : String → RenderError} {program : P}
    (h : answer.mapError f = .ok program) : answer = .ok program := by
  cases answer with
  | ok known => exact congrArg Except.ok (Except.ok.inj h)
  | error log => cases h

theorem exists_error_of_mapError {answer : Except String P} {f : String → RenderError}
    {e : RenderError} (h : answer.mapError f = .error e) :
    ∃ log, answer = .error log ∧ e = f log := by
  cases answer with
  | ok known => cases h
  | error log => exact ⟨log, rfl, (Except.error.inj h).symm⟩

theorem ShaderCache.run_ensureCompiled_eq_ok_iff {c : ShaderCache P} {B : Backend ε σ P T} {s : σ}
    {out : Ran ε σ (Lookup P T)} :
    (c.ensureCompiled B).run s = .ok out ↔
      (∃ outcome, c.program? = some outcome ∧ out = ⟨⟨outcome, c, [], []⟩, s, []⟩)
        ∨ (c.program? = none ∧ ∃ asked, (B.compile c.source).run s = .ok asked
          ∧ out = ⟨.ofAnswer c asked.value, asked.state, asked.events⟩) := by
  unfold ShaderCache.ensureCompiled
  cases hp : c.program? with
  | some outcome => simp [eq_comm]
  | none =>
      simp only [Effect.run_bind_eq_ok_iff, Effect.run_pure, reduceCtorEq, false_and, exists_false,
        false_or, true_and]
      constructor
      · rintro ⟨asked, last, hasked, hlast, rfl⟩
        obtain rfl := Except.ok.inj hlast
        exact ⟨asked, hasked, by simp⟩
      · rintro ⟨asked, hasked, rfl⟩
        exact ⟨asked, _, hasked, rfl, by simp⟩

namespace Renderer

/-! ## What a frame leaves of the renderer -/

def counted (r : Renderer P T) : Renderer P T := { r with frameCount := r.frameCount + 1 }

/-- The renderer after a frame that got as far as its program. -/
def lookedUp (r : Renderer P T) (lookup : ShaderCache.Lookup P T) : Renderer P T :=
  { r.counted with shader := lookup.cache }

@[simp] theorem lookedUp_warnedUnbound (r : Renderer P T) (lookup : ShaderCache.Lookup P T) :
    (r.lookedUp lookup).warnedUnbound = r.warnedUnbound := rfl

@[simp] theorem lookedUp_frameCount (r : Renderer P T) (lookup : ShaderCache.Lookup P T) :
    (r.lookedUp lookup).frameCount = r.frameCount + 1 := rfl

@[simp] theorem lookedUp_drawContext (r : Renderer P T) (lookup : ShaderCache.Lookup P T)
    (viewport : Viewport) : (r.lookedUp lookup).drawContext viewport = r.drawContext viewport := rfl

@[simp] theorem lookedUp_body (r : Renderer P T) (lookup : ShaderCache.Lookup P T) (program : P)
    (viewport : Viewport) (drawing : List (DrawCommand T)) :
    (r.lookedUp lookup).body program viewport drawing = r.body program viewport drawing := rfl

def opening (r : Renderer P T) : List (Call P T) := r.header.map .command

/-- Every non-empty frame up to its program: the header, a look at the
viewport, and the program. -/
def prepare (B : Backend ε σ P T) (r : Renderer P T) :
    Effect ε σ (Viewport × ShaderCache.Lookup P T) := do
  B.performAll r.header
  let s ← Effect.get
  let lookup ← r.shader.ensureCompiled B
  return (B.viewport s, lookup)

def answer (B : Backend ε σ P T) (r : Renderer P T) (frame : FrameData) (viewport : Viewport)
    (lookup : ShaderCache.Lookup P T) : Effect ε σ (FrameRun P T) :=
  match lookup.outcome with
  | .error e =>
      return ⟨r.lookedUp lookup, .error e, r.opening ++ lookup.calls, lookup.notices.map .shader⟩
  | .ok program =>
      match r.accept frame with
      | .error e =>
          return ⟨r.lookedUp lookup, .error e, r.opening ++ lookup.calls,
            lookup.notices.map .shader⟩
      | .ok d => do
          let run ← drawDecoded B (r.lookedUp lookup) viewport program d
          return ⟨run.renderer, run.outcome, r.opening ++ (lookup.calls ++ run.calls),
            lookup.notices.map .shader ++ run.notices⟩

/-- Rendering, cut where the program is known. -/
theorem run_renderFrame (B : Backend ε σ P T) (r : Renderer P T) (frame : FrameData) (s : σ)
    (hcount : r.frameCount + 1 < 2 ^ 64) :
    (renderFrame B r frame).run s =
      if frame.isEmpty then
        (B.performAll r.header >>= fun _ => pure ⟨r.counted, .ok .zero, r.opening, []⟩).run s
      else (prepare B r >>= fun p => answer B r frame p.1 p.2).run s := by
  have hfit : fitUnsigned 64 (r.frameCount + 1) = .ok (r.frameCount + 1) :=
    fitUnsigned_eq_ok_iff.mpr ⟨hcount, rfl⟩
  unfold renderFrame
  rw [Effect.run_lift_bind hfit]
  cases hempty : frame.isEmpty with
  | true => rfl
  | false =>
      simp only [Bool.false_eq_true, if_false, prepare, renderBody, bind_assoc, pure_bind]
      -- Both sides say the same up to the answer; the counter is no part of
      -- what the header, the lookup and the checks read.
      congr 2
      funext _
      congr 1
      funext s₀
      congr 1
      funext lookup
      unfold answer
      cases lookup.outcome with
      | error e => rfl
      | ok program =>
          dsimp only
          change (match r.accept frame with | .error e => _ | .ok d => _) >>= _ = _
          cases r.accept frame with
          | error e => rfl
          | ok d =>
              simp only [bind_assoc, pure_bind]
              rfl

/-- The ways a frame can go, with the device's part in them. -/
inductive FrameCourse (B : Backend ε σ P T) (r : Renderer P T) (frame : FrameData) (s : σ) :
    Ran ε σ (FrameRun P T) → Prop
  /-- Nothing to draw. -/
  | empty {s₁ : σ} {e₁ : List ε} (nothing : frame.isEmpty = true)
      (cleared : (B.performAll r.header).run s = .ok ⟨(), s₁, e₁⟩) :
      FrameCourse B r frame s ⟨⟨r.counted, .ok .zero, r.opening, []⟩, s₁, e₁⟩
  /-- No program to draw with. -/
  | unprogrammed {viewport : Viewport} {lookup : ShaderCache.Lookup P T} {s₁ : σ} {e₁ : List ε}
      {e : RenderError} (something : frame.isEmpty = false)
      (prepared : (prepare B r).run s = .ok ⟨(viewport, lookup), s₁, e₁⟩)
      (failed : lookup.outcome = .error e) :
      FrameCourse B r frame s
        ⟨⟨r.lookedUp lookup, .error e, r.opening ++ lookup.calls,
          lookup.notices.map .shader⟩, s₁, e₁⟩
  /-- A frame that cannot be decoded, or does not fit its own buffers. -/
  | rejected {viewport : Viewport} {lookup : ShaderCache.Lookup P T} {s₁ : σ} {e₁ : List ε}
      {program : P} {e : RenderError} (something : frame.isEmpty = false)
      (prepared : (prepare B r).run s = .ok ⟨(viewport, lookup), s₁, e₁⟩)
      (programmed : lookup.outcome = .ok program) (bad : r.accept frame = .error e) :
      FrameCourse B r frame s
        ⟨⟨r.lookedUp lookup, .error e, r.opening ++ lookup.calls,
          lookup.notices.map .shader⟩, s₁, e₁⟩
  /-- Geometry that the device does not take. -/
  | refused {viewport : Viewport} {lookup : ShaderCache.Lookup P T} {s₁ s₂ s₃ : σ}
      {e₁ e₂ e₃ : List ε} {program : P} {d : DecodedFrame} {e : RenderError}
      (something : frame.isEmpty = false)
      (prepared : (prepare B r).run s = .ok ⟨(viewport, lookup), s₁, e₁⟩)
      (programmed : lookup.outcome = .ok program) (accepted : r.accept frame = .ok d)
      (uploaded : (B.upload d.vertices d.indices).run s₁ = .ok ⟨.error e, s₂, e₂⟩)
      (released : (B.perform .releaseGeometry).run s₂ = .ok ⟨(), s₃, e₃⟩) :
      FrameCourse B r frame s
        ⟨⟨r.lookedUp lookup, .error e,
          r.opening ++ (lookup.calls
            ++ [.upload d.vertices d.indices false, .command .releaseGeometry]),
          lookup.notices.map .shader⟩, s₃, e₁ ++ (e₂ ++ e₃)⟩
  /-- A frame that is drawn. -/
  | drawn {viewport : Viewport} {lookup : ShaderCache.Lookup P T} {s₁ s₂ s₃ : σ}
      {e₁ e₂ e₃ : List ε} {program : P} {d : DecodedFrame} {done : Execution T}
      (something : frame.isEmpty = false)
      (prepared : (prepare B r).run s = .ok ⟨(viewport, lookup), s₁, e₁⟩)
      (programmed : lookup.outcome = .ok program) (accepted : r.accept frame = .ok d)
      (uploaded : (B.upload d.vertices d.indices).run s₁ = .ok ⟨.ok (), s₂, e₂⟩)
      (executed : (r.drawContext viewport).execute r.warnedUnbound d.batches = .ok done)
      (performed : (B.performAll (r.body program viewport done.commands)).run s₂
        = .ok ⟨(), s₃, e₃⟩) :
      FrameCourse B r frame s
        ⟨⟨{ r.lookedUp lookup with warnedUnbound := done.warned }, .ok done.stats,
          r.opening ++ (lookup.calls
            ++ .upload d.vertices d.indices true
              :: (r.body program viewport done.commands).map .command),
          lookup.notices.map .shader
            ++ (done.unbound.map .unboundTexture ++ [.frameDrawn (r.frameCount + 1) done.stats])⟩,
          s₃, e₁ ++ (e₂ ++ e₃)⟩

variable {B : Backend ε σ P T} {r : Renderer P T} {frame : FrameData} {s : σ}

theorem run_prepare_eq_ok_iff {out : Ran ε σ (Viewport × ShaderCache.Lookup P T)} :
    (prepare B r).run s = .ok out ↔
      ∃ mid last, (B.performAll r.header).run s = .ok mid
        ∧ (r.shader.ensureCompiled B).run mid.state = .ok last
        ∧ out = ⟨(B.viewport mid.state, last.value), last.state, mid.events ++ last.events⟩ := by
  unfold prepare
  constructor
  · intro h
    obtain ⟨mid, _, hheader, hrest, rfl⟩ := Effect.run_bind_eq_ok_iff.mp h
    obtain ⟨_, _, hget, hlookup, rfl⟩ := Effect.run_bind_eq_ok_iff.mp hrest
    obtain rfl := Except.ok.inj hget
    obtain ⟨last, _, hlast, hpure, rfl⟩ := Effect.run_bind_eq_ok_iff.mp hlookup
    obtain rfl := Except.ok.inj hpure
    exact ⟨mid, last, hheader, hlast, by simp⟩
  · rintro ⟨mid, last, hheader, hlookup, rfl⟩
    simp [hheader, hlookup]

/-- A lookup follows the device's answer, whether this was known or is
asked for now. -/
theorem lookup_cases {viewport : Viewport} {lookup : ShaderCache.Lookup P T} {s₁ : σ} {e₁ : List ε}
    (h : (prepare B r).run s = .ok ⟨(viewport, lookup), s₁, e₁⟩) :
    ∃ answer, lookup.outcome = answer.mapError (.shaderCompileFailure r.shader.source.name)
      ∧ lookup.cache = r.shader.settle answer
      ∧ (r.shader.answer? = some answer ∧ lookup.calls = []
        ∨ r.shader.answer? = none ∧ lookup.calls = [.compile r.shader.source]
          ∧ ∃ mid s' events, (B.compile r.shader.source).run mid = .ok ⟨answer, s', events⟩) := by
  obtain ⟨mid, last, -, hlookup, hout⟩ := run_prepare_eq_ok_iff.mp h
  obtain rfl : lookup = last.value := congrArg (fun x => x.value.2) hout
  rcases ShaderCache.run_ensureCompiled_eq_ok_iff.mp hlookup with ⟨outcome, hknown, rfl⟩
    | ⟨hunknown, asked, hasked, rfl⟩
  · rw [ShaderCache.program?_eq] at hknown
    obtain ⟨answer, hanswer, rfl⟩ := Option.map_eq_some_iff.mp hknown
    exact ⟨answer, rfl, (ShaderCache.settle_of_answer? hanswer).symm, Or.inl ⟨hanswer, rfl⟩⟩
  · exact ⟨asked.value, rfl, rfl,
      Or.inr ⟨ShaderCache.program?_eq_none_iff.mp hunknown, rfl, mid.state, _, _, hasked⟩⟩

theorem run_drawDecoded {viewport : Viewport} {program : P} {d : DecodedFrame}
    {out : Ran ε σ (FrameRun P T)}
    (h : (drawDecoded B r viewport program d).run s = .ok out) :
    (∃ e s₁ s₂ e₁ e₂, (B.upload d.vertices d.indices).run s = .ok ⟨.error e, s₁, e₁⟩
      ∧ (B.perform .releaseGeometry).run s₁ = .ok ⟨(), s₂, e₂⟩
      ∧ out = ⟨⟨r, .error e, [.upload d.vertices d.indices false, .command .releaseGeometry], []⟩,
          s₂, e₁ ++ e₂⟩)
    ∨ (∃ done s₁ s₂ e₁ e₂, (B.upload d.vertices d.indices).run s = .ok ⟨.ok (), s₁, e₁⟩
      ∧ (r.drawContext viewport).execute r.warnedUnbound d.batches = .ok done
      ∧ (B.performAll (r.body program viewport done.commands)).run s₁ = .ok ⟨(), s₂, e₂⟩
      ∧ out = ⟨⟨{ r with warnedUnbound := done.warned }, .ok done.stats,
          .upload d.vertices d.indices true
            :: (r.body program viewport done.commands).map .command,
          done.unbound.map .unboundTexture ++ [.frameDrawn r.frameCount done.stats]⟩,
          s₂, e₁ ++ e₂⟩) := by
  obtain ⟨⟨answer, s₁, e₁⟩, _, hupload, hrest, rfl⟩ := Effect.run_bind_eq_ok_iff.mp h
  cases answer with
  | error e =>
      obtain ⟨⟨_, s₂, e₂⟩, _, hrelease, hpure, rfl⟩ := Effect.run_bind_eq_ok_iff.mp hrest
      obtain rfl := Except.ok.inj hpure
      exact Or.inl ⟨e, s₁, s₂, e₁, e₂, hupload, hrelease, by simp⟩
  | ok _ =>
      obtain ⟨_, _, hlift, hbody, rfl⟩ := Effect.run_bind_eq_ok_iff.mp hrest
      obtain ⟨done, hdone, rfl⟩ := Effect.run_lift_eq_ok_iff.mp hlift
      obtain ⟨⟨_, s₂, e₂⟩, _, hcommands, hpure, rfl⟩ := Effect.run_bind_eq_ok_iff.mp hbody
      obtain rfl := Except.ok.inj hpure
      exact Or.inr ⟨done, s₁, s₂, e₁, e₂, hupload, hdone, hcommands, by simp⟩

theorem frameCount_of_run {out : Ran ε σ (FrameRun P T)}
    (h : (renderFrame B r frame).run s = .ok out) : r.frameCount + 1 < 2 ^ 64 := by
  obtain ⟨_, _, hlift, -, -⟩ := Effect.run_bind_eq_ok_iff.mp h
  obtain ⟨n, hn, -⟩ := Effect.run_lift_eq_ok_iff.mp hlift
  exact (fitUnsigned_eq_ok_iff.mp hn).1

/-- Every frame that is answered took one of the courses. -/
theorem frameCourse_of_run {out : Ran ε σ (FrameRun P T)}
    (h : (renderFrame B r frame).run s = .ok out) : FrameCourse B r frame s out := by
  rw [run_renderFrame B r frame s (frameCount_of_run h)] at h
  cases hempty : frame.isEmpty with
  | true =>
      rw [hempty, if_pos rfl] at h
      obtain ⟨⟨_, s₁, e₁⟩, _, cleared, hpure, rfl⟩ := Effect.run_bind_eq_ok_iff.mp h
      obtain rfl := Except.ok.inj hpure
      rw [List.append_nil]
      exact .empty hempty cleared
  | false =>
      rw [hempty, if_neg Bool.false_ne_true] at h
      obtain ⟨⟨⟨viewport, lookup⟩, s₁, e₁⟩, _, prepared, hanswer, rfl⟩ :=
        Effect.run_bind_eq_ok_iff.mp h
      unfold answer at hanswer
      cases houtcome : lookup.outcome with
      | error e =>
          simp only [houtcome] at hanswer
          obtain rfl := Except.ok.inj hanswer
          rw [List.append_nil]
          exact .unprogrammed hempty prepared houtcome
      | ok program =>
          simp only [houtcome] at hanswer
          cases haccept : r.accept frame with
          | error e =>
              simp only [haccept] at hanswer
              obtain rfl := Except.ok.inj hanswer
              rw [List.append_nil]
              exact .rejected hempty prepared houtcome haccept
          | ok d =>
              simp only [haccept] at hanswer
              obtain ⟨_, _, hdraw, hpure, rfl⟩ := Effect.run_bind_eq_ok_iff.mp hanswer
              obtain rfl := Except.ok.inj hpure
              rcases run_drawDecoded hdraw with ⟨e, s₂, s₃, e₂, e₃, uploaded, released, rfl⟩
                | ⟨done, s₂, s₃, e₂, e₃, uploaded, executed, performed, rfl⟩
              · simp only [List.append_nil]
                exact .refused hempty prepared houtcome haccept uploaded released
              · simp only [List.append_nil]
                exact .drawn hempty prepared houtcome haccept uploaded executed performed

/-- The converse: a course that can be walked is the one rendering takes. -/
theorem run_of_frameCourse (hcount : r.frameCount + 1 < 2 ^ 64) {out : Ran ε σ (FrameRun P T)}
    (course : FrameCourse B r frame s out) : (renderFrame B r frame).run s = .ok out := by
  rw [run_renderFrame B r frame s hcount]
  cases course with
  | empty nothing cleared => simp [nothing, cleared]
  | unprogrammed something prepared failed => simp [something, prepared, answer, failed]
  | rejected something prepared programmed bad =>
      simp [something, prepared, answer, programmed, bad]
  | refused something prepared programmed accepted uploaded released =>
      simp [something, prepared, answer, programmed, accepted, drawDecoded, uploaded, released]
  | drawn something prepared programmed accepted uploaded executed performed =>
      simp [something, prepared, answer, programmed, accepted, drawDecoded, uploaded, executed,
        performed]

/-! ## Textures between frames -/

theorem exists_textures_of_allocate {resource : T} {handle : TextureHandle} {r' : Renderer P T}
    {notice : RenderNotice} (h : r.allocateTexture resource = .ok (handle, r', notice)) :
    ∃ textures, r' = { r with textures := textures } := by
  obtain ⟨⟨_, textures⟩, -, hpure⟩ := except_bind_eq_ok_iff.mp h
  exact ⟨textures, (Prod.mk.inj (Prod.mk.inj (Except.ok.inj hpure)).2).1.symm⟩

theorem exists_textures_of_dispose {handle : TextureHandle} {texture : Option T}
    {r' : Renderer P T} {notice : RenderNotice}
    (h : r.disposeTexture handle = .ok (texture, r', notice)) :
    ∃ textures, r' = { r with textures := textures } := by
  obtain ⟨⟨_, textures⟩, -, hpure⟩ := except_bind_eq_ok_iff.mp h
  exact ⟨textures, (Prod.mk.inj (Prod.mk.inj (Except.ok.inj hpure)).2).1.symm⟩

/-! ## Accepted frames -/

theorem accept_eq_ok_iff {d : DecodedFrame} :
    r.accept frame = .ok d ↔
      frame.WellSized ∧ d = frame.records ∧ d.validate r.textures.capacity = .ok () := by
  simp only [accept, except_bind_eq_ok_iff, FrameData.decode_eq_ok_iff]
  constructor
  · rintro ⟨_, ⟨hsized, rfl⟩, _, hvalid, hpure⟩
    obtain rfl := Except.ok.inj hpure
    exact ⟨hsized, rfl, hvalid⟩
  · rintro ⟨hsized, rfl, hvalid⟩
    exact ⟨_, ⟨hsized, rfl⟩, (), hvalid, rfl⟩

theorem fits_of_accept {d : DecodedFrame} (accepted : r.accept frame = .ok d) :
    ∀ b ∈ d.batches, b.Fits d.indices.length r.textures.capacity :=
  (DecodedFrame.validate_eq_ok_iff.mp (accept_eq_ok_iff.mp accepted).2.2).2

theorem length_lt_of_accept {d : DecodedFrame} (accepted : r.accept frame = .ok d) :
    d.indices.length < 2 ^ 31 ∧ d.batches.length < 2 ^ 31 := by
  obtain ⟨hsized, rfl, -⟩ := accept_eq_ok_iff.mp accepted
  rw [FrameData.records_indices_length hsized, FrameData.records_batches_length]
  exact ⟨FrameData.toNat_count_lt _, FrameData.toNat_count_lt _⟩

theorem ne_nil_of_accept {d : DecodedFrame} (accepted : r.accept frame = .ok d)
    (something : frame.isEmpty = false) : d.vertices ≠ [] ∧ d.indices ≠ [] := by
  obtain ⟨hsized, rfl, -⟩ := accept_eq_ok_iff.mp accepted
  obtain ⟨hv, hi⟩ : frame.vertexCount ≠ 0 ∧ frame.indexCount ≠ 0 := by
    simpa [FrameData.isEmpty] using something
  have hpos : ∀ {n : Int32}, n ≠ 0 → 0 ≤ n.toInt → 0 < n.toInt.toNat := by
    intro n hne hnonneg
    have hne' : n.toInt ≠ (0 : Int32).toInt := mt Int32.toInt_inj.mp hne
    simp only [Int32.toInt_zero] at hne'
    omega
  refine ⟨List.ne_nil_of_length_pos ?_, List.ne_nil_of_length_pos ?_⟩
  · rw [FrameData.records_vertices_length]
    exact hpos hv hsized.vertexCount
  · rw [FrameData.records_indices_length hsized]
    exact hpos hi hsized.indexCount

theorem triangleTotal_lt_of_accept {d : DecodedFrame} (accepted : r.accept frame = .ok d)
    (c : DrawContext T) : c.triangleTotal d.batches < 2 ^ 64 := by
  have hlength := (length_lt_of_accept accepted).2
  calc c.triangleTotal d.batches
      ≤ d.batches.length * 2 ^ 31 := DrawContext.triangleTotal_le c d.batches
    _ < 2 ^ 31 * 2 ^ 31 := Nat.mul_lt_mul_of_pos_right hlength (by decide)
    _ < 2 ^ 64 := by decide

theorem exists_execute_of_accept {d : DecodedFrame} (accepted : r.accept frame = .ok d)
    (c : DrawContext T) (warned : Bool) : ∃ done, c.execute warned d.batches = .ok done :=
  ⟨_, (DrawContext.execute_eq_ok_iff c warned fun b hb =>
    (fits_of_accept accepted b hb).triangles).mpr ⟨triangleTotal_lt_of_accept accepted c, rfl⟩⟩

section Executed

variable {d : DecodedFrame} {c : DrawContext T} {warned : Bool} {done : Execution T}

/-- A draw of an accepted frame reads a part of its index buffer, in whole
triangles. -/
theorem range_of_draw (accepted : r.accept frame = .ok d)
    (executed : c.execute warned d.batches = .ok done) {first count : UInt32}
    (hmem : .draw first count ∈ done.commands) :
    first.toNat + count.toNat ≤ d.indices.length ∧ 0 < count.toNat ∧ 3 ∣ count.toNat := by
  have fits := fits_of_accept accepted
  have hlength := (length_lt_of_accept accepted).1
  obtain ⟨b, hb, shown, hcommand⟩ := DrawContext.exists_batch_of_mem_execute
    (fun b hb => (fits b hb).triangles) executed hmem
  exact DrawContext.range_of_draw_mem (fits b hb) (by omega) shown hcommand

theorem textureOf_of_bindTexture (accepted : r.accept frame = .ok d)
    (executed : c.execute warned d.batches = .ok done) {texture : Option T}
    (hmem : .bindTexture texture ∈ done.commands) :
    ∃ b ∈ d.batches, c.shows b = true ∧ c.textureOf b.textureId = texture := by
  obtain ⟨b, hb, shown, hcommand⟩ := DrawContext.exists_batch_of_mem_execute
    (fun b hb => (fits_of_accept accepted b hb).triangles) executed hmem
  refine ⟨b, hb, shown, ?_⟩
  rw [DrawContext.plainBatch] at hcommand
  split at hcommand <;> simpa [eq_comm] using hcommand

theorem applyScissor_of_scissorRect (accepted : r.accept frame = .ok d)
    (executed : c.execute warned d.batches = .ok done) {clip : Clip}
    (hmem : .scissorRect clip ∈ done.commands) : c.applyScissor = true := by
  obtain ⟨b, -, -, hcommand⟩ := DrawContext.exists_batch_of_mem_execute
    (fun b hb => (fits_of_accept accepted b hb).triangles) executed hmem
  rw [DrawContext.plainBatch] at hcommand
  split at hcommand
  · next hs => exact hs
  · simp at hcommand

end Executed

/-! ## Faults -/

/-- Where a frame can fault: on the frame counter, or on something asked of
the device, at the point where it was asked. -/
inductive FaultCourse (B : Backend ε σ P T) (r : Renderer P T) (frame : FrameData) (s : σ)
    (e : Fault) : Prop
  | count (full : 2 ^ 64 ≤ r.frameCount + 1)
  | clear (cleared : (B.performAll r.header).run s = .error e)
  | prepare (something : frame.isEmpty = false) (prepared : (prepare B r).run s = .error e)
  | upload {viewport : Viewport} {lookup : ShaderCache.Lookup P T} {s₁ : σ} {e₁ : List ε}
      {d : DecodedFrame} (something : frame.isEmpty = false)
      (prepared : (Renderer.prepare B r).run s = .ok ⟨(viewport, lookup), s₁, e₁⟩)
      (accepted : r.accept frame = .ok d)
      (uploaded : (B.upload d.vertices d.indices).run s₁ = .error e)
  | release {viewport : Viewport} {lookup : ShaderCache.Lookup P T} {s₁ s₂ : σ} {e₁ e₂ : List ε}
      {d : DecodedFrame} {error : RenderError} (something : frame.isEmpty = false)
      (prepared : (Renderer.prepare B r).run s = .ok ⟨(viewport, lookup), s₁, e₁⟩)
      (accepted : r.accept frame = .ok d)
      (uploaded : (B.upload d.vertices d.indices).run s₁ = .ok ⟨.error error, s₂, e₂⟩)
      (released : (B.perform .releaseGeometry).run s₂ = .error e)
  | draw {viewport : Viewport} {lookup : ShaderCache.Lookup P T} {s₁ s₂ : σ} {e₁ e₂ : List ε}
      {program : P} {d : DecodedFrame} {done : Execution T} (something : frame.isEmpty = false)
      (prepared : (Renderer.prepare B r).run s = .ok ⟨(viewport, lookup), s₁, e₁⟩)
      (programmed : lookup.outcome = .ok program) (accepted : r.accept frame = .ok d)
      (uploaded : (B.upload d.vertices d.indices).run s₁ = .ok ⟨.ok (), s₂, e₂⟩)
      (executed : (r.drawContext viewport).execute r.warnedUnbound d.batches = .ok done)
      (performed : (B.performAll (r.body program viewport done.commands)).run s₂ = .error e)

theorem fault_drawDecoded {viewport : Viewport} {program : P} {d : DecodedFrame} {e : Fault}
    (h : (drawDecoded B r viewport program d).run s = .error e) :
    (B.upload d.vertices d.indices).run s = .error e
    ∨ (∃ error s₁ e₁, (B.upload d.vertices d.indices).run s = .ok ⟨.error error, s₁, e₁⟩
      ∧ (B.perform .releaseGeometry).run s₁ = .error e)
    ∨ (r.drawContext viewport).execute r.warnedUnbound d.batches = .error e
    ∨ (∃ done s₁ e₁, (B.upload d.vertices d.indices).run s = .ok ⟨.ok (), s₁, e₁⟩
      ∧ (r.drawContext viewport).execute r.warnedUnbound d.batches = .ok done
      ∧ (B.performAll (r.body program viewport done.commands)).run s₁ = .error e) := by
  rcases Effect.run_bind_eq_error_iff.mp h with hupload | ⟨⟨answer, s₁, e₁⟩, uploaded, hrest⟩
  · exact Or.inl hupload
  cases answer with
  | error error =>
      rcases Effect.run_bind_eq_error_iff.mp hrest with hrelease | ⟨_, -, hpure⟩
      · exact Or.inr (Or.inl ⟨error, s₁, e₁, uploaded, hrelease⟩)
      · cases hpure
  | ok _ =>
      rcases Effect.run_bind_eq_error_iff.mp hrest with hlift | ⟨_, hlift, hbody⟩
      · exact Or.inr (Or.inr (Or.inl (Effect.run_lift_eq_error_iff.mp hlift)))
      obtain ⟨done, executed, rfl⟩ := Effect.run_lift_eq_ok_iff.mp hlift
      rcases Effect.run_bind_eq_error_iff.mp hbody with performed | ⟨_, -, hpure⟩
      · exact Or.inr (Or.inr (Or.inr ⟨done, s₁, e₁, uploaded, executed, performed⟩))
      · cases hpure

/-- There is no other place: counting triangles never faults. -/
theorem faultCourse_of_run {e : Fault} (h : (renderFrame B r frame).run s = .error e) :
    FaultCourse B r frame s e := by
  by_cases hcount : r.frameCount + 1 < 2 ^ 64
  · rw [run_renderFrame B r frame s hcount] at h
    cases hempty : frame.isEmpty with
    | true =>
        rw [hempty, if_pos rfl] at h
        rcases Effect.run_bind_eq_error_iff.mp h with hclear | ⟨_, -, hpure⟩
        · exact .clear hclear
        · cases hpure
    | false =>
        rw [hempty, if_neg Bool.false_ne_true] at h
        rcases Effect.run_bind_eq_error_iff.mp h with hprepare | ⟨⟨⟨viewport, lookup⟩, s₁, e₁⟩,
          prepared, hanswer⟩
        · exact .prepare hempty hprepare
        unfold answer at hanswer
        cases houtcome : lookup.outcome with
        | error error => simp [houtcome] at hanswer
        | ok program =>
            simp only [houtcome] at hanswer
            cases haccept : r.accept frame with
            | error error => simp [haccept] at hanswer
            | ok d =>
                simp only [haccept] at hanswer
                rcases Effect.run_bind_eq_error_iff.mp hanswer with hdraw | ⟨_, -, hpure⟩
                · rcases fault_drawDecoded hdraw with hupload
                    | ⟨error, s₂, e₂, uploaded, released⟩ | hexecute
                    | ⟨done, s₂, e₂, uploaded, executed, performed⟩
                  · exact .upload hempty prepared haccept hupload
                  · exact .release hempty prepared haccept uploaded released
                  · obtain ⟨done, hdone⟩ :=
                      exists_execute_of_accept haccept (r.drawContext viewport) r.warnedUnbound
                    rw [lookedUp_drawContext, lookedUp_warnedUnbound, hdone] at hexecute
                    cases hexecute
                  · exact .draw hempty prepared houtcome haccept uploaded executed performed
                · cases hpure
  · exact .count (Nat.not_lt.mp hcount)

end Renderer

/-! ## What the device hears -/

namespace Backend

/-- The same device, whose events are the calls it gets. -/
def observed (B : Backend ε σ P T) : Backend (Call P T) σ P T where
  viewport := B.viewport
  perform command := do
    (B.perform command).muted
    Effect.emit (.command command)
  compile source := do
    let answer ← (B.compile source).muted
    Effect.emit (.compile source)
    return answer
  upload vertices indices := do
    let answer ← (B.upload vertices indices).muted
    Effect.emit (.upload vertices indices answer.isOk)
    return answer

variable {B : Backend ε σ P T} {s : σ}

theorem run_perform_observed {command : Command P T} {out : Ran ε σ Unit}
    (h : (B.perform command).run s = .ok out) :
    (B.observed.perform command).run s = .ok ⟨(), out.state, [.command command]⟩ := by
  simp [observed, Effect.run_muted_of_ok h]

theorem run_upload_observed {vertices : List Vertex} {indices : List UInt16}
    {out : Ran ε σ (Except RenderError Unit)} (h : (B.upload vertices indices).run s = .ok out) :
    (B.observed.upload vertices indices).run s =
      .ok ⟨out.value, out.state, [.upload vertices indices out.value.isOk]⟩ := by
  simp [observed, Effect.run_muted_of_ok h]

theorem run_performAll_observed {commands : List (Command P T)} {out : Ran ε σ Unit}
    (h : (B.performAll commands).run s = .ok out) :
    (B.observed.performAll commands).run s = .ok ⟨(), out.state, commands.map .command⟩ := by
  induction commands generalizing s out with
  | nil =>
      obtain rfl := Except.ok.inj h
      rfl
  | cons command rest ih =>
      obtain ⟨mid, last, hcommand, hrest, rfl⟩ := Effect.run_bind_eq_ok_iff.mp h
      simp [performAll, run_perform_observed hcommand, ih hrest]

theorem run_ensureCompiled_observed {c : ShaderCache P} {out : Ran ε σ (ShaderCache.Lookup P T)}
    (h : (c.ensureCompiled B).run s = .ok out) :
    (c.ensureCompiled B.observed).run s = .ok ⟨out.value, out.state, out.value.calls⟩ := by
  rcases ShaderCache.run_ensureCompiled_eq_ok_iff.mp h with ⟨outcome, hknown, rfl⟩
    | ⟨hunknown, asked, hasked, rfl⟩
  · simp [ShaderCache.ensureCompiled, hknown]
  · simp [ShaderCache.ensureCompiled, hunknown, observed, Effect.run_muted_of_ok hasked,
      ShaderCache.Lookup.ofAnswer]

end Backend

namespace Renderer

variable {B : Backend ε σ P T} {r : Renderer P T} {frame : FrameData} {s : σ}

theorem run_prepare_observed {viewport : Viewport} {lookup : ShaderCache.Lookup P T} {s₁ : σ}
    {e₁ : List ε} (h : (prepare B r).run s = .ok ⟨(viewport, lookup), s₁, e₁⟩) :
    (prepare B.observed r).run s = .ok ⟨(viewport, lookup), s₁, r.opening ++ lookup.calls⟩ := by
  obtain ⟨mid, last, hheader, hlookup, hout⟩ := run_prepare_eq_ok_iff.mp h
  obtain ⟨⟨rfl, rfl⟩, rfl, -⟩ : (viewport = B.viewport mid.state ∧ lookup = last.value)
      ∧ s₁ = last.state ∧ e₁ = mid.events ++ last.events := by simpa using hout
  exact run_prepare_eq_ok_iff.mpr ⟨_, _, Backend.run_performAll_observed hheader,
    Backend.run_ensureCompiled_observed hlookup, rfl⟩

/-- The calls that a frame reports are the calls that its device gets. -/
theorem run_renderFrame_observed {out : Ran ε σ (FrameRun P T)}
    (h : (renderFrame B r frame).run s = .ok out) :
    (renderFrame B.observed r frame).run s = .ok ⟨out.value, out.state, out.value.calls⟩ := by
  apply run_of_frameCourse (frameCount_of_run h)
  cases frameCourse_of_run h with
  | empty nothing cleared => exact .empty nothing (Backend.run_performAll_observed cleared)
  | unprogrammed something prepared failed =>
      exact .unprogrammed something (run_prepare_observed prepared) failed
  | rejected something prepared programmed bad =>
      exact .rejected something (run_prepare_observed prepared) programmed bad
  | refused something prepared programmed accepted uploaded released =>
      have course := FrameCourse.refused something (run_prepare_observed prepared) programmed
        accepted (Backend.run_upload_observed uploaded) (Backend.run_perform_observed released)
      rw [List.append_assoc] at course
      exact course
  | drawn something prepared programmed accepted uploaded executed performed =>
      have course := FrameCourse.drawn something (run_prepare_observed prepared) programmed
        accepted (Backend.run_upload_observed uploaded) executed
        (Backend.run_performAll_observed performed)
      rw [List.append_assoc] at course
      exact course

/-- A frame that a renderer ran on some device, and the calls that this device
got. -/
inductive Overheard (r : Renderer P T) (data : FrameData) (run : FrameRun P T) :
    List (Call P T) → Prop
  | frame {ε σ : Type} {B : Backend ε σ P T} {s s' : σ} {events : List ε}
      {calls : List (Call P T)} (ran : (renderFrame B r data).run s = .ok ⟨run, s', events⟩)
      (heard : (renderFrame B.observed r data).run s = .ok ⟨run, s', calls⟩) :
      Overheard r data run calls

theorem overheard_of_run {out : Ran ε σ (FrameRun P T)}
    (h : (renderFrame B r frame).run s = .ok out) : r.Overheard frame out.value out.value.calls :=
  .frame h (run_renderFrame_observed h)

/-- A renderer that was never used, with the pool of `sampleContext`. -/
def sampleRenderer : Renderer Nat Nat where
  config := ⟨2, .black, true⟩
  textures := DrawContext.sampleContext.textures
  shader := .ofSource .sprite
  warnedUnbound := false
  frameCount := 0

end Renderer

end SpriteRenderer

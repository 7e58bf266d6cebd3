import SpriteRenderer.Proofs.DroppedFrames

/-!
# The program is compiled once

A renderer asks for its program in the first frame that holds something, and
never again: the device's answer, program or error text, decides every later
frame, whatever the device would answer by then.

The answers are made visible by `Backend.answering`, whose events they are.
What is then shown of a frame is that the answers known before it and those
it gets make one answer together (`run_prepare_answering`), and that its calls
follow from this answer (`heard_of_run`). A `History` is any number of frames
on any devices; `recorded_history` is the induction over it.
-/

namespace SpriteRenderer

variable {ε σ P T : Type}

/-! ## Hearing the answers -/

def Call.isCompile : Call P T → Bool
  | .compile _ => true
  | _ => false

namespace Backend

/-- The same device, whose events are its answers to compile requests. -/
def answering (B : Backend ε σ P T) : Backend (Except String P) σ P T where
  viewport := B.viewport
  perform command := (B.perform command).muted
  compile source := do
    let answer ← (B.compile source).muted
    Effect.emit answer
    return answer
  upload vertices indices := (B.upload vertices indices).muted

variable {B : Backend ε σ P T} {s : σ}

theorem run_performAll_answering {commands : List (Command P T)} {out : Ran ε σ Unit}
    (h : (B.performAll commands).run s = .ok out) :
    (B.answering.performAll commands).run s = .ok ⟨(), out.state, []⟩ := by
  induction commands generalizing s out with
  | nil =>
      obtain rfl := Except.ok.inj h
      rfl
  | cons command rest ih =>
      obtain ⟨mid, last, hcommand, hrest, rfl⟩ := Effect.run_bind_eq_ok_iff.mp h
      exact Effect.run_bind_eq_ok_iff.mpr
        ⟨_, _, Effect.run_muted_of_ok hcommand, ih hrest, rfl⟩

theorem run_compile_answering {source : ShaderSource} {out : Ran ε σ (Except String P)}
    (h : (B.compile source).run s = .ok out) :
    (B.answering.compile source).run s = .ok ⟨out.value, out.state, [out.value]⟩ := by
  simp [answering, Effect.run_muted_of_ok h]

end Backend

namespace Renderer

variable {B : Backend ε σ P T} {r : Renderer P T} {frame : FrameData} {s : σ}

theorem run_prepare_answering {viewport : Viewport} {lookup : ShaderCache.Lookup P T} {s₁ : σ}
    {e₁ : List ε} (h : (prepare B r).run s = .ok ⟨(viewport, lookup), s₁, e₁⟩) :
    ∃ answer asked, (prepare B.answering r).run s = .ok ⟨(viewport, lookup), s₁, asked⟩
      ∧ r.shader.answer?.toList ++ asked = [answer] ∧ lookup.cache = r.shader.settle answer
      ∧ lookup.outcome = answer.mapError (.shaderCompileFailure r.shader.source.name)
      ∧ lookup.calls = asked.map fun _ => .compile r.shader.source := by
  obtain ⟨mid, last, hheader, hlookup, hout⟩ := run_prepare_eq_ok_iff.mp h
  obtain ⟨⟨rfl, rfl⟩, rfl, -⟩ : (viewport = B.viewport mid.state ∧ lookup = last.value)
      ∧ s₁ = last.state ∧ e₁ = mid.events ++ last.events := by simpa using hout
  have hheader' := Backend.run_performAll_answering hheader
  rcases ShaderCache.run_ensureCompiled_eq_ok_iff.mp hlookup with ⟨outcome, hknown, rfl⟩
    | ⟨hunknown, asked, hasked, rfl⟩
  · obtain ⟨answer, hanswer, rfl⟩ :=
      Option.map_eq_some_iff.mp (r.shader.program?_eq.symm.trans hknown)
    refine ⟨answer, [], ?_, by rw [hanswer]; rfl, (ShaderCache.settle_of_answer? hanswer).symm,
      rfl, rfl⟩
    exact run_prepare_eq_ok_iff.mpr ⟨_, _, hheader',
      ShaderCache.run_ensureCompiled_eq_ok_iff.mpr (Or.inl ⟨_, hknown, rfl⟩), rfl⟩
  · have hanswer := ShaderCache.program?_eq_none_iff.mp hunknown
    refine ⟨asked.value, [asked.value], ?_, by rw [hanswer]; rfl, rfl, rfl, rfl⟩
    exact run_prepare_eq_ok_iff.mpr ⟨_, _, hheader',
      ShaderCache.run_ensureCompiled_eq_ok_iff.mpr
        (Or.inr ⟨hunknown, _, Backend.run_compile_answering hasked, rfl⟩), rfl⟩

/-! ## One frame -/

/-- What a frame does after its program has been asked for, given the answer:
it uses this program and asks no more, or fails with this text and stops. -/
def FrameRun.Obeys (run : FrameRun P T) (name : String) (rest : List (Call P T)) :
    Except String P → Prop
  | .ok program =>
      (∀ source, .compile source ∉ rest)
        ∧ ∀ p projection, .command (.useProgram p projection) ∈ rest → p = program
  | .error log => run.outcome = .error (.shaderCompileFailure name log) ∧ rest = []

theorem FrameRun.obeys_of_commands {run : FrameRun P T} {name : String} {program : P}
    {vertices : List Vertex} {indices : List UInt16} {taken : Bool}
    (commands : List (Command P T))
    (h : ∀ p projection, .useProgram p projection ∈ commands → p = program) :
    run.Obeys name (.upload vertices indices taken :: commands.map .command) (.ok program) := by
  refine ⟨by simp, ?_⟩
  intro p projection hmem
  exact h p projection (by simpa using hmem)

theorem program_of_mem_body {program p : P} {viewport : Viewport} {drawing : List (DrawCommand T)}
    {projection : Projection} (h : .useProgram p projection ∈ r.body program viewport drawing) :
    p = program := by
  have hsame : p = program ∧ projection = .screen viewport := by
    unfold body at h
    split at h <;> simpa using h
  exact hsame.1

/-- A frame on any device, heard: an empty one is only cleared, and any other
follows the one answer there is once it has its program. -/
theorem heard_of_run {out : Ran ε σ (FrameRun P T)} (h : (renderFrame B r frame).run s = .ok out) :
    ∃ answers, (renderFrame B.answering r frame).run s = .ok ⟨out.value, out.state, answers⟩
      ∧ ((frame.isEmpty = true ∧ answers = [] ∧ out.value.outcome = .ok .zero
          ∧ out.value.calls = r.opening ∧ out.value.renderer.shader = r.shader)
        ∨ (frame.isEmpty = false ∧ ∃ answer rest, r.shader.answer?.toList ++ answers = [answer]
          ∧ out.value.renderer.shader = r.shader.settle answer
          ∧ out.value.calls
            = r.opening ++ (answers.map (fun _ => .compile r.shader.source) ++ rest)
          ∧ out.value.Obeys r.shader.source.name rest answer)) := by
  have hcount := frameCount_of_run h
  cases frameCourse_of_run h with
  | empty nothing cleared =>
      exact ⟨[], run_of_frameCourse hcount
        (.empty nothing (Backend.run_performAll_answering cleared)),
        Or.inl ⟨nothing, rfl, rfl, rfl, rfl⟩⟩
  | unprogrammed something prepared failed =>
      obtain ⟨answer, asked, hprepared, hone, hcache, houtcome, hcalls⟩ :=
        run_prepare_answering prepared
      refine ⟨asked, run_of_frameCourse hcount (.unprogrammed something hprepared failed),
        Or.inr ⟨something, answer, [], hone, hcache, ?_, ?_⟩⟩
      · rw [← hcalls, List.append_nil]
      · rw [failed] at houtcome
        cases answer with
        | ok program => cases houtcome
        | error log => exact ⟨congrArg Except.error (Except.error.inj houtcome), rfl⟩
  | rejected something prepared programmed bad =>
      obtain ⟨answer, asked, hprepared, hone, hcache, houtcome, hcalls⟩ :=
        run_prepare_answering prepared
      obtain rfl := eq_ok_of_mapError (houtcome.symm.trans programmed)
      refine ⟨asked, run_of_frameCourse hcount (.rejected something hprepared programmed bad),
        Or.inr ⟨something, _, [], hone, hcache, ?_, nofun, nofun⟩⟩
      rw [← hcalls, List.append_nil]
  | refused something prepared programmed accepted uploaded released =>
      obtain ⟨answer, asked, hprepared, hone, hcache, houtcome, hcalls⟩ :=
        run_prepare_answering prepared
      obtain rfl := eq_ok_of_mapError (houtcome.symm.trans programmed)
      have course := FrameCourse.refused something hprepared programmed accepted
        (Effect.run_muted_of_ok uploaded) (Effect.run_muted_of_ok released)
      rw [List.append_nil, List.append_nil] at course
      refine ⟨asked, run_of_frameCourse hcount course,
        Or.inr ⟨something, _, _, hone, hcache, by rw [← hcalls], ?_⟩⟩
      exact FrameRun.obeys_of_commands [.releaseGeometry] (by simp)
  | drawn something prepared programmed accepted uploaded executed performed =>
      obtain ⟨answer, asked, hprepared, hone, hcache, houtcome, hcalls⟩ :=
        run_prepare_answering prepared
      obtain rfl := eq_ok_of_mapError (houtcome.symm.trans programmed)
      have course := FrameCourse.drawn something hprepared programmed accepted
        (Effect.run_muted_of_ok uploaded) executed (Backend.run_performAll_answering performed)
      rw [List.append_nil, List.append_nil] at course
      refine ⟨asked, run_of_frameCourse hcount course,
        Or.inr ⟨something, _, _, hone, hcache, by rw [← hcalls], ?_⟩⟩
      exact FrameRun.obeys_of_commands _ fun p projection => program_of_mem_body

theorem config_of_run {out : Ran ε σ (FrameRun P T)}
    (h : (renderFrame B r frame).run s = .ok out) : out.value.renderer.config = r.config := by
  cases frameCourse_of_run h <;> rfl

/-! ## Histories -/

/-- A frame, what became of it, and what its device answered when it was
asked to compile. -/
structure FrameRecord (P T : Type) where
  data : FrameData
  run : FrameRun P T
  answers : List (Except String P)

/-- What a renderer has rendered, on whatever devices, each in whatever state,
with textures coming and going between the frames. -/
inductive History (r₀ : Renderer P T) : List (FrameRecord P T) → Renderer P T → Prop
  | start : History r₀ [] r₀
  | frame {ε σ : Type} {B : Backend ε σ P T} {s : σ} {data : FrameData} {r : Renderer P T}
      {log : List (FrameRecord P T)} {out : Ran ε σ (FrameRun P T)}
      {answers : List (Except String P)} (before : History r₀ log r)
      (ran : (renderFrame B r data).run s = .ok out)
      (heard : (renderFrame B.answering r data).run s = .ok ⟨out.value, out.state, answers⟩) :
      History r₀ (log ++ [⟨data, out.value, answers⟩]) out.value.renderer
  | allocate {r r' : Renderer P T} {log : List (FrameRecord P T)} {resource : T}
      {handle : TextureHandle} {notice : RenderNotice} (before : History r₀ log r)
      (allocated : r.allocateTexture resource = .ok (handle, r', notice)) : History r₀ log r'
  | dispose {r r' : Renderer P T} {log : List (FrameRecord P T)} {resource : Option T}
      {handle : TextureHandle} {notice : RenderNotice} (before : History r₀ log r)
      (disposed : r.disposeTexture handle = .ok (resource, r', notice)) : History r₀ log r'

/-- An empty frame: the target was cleared, and nothing asked. -/
structure FrameRecord.Cleared (r₀ : Renderer P T) (x : FrameRecord P T) : Prop where
  empty : x.data.isEmpty = true
  outcome : x.run.outcome = .ok .zero
  calls : x.run.calls = FrameShape.header r₀
  answers : x.answers = []

/-- A frame with something in it, for which the device was `asked`, and which
obeys the answer there is. -/
structure FrameRecord.Decided (r₀ : Renderer P T) (answer : Except String P)
    (asked : List (Except String P)) (x : FrameRecord P T) : Prop where
  filled : x.data.isEmpty = false
  answers : x.answers = asked
  calls : ∃ rest,
    x.run.calls = FrameShape.header r₀ ++ (asked.map (fun _ => .compile .sprite) ++ rest)
      ∧ x.run.Obeys ShaderSource.sprite.name rest answer

/-- A log in which the device has given one answer, or none. -/
def Told (r₀ : Renderer P T) (log : List (FrameRecord P T)) : Option (Except String P) → Prop
  | none => ∀ x ∈ log, x.Cleared r₀
  | some answer => ∃ before first after, log = before ++ first :: after
      ∧ (∀ x ∈ before, x.Cleared r₀) ∧ first.Decided r₀ answer [answer]
      ∧ ∀ x ∈ after, x.Cleared r₀ ∨ x.Decided r₀ answer []

section Told

variable {r₀ : Renderer P T} {log : List (FrameRecord P T)} {x : FrameRecord P T}

theorem Told.append_cleared {answer? : Option (Except String P)} (told : Told r₀ log answer?)
    (hx : x.Cleared r₀) : Told r₀ (log ++ [x]) answer? := by
  cases answer? with
  | none =>
      intro y hy
      rcases List.mem_append.mp hy with hlog | hlast
      · exact told y hlog
      · rwa [List.mem_singleton.mp hlast]
  | some answer =>
      obtain ⟨before, first, after, rfl, hbefore, hfirst, hafter⟩ := told
      refine ⟨before, first, after ++ [x], by simp, hbefore, hfirst, ?_⟩
      intro y hy
      rcases List.mem_append.mp hy with hlog | hlast
      · exact hafter y hlog
      · rw [List.mem_singleton.mp hlast]
        exact Or.inl hx

/-- The first frame with something in it gets the answer, later ones find
it. -/
theorem Told.append_decided {answer? : Option (Except String P)} {answer : Except String P}
    {asked : List (Except String P)} (told : Told r₀ log answer?)
    (one : answer?.toList ++ asked = [answer]) (hx : x.Decided r₀ answer asked) :
    Told r₀ (log ++ [x]) (some answer) := by
  cases answer? with
  | none =>
      obtain rfl : asked = [answer] := one
      exact ⟨log, x, [], rfl, told, hx, fun _ hmem => absurd hmem List.not_mem_nil⟩
  | some known =>
      obtain ⟨rfl, rfl⟩ : known = answer ∧ asked = [] := by simpa using one
      obtain ⟨before, first, after, rfl, hbefore, hfirst, hafter⟩ := told
      refine ⟨before, first, after ++ [x], by simp, hbefore, hfirst, ?_⟩
      intro y hy
      rcases List.mem_append.mp hy with hlog | hlast
      · exact hafter y hlog
      · rw [List.mem_singleton.mp hlast]
        exact Or.inr hx

theorem Told.flatMap_answers {answer? : Option (Except String P)} (told : Told r₀ log answer?) :
    (log.flatMap fun x => x.answers) = answer?.toList := by
  cases answer? with
  | none => exact List.flatMap_eq_nil_iff.mpr fun x hx => (told x hx).answers
  | some answer =>
      obtain ⟨before, first, after, rfl, hbefore, hfirst, hafter⟩ := told
      have hbefore' : (before.flatMap fun x => x.answers) = [] :=
        List.flatMap_eq_nil_iff.mpr fun x hx => (hbefore x hx).answers
      have hafter' : (after.flatMap fun x => x.answers) = [] :=
        List.flatMap_eq_nil_iff.mpr fun x hx =>
          (hafter x hx).elim FrameRecord.Cleared.answers FrameRecord.Decided.answers
      rw [List.flatMap_append, List.flatMap_cons, hbefore', hafter', hfirst.answers]
      rfl

theorem Told.cleared_or_decided {answer : Except String P} (told : Told r₀ log (some answer))
    (hx : x ∈ log) : x.Cleared r₀ ∨ ∃ asked, x.Decided r₀ answer asked := by
  obtain ⟨before, first, after, rfl, hbefore, hfirst, hafter⟩ := told
  rcases List.mem_append.mp hx with hx | hx
  · exact Or.inl (hbefore x hx)
  rcases List.mem_cons.mp hx with rfl | hx
  · exact Or.inr ⟨_, hfirst⟩
  · exact (hafter x hx).imp_right fun hdecided => ⟨_, hdecided⟩

theorem Told.length_toList {answer? : Option (Except String P)} (told : Told r₀ log answer?) :
    answer?.toList.length = if ∀ x ∈ log, x.data.isEmpty = true then 0 else 1 := by
  cases answer? with
  | none =>
      rw [if_pos fun x hx => (told x hx).empty]
      rfl
  | some answer =>
      obtain ⟨before, first, after, rfl, -, hfirst, -⟩ := told
      rw [if_neg]
      · rfl
      · intro hall
        have hempty := hall first (List.mem_append_right _ List.mem_cons_self)
        rw [hfirst.filled] at hempty
        cases hempty

theorem Told.program_eq {program p : P} {projection : Projection}
    (told : Told r₀ log (some (.ok program))) (hx : x ∈ log)
    (hmem : .command (.useProgram p projection) ∈ x.run.calls) : p = program := by
  rcases told.cleared_or_decided hx with h | ⟨asked, h⟩
  · rw [h.calls] at hmem
    simp [FrameShape.header] at hmem
  · obtain ⟨rest, hcalls, -, hrest⟩ := h.calls
    rw [hcalls] at hmem
    exact hrest p projection (by simpa [FrameShape.header] using hmem)

theorem Told.failure {text : String} (told : Told r₀ log (some (.error text))) (hx : x ∈ log)
    (hfilled : x.data.isEmpty = false) :
    x.run.outcome = .error (.shaderCompileFailure ShaderSource.sprite.name text)
      ∧ x.run.calls = FrameShape.header r₀ ++ x.answers.map fun _ => .compile .sprite := by
  rcases told.cleared_or_decided hx with h | ⟨asked, h⟩
  · rw [h.empty] at hfilled
    cases hfilled
  · obtain ⟨rest, hcalls, houtcome, rfl⟩ := h.calls
    rw [hcalls, h.answers, List.append_nil]
    exact ⟨houtcome, rfl⟩

/-- Every request to compile has its answer. -/
theorem countP_isCompile_eq {answer? : Option (Except String P)} (told : Told r₀ log answer?)
    (hx : x ∈ log) : x.run.calls.countP Call.isCompile = x.answers.length := by
  have hcleared : x.Cleared r₀ → x.run.calls.countP Call.isCompile = x.answers.length := by
    intro h
    rw [h.calls, h.answers]
    rfl
  cases answer? with
  | none => exact hcleared (told x hx)
  | some answer =>
      rcases told.cleared_or_decided hx with h | ⟨asked, h⟩
      · exact hcleared h
      · obtain ⟨rest, hcalls, hobeys⟩ := h.calls
        have hrest : rest.countP Call.isCompile = 0 := by
          rw [List.countP_eq_zero]
          intro call hcall hcompile
          cases answer with
          | ok program =>
              cases call with
              | compile source => exact hobeys.1 source hcall
              | command command => cases hcompile
              | upload vertices indices taken => cases hcompile
          | error text =>
              rw [hobeys.2] at hcall
              cases hcall
        rw [hcalls, h.answers, List.countP_append, List.countP_append, hrest, List.countP_map]
        simp [FrameShape.header, Call.isCompile, Function.comp_def]

theorem countP_flatMap_isCompile {answer? : Option (Except String P)}
    (told : Told r₀ log answer?) :
    (log.flatMap fun x => x.run.calls).countP Call.isCompile
      = (log.flatMap fun x => x.answers).length := by
  have heach := fun x hx => countP_isCompile_eq told (x := x) hx
  clear told
  induction log with
  | nil => rfl
  | cons x rest ih =>
      rw [List.flatMap_cons, List.flatMap_cons, List.countP_append, List.length_append,
        heach x List.mem_cons_self, ih fun y hy => heach y (List.mem_cons_of_mem _ hy)]

end Told

/-- What a renderer knows is what its log tells. -/
structure Recorded (r₀ : Renderer P T) (log : List (FrameRecord P T)) (r : Renderer P T) :
    Prop where
  config : r.config = r₀.config
  source : r.shader.source = .sprite
  told : Told r₀ log r.shader.answer?

theorem Recorded.append {r₀ : Renderer P T} {log : List (FrameRecord P T)}
    (recorded : Recorded r₀ log r) {out : Ran ε σ (FrameRun P T)}
    {answers : List (Except String P)} (ran : (renderFrame B r frame).run s = .ok out)
    (heard : (renderFrame B.answering r frame).run s = .ok ⟨out.value, out.state, answers⟩) :
    Recorded r₀ (log ++ [⟨frame, out.value, answers⟩]) out.value.renderer := by
  obtain ⟨config, source, told⟩ := recorded
  have hopening : r.opening = FrameShape.header r₀ := by
    change FrameShape.header r = _
    rw [FrameShape.header, FrameShape.header, config]
  -- A run has one list of events, so what is heard is what was recorded.
  obtain ⟨answers', heard', hcases⟩ := heard_of_run ran
  obtain rfl : answers' = answers :=
    congrArg Ran.events (Except.ok.inj (heard'.symm.trans heard))
  refine ⟨(config_of_run ran).trans config, ?_, ?_⟩
  · rcases hcases with ⟨-, -, -, -, hshader⟩ | ⟨-, answer, rest, -, hshader, -, -⟩
    · rw [hshader, source]
    · rw [hshader, ShaderCache.source_settle, source]
  · rcases hcases with ⟨hempty, hanswers, houtcome, hcalls, hshader⟩
      | ⟨hfilled, answer, rest, hone, hshader, hcalls, hobeys⟩
    · rw [hshader]
      exact told.append_cleared ⟨hempty, houtcome, hcalls.trans hopening, hanswers⟩
    · rw [hshader, ShaderCache.answer?_settle]
      rw [source] at hcalls hobeys
      rw [hopening] at hcalls
      exact told.append_decided hone ⟨hfilled, rfl, rest, hcalls, hobeys⟩

theorem recorded_history {config : RendererConfig} {r₀ r : Renderer P T}
    {log : List (FrameRecord P T)} (created : create config = .ok r₀)
    (history : History r₀ log r) : Recorded r₀ log r := by
  induction history with
  | start =>
      obtain ⟨textures, -, hpure⟩ := except_bind_eq_ok_iff.mp created
      obtain rfl := Except.ok.inj hpure
      exact ⟨rfl, rfl, fun _ hmem => absurd hmem List.not_mem_nil⟩
  | frame before ran heard ih => exact ih.append ran heard
  | allocate before allocated ih =>
      obtain ⟨textures, rfl⟩ := exists_textures_of_allocate allocated
      exact ⟨ih.config, ih.source, ih.told⟩
  | dispose before disposed ih =>
      obtain ⟨textures, rfl⟩ := exists_textures_of_dispose disposed
      exact ⟨ih.config, ih.source, ih.told⟩

/-- The calls on record are those that a device heard, in the frame that the
renderer ran at that point of its history. -/
theorem exists_overheard {r₀ r : Renderer P T} {log earlier later : List (FrameRecord P T)}
    {x : FrameRecord P T} (history : History r₀ log r) (split : log = earlier ++ x :: later) :
    ∃ r', History r₀ earlier r' ∧ r'.Overheard x.data x.run x.run.calls := by
  induction history generalizing later with
  | start => simp at split
  | frame before ran heard ih =>
      rcases snoc_eq_append_cons split with ⟨rfl, rfl, rfl⟩ | ⟨between, rfl, hlog⟩
      · exact ⟨_, before, overheard_of_run ran⟩
      · exact ih hlog
  | allocate before allocated ih => exact ih split
  | dispose before disposed ih => exact ih split

/-- **The program is compiled once.** Over any history of a new renderer, the
device is asked for the program at most once, in the first frame that holds
something, be it well formed or not; empty frames are cleared and succeed, now
and later. Once the device has answered with a program, this is the program
that is used all over the history. Once it has answered with an error text,
every frame that holds something fails with this text, and its calls are the
header and, in the first such frame, the request. The calls on record are
those that the devices heard. A history can be continued by any frame on any
device, and a rehearsing device answers every frame. -/
theorem compiled_once (config : RendererConfig) (r₀ : Renderer P T)
    (created : create config = .ok r₀) (log : List (FrameRecord P T)) (r : Renderer P T)
    (history : History r₀ log r) :
    Told r₀ log r.shader.answer?
      ∧ (log.flatMap fun x => x.run.calls).countP Call.isCompile
        = (if ∀ x ∈ log, x.data.isEmpty = true then 0 else 1)
      ∧ (∀ program, .ok program ∈ (log.flatMap fun x => x.answers) → ∀ x ∈ log,
        ∀ p projection, .command (.useProgram p projection) ∈ x.run.calls → p = program)
      ∧ (∀ text, .error text ∈ (log.flatMap fun x => x.answers) → ∀ x ∈ log,
        x.data.isEmpty = false →
        x.run.outcome = .error (.shaderCompileFailure ShaderSource.sprite.name text)
          ∧ x.run.calls = FrameShape.header r₀ ++ x.answers.map fun _ => .compile .sprite)
      ∧ (∀ earlier x later, log = earlier ++ x :: later →
        ∃ r', History r₀ earlier r' ∧ r'.Overheard x.data x.run x.run.calls)
      ∧ (∀ {ε σ : Type} (B : Backend ε σ P T) (s : σ) (data : FrameData)
        (out : Ran ε σ (FrameRun P T)), (renderFrame B r data).run s = .ok out →
        ∃ answers, History r₀ (log ++ [⟨data, out.value, answers⟩]) out.value.renderer)
      ∧ ∀ (r' : Renderer Nat T) (data : FrameData) (s : Rehearsal), r'.frameCount + 1 < 2 ^ 64 →
        ∃ out, (renderFrame (Rehearsal.backend T) r' data).run s = .ok out := by
  have told := (recorded_history created history).told
  have hanswers := told.flatMap_answers
  refine ⟨told, ?_, ?_, ?_, fun earlier x later split => exists_overheard history split, ?_, ?_⟩
  · rw [countP_flatMap_isCompile told, hanswers, told.length_toList]
  · intro program hprogram x hx p projection hmem
    rw [hanswers] at hprogram
    rw [Option.mem_toList.mp hprogram] at told
    exact told.program_eq hx hmem
  · intro text htext x hx hfilled
    rw [hanswers] at htext
    rw [Option.mem_toList.mp htext] at told
    exact told.failure hx hfilled
  · intro ε σ B s data out ran
    obtain ⟨answers, heard, -⟩ := heard_of_run ran
    exact ⟨answers, history.frame ran heard⟩
  · intro r' data s hcount
    exact Rehearsal.exists_run_renderFrame hcount data s

/-- A malformed frame on a device that does not compile the program, and the
same frame once the device would. -/
theorem compiled_once_sample :
    ∃ (r₀ r : Renderer Nat Nat) (first second : FrameRecord Nat Nat),
      create ⟨2, .black, true⟩ = .ok r₀ ∧ History r₀ [first, second] r
        ∧ first.answers = [.error "bad"] ∧ second.answers = []
        ∧ second.run.outcome = .error (.shaderCompileFailure "sprite" "bad")
        ∧ second.run.calls = FrameShape.header r₀ := by
  let r₀ : Renderer Nat Nat := ⟨⟨2, .black, true⟩, .empty 2, .ofSource .sprite, false, 0⟩
  let data : FrameData := ⟨#[], -1, #[], 3, #[], 0⟩
  let deaf : Rehearsal := ⟨DrawContext.sampleContext.viewport, some "bad", none, 0⟩
  have created : create ⟨2, .black, true⟩ = .ok r₀ := rfl
  obtain ⟨heard, hheard, hfacts⟩ := exists_ok_of_map_toOption
    (x := (renderFrame (Rehearsal.backend Nat).answering r₀ data).run deaf)
    (f := fun out => (out.events, out.value.renderer.frameCount)) (b := ([.error "bad"], 1))
    (by decide +kernel)
  obtain ⟨out₁, ran₁⟩ := Rehearsal.exists_run_renderFrame (r := r₀) (by decide) data deaf
  obtain ⟨answers₁, heard₁, -⟩ := heard_of_run ran₁
  obtain rfl : heard = ⟨out₁.value, out₁.state, answers₁⟩ :=
    Except.ok.inj (hheard.symm.trans heard₁)
  obtain ⟨rfl, hcount⟩ : answers₁ = [.error "bad"] ∧ out₁.value.renderer.frameCount = 1 :=
    Prod.mk.inj hfacts
  obtain ⟨out₂, ran₂⟩ := Rehearsal.exists_run_renderFrame (r := out₁.value.renderer)
    (by rw [hcount]; decide) data { deaf with compileError := none }
  obtain ⟨answers₂, heard₂, -⟩ := heard_of_run ran₂
  have history := (History.start.frame ran₁ heard₁).frame ran₂ heard₂
  obtain ⟨told, -, -, hfailed, -, -⟩ := compiled_once _ r₀ created _ _ history
  obtain ⟨houtcome, hcalls⟩ := hfailed "bad" (by simp) ⟨data, out₂.value, answers₂⟩ (by simp) rfl
  have hall : [.error "bad"] ++ (answers₂ ++ []) = out₂.value.renderer.shader.answer?.toList :=
    told.flatMap_answers
  obtain rfl : answers₂ = [] := by
    cases hknown : out₂.value.renderer.shader.answer? with
    | none =>
        rw [hknown] at hall
        cases hall
    | some answer =>
        rw [hknown, List.append_nil] at hall
        exact (List.cons.inj hall).2
  exact ⟨r₀, _, _, _, created, history, rfl, rfl, houtcome, hcalls⟩

end Renderer

end SpriteRenderer

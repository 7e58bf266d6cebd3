import SpriteRenderer.Proofs.FrameCourse

/-!
# Both sides of a frame in one order

A frame reports what the renderer said, and the device what it did; neither
report tells which came first. `Backend.narrated` is the same device with one
report of both, where all that a command makes the device do stands right
behind the command.

Nothing else changes: whatever can be rendered can be narrated, and each side
of the narration is the report it was taken from (`exists_narrated`).
-/

namespace SpriteRenderer

variable {ε σ P T : Type}

/-- Something said to a device, or done by it. -/
inductive Narration (ε P T : Type) where
  | said (call : Call P T)
  | told (event : ε)

namespace Narration

def said? : Narration ε P T → Option (Call P T)
  | .said call => some call
  | .told _ => none

def told? : Narration ε P T → Option ε
  | .said _ => none
  | .told event => some event

theorem filterMap_said?_told (events : List ε) :
    (events.map (told (P := P) (T := T))).filterMap said? = [] := by
  simp [said?]

theorem filterMap_told?_told (events : List ε) :
    (events.map (told (P := P) (T := T))).filterMap told? = events := by
  rw [List.filterMap_map]
  exact List.filterMap_some

theorem mem_filterMap_said? {notes : List (Narration ε P T)} {call : Call P T} :
    call ∈ notes.filterMap said? ↔ .said call ∈ notes := by
  rw [List.mem_filterMap]
  constructor
  · rintro ⟨note, hnote, hcall⟩
    cases note with
    | said call' =>
        obtain rfl := Option.some.inj hcall
        exact hnote
    | told event => cases hcall
  · intro hnote
    exact ⟨_, hnote, rfl⟩

/-- A narration of the given calls and events. -/
structure Tells (notes : List (Narration ε P T)) (calls : List (Call P T)) (events : List ε) :
    Prop where
  said : notes.filterMap said? = calls
  told : notes.filterMap told? = events

theorem Tells.append {notes notes' : List (Narration ε P T)} {calls calls' : List (Call P T)}
    {events events' : List ε} (h : Tells notes calls events) (h' : Tells notes' calls' events') :
    Tells (notes ++ notes') (calls ++ calls') (events ++ events') :=
  ⟨by rw [List.filterMap_append, h.said, h'.said], by rw [List.filterMap_append, h.told, h'.told]⟩

theorem tells_cons (call : Call P T) (events : List ε) :
    Tells (.said call :: events.map .told) [call] events :=
  ⟨congrArg (call :: ·) (filterMap_said?_told events), filterMap_told?_told events⟩

theorem tells_concat (call : Call P T) (events : List ε) :
    Tells (events.map .told ++ [.said call]) [call] events :=
  ⟨by rw [List.filterMap_append, filterMap_said?_told]; rfl,
    by rw [List.filterMap_append, filterMap_told?_told]; exact List.append_nil _⟩

end Narration

open Narration (Tells)

/-! ## Narrated devices -/

namespace Backend

/-- The same device, whose events are both sides. An upload is said together
with its answer, so it stands last. -/
def narrated (B : Backend ε σ P T) : Backend (Narration ε P T) σ P T where
  viewport := B.viewport
  perform command := do
    Effect.emit (.said (.command command))
    (B.perform command).mapEvents .told
  compile source := do
    Effect.emit (.said (.compile source))
    (B.compile source).mapEvents .told
  upload vertices indices := do
    let answer ← (B.upload vertices indices).mapEvents .told
    Effect.emit (.said (.upload vertices indices answer.isOk))
    return answer

variable {B : Backend ε σ P T} {s : σ}

theorem run_perform_narrated_eq_ok_iff {command : Command P T}
    {out : Ran (Narration ε P T) σ Unit} :
    (B.narrated.perform command).run s = .ok out ↔
      ∃ inner, (B.perform command).run s = .ok inner
        ∧ out = ⟨(), inner.state, .said (.command command) :: inner.events.map .told⟩ := by
  simp only [narrated, Effect.run_bind, Effect.run_emit, Effect.run_mapEvents]
  cases (B.perform command).run s with
  | error e => simp
  | ok inner => simp [eq_comm]

theorem run_perform_narrated {command : Command P T} {out : Ran ε σ Unit}
    (h : (B.perform command).run s = .ok out) :
    (B.narrated.perform command).run s
      = .ok ⟨(), out.state, .said (.command command) :: out.events.map .told⟩ :=
  run_perform_narrated_eq_ok_iff.mpr ⟨out, h, rfl⟩

theorem run_compile_narrated {source : ShaderSource} {out : Ran ε σ (Except String P)}
    (h : (B.compile source).run s = .ok out) :
    (B.narrated.compile source).run s
      = .ok ⟨out.value, out.state, .said (.compile source) :: out.events.map .told⟩ := by
  simp [narrated, Effect.run_mapEvents, h]

theorem run_upload_narrated {vertices : List Vertex} {indices : List UInt16}
    {out : Ran ε σ (Except RenderError Unit)} (h : (B.upload vertices indices).run s = .ok out) :
    (B.narrated.upload vertices indices).run s
      = .ok ⟨out.value, out.state,
          out.events.map .told ++ [.said (.upload vertices indices out.value.isOk)]⟩ := by
  simp [narrated, Effect.run_mapEvents, h]

theorem exists_performAll_narrated {commands : List (Command P T)} {out : Ran ε σ Unit}
    (h : (B.performAll commands).run s = .ok out) :
    ∃ notes, (B.narrated.performAll commands).run s = .ok ⟨(), out.state, notes⟩
      ∧ Tells notes (commands.map .command) out.events := by
  induction commands generalizing s out with
  | nil =>
      obtain rfl := Except.ok.inj h
      exact ⟨[], rfl, rfl, rfl⟩
  | cons command rest ih =>
      obtain ⟨mid, last, hcommand, hrest, rfl⟩ := Effect.run_bind_eq_ok_iff.mp h
      obtain ⟨notes, hnotes, tells⟩ := ih hrest
      exact ⟨_, by simp [performAll, run_perform_narrated hcommand, hnotes],
        (Narration.tells_cons (.command command) mid.events).append tells⟩

theorem exists_ensureCompiled_narrated {c : ShaderCache P}
    {out : Ran ε σ (ShaderCache.Lookup P T)} (h : (c.ensureCompiled B).run s = .ok out) :
    ∃ notes, (c.ensureCompiled B.narrated).run s = .ok ⟨out.value, out.state, notes⟩
      ∧ Tells notes out.value.calls out.events := by
  rcases ShaderCache.run_ensureCompiled_eq_ok_iff.mp h with ⟨outcome, hknown, rfl⟩
    | ⟨hunknown, asked, hasked, rfl⟩
  · exact ⟨[], ShaderCache.run_ensureCompiled_eq_ok_iff.mpr (Or.inl ⟨outcome, hknown, rfl⟩),
      rfl, rfl⟩
  · exact ⟨_, ShaderCache.run_ensureCompiled_eq_ok_iff.mpr
      (Or.inr ⟨hunknown, _, run_compile_narrated hasked, rfl⟩), Narration.tells_cons _ _⟩

end Backend

/-! ## Narrated frames -/

namespace Renderer

variable {B : Backend ε σ P T} {r : Renderer P T} {frame : FrameData} {s : σ}

theorem exists_prepare_narrated {viewport : Viewport} {lookup : ShaderCache.Lookup P T} {s₁ : σ}
    {e₁ : List ε} (h : (prepare B r).run s = .ok ⟨(viewport, lookup), s₁, e₁⟩) :
    ∃ notes, (prepare B.narrated r).run s = .ok ⟨(viewport, lookup), s₁, notes⟩
      ∧ Tells notes (r.opening ++ lookup.calls) e₁ := by
  obtain ⟨mid, last, hheader, hlookup, hout⟩ := run_prepare_eq_ok_iff.mp h
  obtain ⟨⟨rfl, rfl⟩, rfl, rfl⟩ : (viewport = B.viewport mid.state ∧ lookup = last.value)
      ∧ s₁ = last.state ∧ e₁ = mid.events ++ last.events := by simpa using hout
  obtain ⟨notes, hnotes, tells⟩ := Backend.exists_performAll_narrated hheader
  obtain ⟨notes', hnotes', tells'⟩ := Backend.exists_ensureCompiled_narrated hlookup
  exact ⟨_, run_prepare_eq_ok_iff.mpr ⟨_, _, hnotes, hnotes', rfl⟩, tells.append tells'⟩

/-- Every frame can be narrated. -/
theorem exists_narrated {out : Ran ε σ (FrameRun P T)}
    (h : (renderFrame B r frame).run s = .ok out) :
    ∃ notes, (renderFrame B.narrated r frame).run s = .ok ⟨out.value, out.state, notes⟩
      ∧ Tells notes out.value.calls out.events := by
  have hcount := frameCount_of_run h
  cases frameCourse_of_run h with
  | empty nothing cleared =>
      obtain ⟨notes, hnotes, tells⟩ := Backend.exists_performAll_narrated cleared
      exact ⟨notes, run_of_frameCourse hcount (.empty nothing hnotes), tells⟩
  | unprogrammed something prepared failed =>
      obtain ⟨notes, hnotes, tells⟩ := exists_prepare_narrated prepared
      exact ⟨notes, run_of_frameCourse hcount (.unprogrammed something hnotes failed), tells⟩
  | rejected something prepared programmed bad =>
      obtain ⟨notes, hnotes, tells⟩ := exists_prepare_narrated prepared
      exact ⟨notes, run_of_frameCourse hcount (.rejected something hnotes programmed bad), tells⟩
  | refused something prepared programmed accepted uploaded released =>
      obtain ⟨notes, hnotes, tells⟩ := exists_prepare_narrated prepared
      refine ⟨_, run_of_frameCourse hcount (.refused something hnotes programmed accepted
        (Backend.run_upload_narrated uploaded) (Backend.run_perform_narrated released)), ?_⟩
      dsimp only
      rw [← List.append_assoc r.opening]
      exact tells.append ((Narration.tells_concat _ _).append (Narration.tells_cons _ _))
  | drawn something prepared programmed accepted uploaded executed performed =>
      obtain ⟨notes, hnotes, tells⟩ := exists_prepare_narrated prepared
      obtain ⟨notes', hnotes', tells'⟩ := Backend.exists_performAll_narrated performed
      refine ⟨_, run_of_frameCourse hcount (.drawn something hnotes programmed accepted
        (Backend.run_upload_narrated uploaded) executed hnotes'), ?_⟩
      dsimp only
      rw [← List.append_assoc r.opening]
      exact tells.append ((Narration.tells_concat _ _).append tells')

end Renderer

end SpriteRenderer

import SpriteRenderer.Proofs.LiveHandles

/-!
# The warning about a missing texture

A renderer warns of a batch without its texture once in its life, and the flag
that remembers it lives across frames while textures come and go. What is said
then is a matter of two lists: what is missing, in order, and what is said of
it. `firstOnly` is the rule between them, and `firstOnly_append` lets it be
followed piece by piece.

It is followed from batch to batch (`unbound_steps`), so through a frame
(`warned_of_run`), and from request to request (`latched_life`). The batches
that count are those that a frame draws (`drawnBatches`), one for each draw that
reaches the device (`draws_of_run`).
-/

namespace SpriteRenderer

variable {ε σ P T : Type}

/-! ## Speaking of the first only -/

section FirstOnly

variable {α : Type}

/-- What is said of `xs`: the first, unless something was `told` before. -/
def firstOnly (told : Bool) (xs : List α) : List α := if told then [] else xs.take 1

def toldAfter (told : Bool) (xs : List α) : Bool := told || !xs.isEmpty

@[simp] theorem firstOnly_nil (told : Bool) : firstOnly told ([] : List α) = [] := by
  cases told <;> rfl

@[simp] theorem toldAfter_nil (told : Bool) : toldAfter told ([] : List α) = told :=
  Bool.or_false told

theorem firstOnly_append (told : Bool) (xs ys : List α) :
    firstOnly told (xs ++ ys) = firstOnly told xs ++ firstOnly (toldAfter told xs) ys := by
  cases told with
  | true => rfl
  | false => cases xs <;> simp [firstOnly, toldAfter]

theorem toldAfter_append (told : Bool) (xs ys : List α) :
    toldAfter told (xs ++ ys) = toldAfter (toldAfter told xs) ys := by
  cases told with
  | true => rfl
  | false => cases xs <;> rfl

theorem toldAfter_firstOnly (told : Bool) (xs : List α) :
    toldAfter told (firstOnly told xs) = toldAfter told xs := by
  cases told with
  | true => rfl
  | false => cases xs <;> rfl

end FirstOnly

/-! ## Batches -/

/-- The handle that a texture id names, if there is no texture behind it. -/
def TexturePool.missing? (p : TexturePool T) (id : Int32) : Option TextureHandle :=
  if 0 ≤ id.toInt ∧ p.isBound ⟨id.toInt.toNat⟩ = false then some ⟨id.toInt.toNat⟩ else none

theorem TexturePool.missing?_ne_none_iff {p : TexturePool T} {id : Int32} :
    ¬ p.missing? id = none ↔ 0 ≤ id.toInt ∧ p.get? ⟨id.toInt.toNat⟩ = none := by
  unfold missing? isBound
  split
  · next h =>
      rw [Option.isSome_eq_false_iff, Option.isNone_iff_eq_none] at h
      exact iff_of_true (Option.some_ne_none _) h
  · next h =>
      rw [Option.isSome_eq_false_iff, Option.isNone_iff_eq_none] at h
      exact iff_of_false (not_not.mpr rfl) h

/-- Handles without a texture, one for each batch in want of it. -/
def TexturePool.missing (p : TexturePool T) (batches : List Batch) : List TextureHandle :=
  batches.filterMap fun b => p.missing? b.textureId

@[simp] theorem TexturePool.missing_nil (p : TexturePool T) : p.missing [] = [] := rfl

namespace DrawContext

/-- The handles that are missing where batches are drawn. -/
def missing (c : DrawContext T) (batches : List Batch) : List TextureHandle :=
  c.textures.missing (batches.filter c.shows)

theorem missing_cons (c : DrawContext T) (b : Batch) (rest : List Batch) :
    c.missing (b :: rest) = c.missing [b] ++ c.missing rest := by
  rw [missing, TexturePool.missing, ← List.singleton_append, List.filter_append,
    List.filterMap_append]
  rfl

theorem warning_resolve (c : DrawContext T) (cursor : Cursor) (id : Int32) :
    warning cursor (c.resolve id) = firstOnly cursor.warned (c.textures.missing? id).toList := by
  have hneg : id < 0 ↔ id.toInt < 0 := Int32.lt_iff_toInt_lt
  unfold resolve TexturePool.missing?
  by_cases h : id.toInt < 0
  · rw [if_pos (hneg.mpr h), if_neg (fun hmissing => by omega)]
    exact (firstOnly_nil _).symm
  · rw [if_neg (mt hneg.mp h)]
    dsimp only
    cases hbound : c.textures.isBound ⟨id.toInt.toNat⟩ with
    | true =>
        rw [if_pos rfl, if_neg (fun hmissing => Bool.noConfusion hmissing.2)]
        exact (firstOnly_nil _).symm
    | false =>
        rw [if_neg Bool.false_ne_true, if_pos ⟨Int.not_lt.mp h, rfl⟩]
        rfl

theorem unbound_step (c : DrawContext T) (cursor : Cursor) {b : Batch}
    (ht : 0 ≤ b.triangleCount.toInt) :
    (c.step cursor b).unbound = firstOnly cursor.warned (c.missing [b])
      ∧ (c.step cursor b).cursor.warned = toldAfter cursor.warned (c.missing [b]) := by
  cases hshows : c.shows b with
  | false =>
      have hnone : c.missing [b] = [] := by simp [missing, hshows]
      rw [step_of_not_shows ht hshows, hnone, firstOnly_nil, toldAfter_nil]
      exact ⟨rfl, rfl⟩
  | true =>
      have hone : c.missing [b] = (c.textures.missing? b.textureId).toList := by
        simp only [missing, TexturePool.missing, List.filter_cons_of_pos hshows, List.filter_nil]
        cases h : c.textures.missing? b.textureId <;> simp [h]
      rw [step_of_shows ht hshows, hone, ← toldAfter_firstOnly, ← warning_resolve]
      exact ⟨rfl, rfl⟩

theorem unbound_steps (c : DrawContext T) (cursor : Cursor) {batches : List Batch}
    (ht : ∀ b ∈ batches, 0 ≤ b.triangleCount.toInt) :
    (c.steps cursor batches).unbound = firstOnly cursor.warned (c.missing batches)
      ∧ (c.steps cursor batches).cursor.warned = toldAfter cursor.warned (c.missing batches) := by
  induction batches generalizing cursor with
  | nil => exact ⟨(firstOnly_nil _).symm, (toldAfter_nil _).symm⟩
  | cons b rest ih =>
      obtain ⟨hhere, hwarned⟩ := c.unbound_step cursor (ht b List.mem_cons_self)
      obtain ⟨hrest, hlast⟩ := ih (c.step cursor b).cursor
        fun b' hb' => ht b' (List.mem_cons_of_mem b hb')
      rw [hwarned] at hrest hlast
      refine ⟨?_, ?_⟩
      · rw [missing_cons, firstOnly_append, ← hhere, ← hrest]
        rfl
      · rw [missing_cons, toldAfter_append, ← hlast]
        rfl

end DrawContext

/-! ## Frames -/

namespace RenderNotice

def unbound? : RenderNotice → Option TextureHandle
  | .unboundTexture h => some h
  | _ => none

theorem unbound_shader (notices : List ShaderNotice) :
    (notices.map RenderNotice.shader).filterMap unbound? = [] := by
  simp [List.filterMap_eq_nil_iff, unbound?]

/-- The line that a missing texture is worth. -/
def unboundRecord (h : TextureHandle) : LogRecord :=
  ⟨.warn, "batch references unbound texture " ++ h.label ++ "; drawing without texture"⟩

/-- There are no other warnings. -/
theorem warn_records (notices : List RenderNotice) :
    (notices.map record).filter (fun l => l.level = .warn)
      = (notices.filterMap unbound?).map unboundRecord := by
  induction notices with
  | nil => rfl
  | cons notice rest ih =>
      rw [List.map_cons, List.filter_cons, ih]
      cases notice with
      | shader news => cases news <;> rfl
      | unboundTexture h => rfl
      | textureAllocated h live => rfl
      | textureDisposed h live => rfl
      | frameDrawn number stats => rfl

theorem unbound_unboundTexture (handles : List TextureHandle) :
    (handles.map RenderNotice.unboundTexture).filterMap unbound? = handles := by
  rw [List.filterMap_map]
  exact List.filterMap_some

end RenderNotice

namespace Renderer

/-- The batches that a frame draws, in order. A frame that fails draws none, and
neither does one that is empty. -/
def drawnBatches (B : Backend ε σ P T) (r : Renderer P T) (data : FrameData) (s : σ) :
    List Batch :=
  match (renderFrame B r data).run s, (B.performAll r.header).run s, data.decode with
  | .ok out, .ok cleared, .ok d =>
      if out.value.outcome.isOk && !data.isEmpty then
        d.batches.filter (r.drawContext (B.viewport cleared.state)).shows
      else []
  | _, _, _ => []

variable {B : Backend ε σ P T} {r : Renderer P T} {frame : FrameData} {s : σ}
  {out : Ran ε σ (FrameRun P T)}

theorem drawnBatches_eq_nil (ran : (renderFrame B r frame).run s = .ok out)
    (idle : frame.isEmpty = true ∨ out.value.outcome.isOk = false) :
    drawnBatches B r frame s = [] := by
  have hnot : (out.value.outcome.isOk && !frame.isEmpty) = false := by
    rcases idle with h | h
    · simp [h]
    · simp [h]
  unfold drawnBatches
  rw [ran]
  split
  · next h _ _ =>
      obtain rfl := Except.ok.inj h
      rw [hnot]
      rfl
  · rfl

theorem drawnBatches_of_prepared (ran : (renderFrame B r frame).run s = .ok out)
    (something : frame.isEmpty = false) (rendered : out.value.outcome.isOk = true)
    {viewport : Viewport} {lookup : ShaderCache.Lookup P T} {s₁ : σ} {e₁ : List ε}
    (prepared : (prepare B r).run s = .ok ⟨(viewport, lookup), s₁, e₁⟩) {d : DecodedFrame}
    (accepted : r.accept frame = .ok d) :
    drawnBatches B r frame s = d.batches.filter (r.drawContext viewport).shows := by
  obtain ⟨mid, last, hheader, -, hout⟩ := run_prepare_eq_ok_iff.mp prepared
  obtain rfl : viewport = B.viewport mid.state := congrArg (fun x => x.value.1) hout
  obtain ⟨hsized, hrecords, -⟩ := accept_eq_ok_iff.mp accepted
  have hdecode : frame.decode = .ok d := FrameData.decode_eq_ok_iff.mpr ⟨hsized, hrecords⟩
  simp only [drawnBatches, ran, hheader, hdecode, rendered, something]
  rfl

/-- A frame draws nothing and says nothing of textures, or it is drawn and tells
what its execution found. -/
theorem drawn_cases (ran : (renderFrame B r frame).run s = .ok out) :
    (drawnBatches B r frame s = []
      ∧ out.value.notices.filterMap RenderNotice.unbound? = []
      ∧ out.value.renderer.warnedUnbound = r.warnedUnbound
      ∧ out.value.calls.filterMap drawing? = [])
    ∨ ∃ viewport d done, r.accept frame = .ok d
      ∧ (r.drawContext viewport).execute r.warnedUnbound d.batches = .ok done
      ∧ drawnBatches B r frame s = d.batches.filter (r.drawContext viewport).shows
      ∧ out.value.notices.filterMap RenderNotice.unbound? = done.unbound
      ∧ out.value.renderer.warnedUnbound = done.warned
      ∧ out.value.calls.filterMap drawing? = done.commands := by
  cases frameCourse_of_run ran with
  | empty nothing cleared =>
      exact Or.inl ⟨drawnBatches_eq_nil ran (Or.inl nothing), rfl, rfl, rfl⟩
  | unprogrammed something prepared failed =>
      have hcalls := drawing_of_prepared prepared []
      rw [List.append_nil] at hcalls
      exact Or.inl ⟨drawnBatches_eq_nil ran (Or.inr rfl), RenderNotice.unbound_shader _, rfl,
        hcalls⟩
  | rejected something prepared programmed bad =>
      have hcalls := drawing_of_prepared prepared []
      rw [List.append_nil] at hcalls
      exact Or.inl ⟨drawnBatches_eq_nil ran (Or.inr rfl), RenderNotice.unbound_shader _, rfl,
        hcalls⟩
  | refused something prepared programmed accepted uploaded released =>
      exact Or.inl ⟨drawnBatches_eq_nil ran (Or.inr rfl), RenderNotice.unbound_shader _, rfl,
        drawing_of_prepared prepared _⟩
  | @drawn viewport _ _ _ _ _ _ _ _ d done something prepared programmed accepted uploaded
      executed performed =>
      refine Or.inr ⟨viewport, d, done, accepted, executed,
        drawnBatches_of_prepared ran something rfl prepared accepted, ?_, rfl,
        drawing_of_drawn prepared _ _ _ _⟩
      rw [List.filterMap_append, RenderNotice.unbound_shader, List.filterMap_append,
        RenderNotice.unbound_unboundTexture]
      exact List.append_nil _

/-- What a frame says of missing textures, and what the renderer remembers of
it. -/
theorem warned_of_run (ran : (renderFrame B r frame).run s = .ok out) :
    out.value.notices.filterMap RenderNotice.unbound?
        = firstOnly r.warnedUnbound (r.textures.missing (drawnBatches B r frame s))
      ∧ out.value.renderer.warnedUnbound
        = toldAfter r.warnedUnbound (r.textures.missing (drawnBatches B r frame s)) := by
  rcases drawn_cases ran with ⟨hnone, hsaid, hkept, -⟩
    | ⟨viewport, d, done, accepted, executed, hdrawn, hsaid, hkept, -⟩
  · rw [hnone, TexturePool.missing_nil, firstOnly_nil, toldAfter_nil]
    exact ⟨hsaid, hkept⟩
  · have ht : ∀ b ∈ d.batches, 0 ≤ b.triangleCount.toInt :=
      fun b hb => (fits_of_accept accepted b hb).triangles
    obtain ⟨-, rfl⟩ := (DrawContext.execute_eq_ok_iff _ _ ht).mp executed
    rw [hsaid, hkept, hdrawn]
    exact DrawContext.unbound_steps (r.drawContext viewport) _ ht

/-- The batches that a frame draws are the draws that its device gets. -/
theorem draws_of_run (ran : (renderFrame B r frame).run s = .ok out) :
    ∃ viewport, (∀ b ∈ drawnBatches B r frame s, (r.drawContext viewport).shows b = true)
      ∧ ∀ m : DrawState T, m.draws (out.value.calls.filterMap drawing?)
        = (drawnBatches B r frame s).map ((r.drawContext viewport).drawn m.clip) := by
  rcases drawn_cases ran with ⟨hnone, -, -, hcalls⟩
    | ⟨viewport, d, done, accepted, executed, hdrawn, -, -, hcalls⟩
  · rw [hnone, hcalls]
    exact ⟨⟨.zero, .zero⟩, fun _ hmem => absurd hmem List.not_mem_nil, fun _ => rfl⟩
  · rw [hdrawn, hcalls]
    exact ⟨viewport, fun _ hmem => (List.mem_filter.mp hmem).2,
      DrawContext.draws_execute (fun b hb => (fits_of_accept accepted b hb).triangles) executed⟩

/-! ## Lives -/

/-- One request in the life of a renderer: what reached the device and the log,
the textures there were, and the batches that were drawn. -/
structure Episode (P T : Type) where
  calls : List (Call P T)
  notices : List RenderNotice
  textures : TexturePool T
  drawn : List Batch

namespace Episode

/-- The handles that were missing, one for each batch that was drawn without. -/
def missing (x : Episode P T) : List TextureHandle := x.textures.missing x.drawn

/-- The warnings in the log. -/
def warnings (x : Episode P T) : List LogRecord :=
  (x.notices.map RenderNotice.record).filter fun l => l.level = .warn

theorem warnings_eq (x : Episode P T) :
    x.warnings = (x.notices.filterMap RenderNotice.unbound?).map RenderNotice.unboundRecord :=
  RenderNotice.warn_records x.notices

theorem missing_ne_nil_iff {x : Episode P T} :
    x.missing ≠ [] ↔ ∃ b ∈ x.drawn,
      0 ≤ b.textureId.toInt ∧ x.textures.get? ⟨b.textureId.toInt.toNat⟩ = none := by
  simp only [missing, TexturePool.missing, ne_eq, List.filterMap_eq_nil_iff, not_forall,
    exists_prop, TexturePool.missing?_ne_none_iff]

end Episode

/-- What a request for a texture leaves of the log and the renderer. -/
def settled {α : Type} (r : Renderer P T) :
    Except RenderError (α × Renderer P T × RenderNotice) → List RenderNotice × Renderer P T
  | .error _ => ([], r)
  | .ok (_, r', notice) => ([notice], r')

/-- A renderer that answers requests one after the other. Frames may go to any
device in any state, and each request may be refused. -/
inductive Life (r₀ : Renderer P T) : List (Episode P T) → Renderer P T → Prop
  | start : Life r₀ [] r₀
  | frame {ε σ : Type} {B : Backend ε σ P T} {s : σ} {data : FrameData} {r : Renderer P T}
      {log : List (Episode P T)} {out : Ran ε σ (FrameRun P T)} (before : Life r₀ log r)
      (ran : (renderFrame B r data).run s = .ok out) :
      Life r₀
        (log ++ [⟨out.value.calls, out.value.notices, r.textures, drawnBatches B r data s⟩])
        out.value.renderer
  | allocate {r : Renderer P T} {log : List (Episode P T)} (before : Life r₀ log r)
      (resource : T) :
      Life r₀ (log ++ [⟨[], (r.settled (r.allocateTexture resource)).1, r.textures, []⟩])
        (r.settled (r.allocateTexture resource)).2
  | dispose {r : Renderer P T} {log : List (Episode P T)} (before : Life r₀ log r)
      (handle : TextureHandle) :
      Life r₀ (log ++ [⟨[], (r.settled (r.disposeTexture handle)).1, r.textures, []⟩])
        (r.settled (r.disposeTexture handle)).2

/-- What is left by a request that neither speaks of missing textures nor changes
what is remembered of them. -/
structure Quiet (r : Renderer P T) (left : List RenderNotice × Renderer P T) : Prop where
  said : left.1.filterMap RenderNotice.unbound? = []
  remembered : left.2.warnedUnbound = r.warnedUnbound
  config : left.2.config = r.config

theorem quiet_allocate (r : Renderer P T) (resource : T) :
    r.Quiet (r.settled (r.allocateTexture resource)) := by
  unfold allocateTexture
  cases r.textures.insert resource <;> exact ⟨rfl, rfl, rfl⟩

theorem quiet_dispose (r : Renderer P T) (handle : TextureHandle) :
    r.Quiet (r.settled (r.disposeTexture handle)) := by
  unfold disposeTexture
  cases r.textures.dispose handle <;> exact ⟨rfl, rfl, rfl⟩

/-- What the log says and the renderer remembers, by what was missing. -/
structure Latched (told : Bool) (log : List (Episode P T)) (r : Renderer P T) : Prop where
  remembered : r.warnedUnbound = toldAfter told (log.flatMap Episode.missing)
  each : ∀ before x after, log = before ++ x :: after →
    x.warnings = (firstOnly (toldAfter told (before.flatMap Episode.missing)) x.missing).map
      RenderNotice.unboundRecord
  all : log.flatMap Episode.warnings
    = (firstOnly told (log.flatMap Episode.missing)).map RenderNotice.unboundRecord

theorem Latched.append {told : Bool} {log : List (Episode P T)} {r r' : Renderer P T}
    {x : Episode P T} (latched : Latched told log r)
    (said : x.notices.filterMap RenderNotice.unbound? = firstOnly r.warnedUnbound x.missing)
    (kept : r'.warnedUnbound = toldAfter r.warnedUnbound x.missing) :
    Latched told (log ++ [x]) r' := by
  obtain ⟨remembered, each, all⟩ := latched
  rw [remembered] at said kept
  have hwarnings : x.warnings
      = (firstOnly (toldAfter told (log.flatMap Episode.missing)) x.missing).map
        RenderNotice.unboundRecord := by
    rw [x.warnings_eq, said]
  refine ⟨?_, ?_, ?_⟩
  · rw [kept, List.flatMap_append, List.flatMap_singleton, toldAfter_append]
  · intro before y after hsplit
    rcases snoc_eq_append_cons hsplit with ⟨rfl, rfl, rfl⟩ | ⟨between, rfl, hlog⟩
    · exact hwarnings
    · exact each before y between hlog
  · rw [List.flatMap_append, List.flatMap_append, List.flatMap_singleton, List.flatMap_singleton,
      firstOnly_append, List.map_append, all, hwarnings]

theorem Latched.append_quiet {told : Bool} {log : List (Episode P T)} {r : Renderer P T}
    {left : List RenderNotice × Renderer P T} (latched : Latched told log r)
    (quiet : r.Quiet left) : Latched told (log ++ [⟨[], left.1, r.textures, []⟩]) left.2 := by
  refine latched.append ?_ ?_
  · rw [quiet.said]
    exact (firstOnly_nil _).symm
  · rw [quiet.remembered]
    exact (toldAfter_nil _).symm

theorem latched_life {r₀ r : Renderer P T} {log : List (Episode P T)} (life : Life r₀ log r) :
    Latched r₀.warnedUnbound log r := by
  induction life with
  | start =>
      refine ⟨(toldAfter_nil _).symm, ?_, ?_⟩
      · intro before x after hsplit
        cases before <;> cases hsplit
      · rw [List.flatMap_nil, List.flatMap_nil, firstOnly_nil]
        rfl
  | frame before ran ih =>
      obtain ⟨said, kept⟩ := warned_of_run ran
      exact ih.append said kept
  | allocate before resource ih => exact ih.append_quiet (quiet_allocate _ resource)
  | dispose before handle ih => exact ih.append_quiet (quiet_dispose _ handle)

theorem config_life {r₀ r : Renderer P T} {log : List (Episode P T)} (life : Life r₀ log r) :
    r.config = r₀.config := by
  induction life with
  | start => rfl
  | frame before ran ih => exact (config_of_run ran).trans ih
  | allocate before resource ih => exact (quiet_allocate _ resource).config.trans ih
  | dispose before handle ih => exact (quiet_dispose _ handle).config.trans ih

/-- The batches listed as drawn are those that the device was asked to draw, each
under what its id reached at that time. -/
structure Episode.Seen (applyScissor : Bool) (x : Episode P T) (c : DrawContext T) : Prop where
  textures : c.textures = x.textures
  applyScissor : c.applyScissor = applyScissor
  shown : ∀ b ∈ x.drawn, c.shows b = true
  draws : ∀ m : DrawState T,
    m.draws (x.calls.filterMap drawing?) = x.drawn.map (c.drawn m.clip)

theorem seen_life {r₀ r : Renderer P T} {log : List (Episode P T)} (life : Life r₀ log r) :
    ∀ x ∈ log, ∃ c, x.Seen r₀.config.applyScissor c := by
  have hquiet : ∀ (notices : List RenderNotice) (textures : TexturePool T),
      ∃ c, Episode.Seen r₀.config.applyScissor (⟨[], notices, textures, []⟩ : Episode P T) c := by
    intro notices textures
    exact ⟨⟨textures, ⟨.zero, .zero⟩, r₀.config.applyScissor⟩, rfl, rfl,
      fun _ hmem => absurd hmem List.not_mem_nil, fun _ => rfl⟩
  induction life with
  | start => exact fun _ hmem => absurd hmem List.not_mem_nil
  | @frame _ _ B s data r log out before ran ih =>
      obtain ⟨viewport, hshown, hdraws⟩ := draws_of_run ran
      rw [List.forall_mem_append, List.forall_mem_singleton]
      exact ⟨ih, r.drawContext viewport, rfl,
        congrArg RendererConfig.applyScissor (config_life before), hshown, hdraws⟩
  | allocate before resource ih =>
      rw [List.forall_mem_append, List.forall_mem_singleton]
      exact ⟨ih, hquiet _ _⟩
  | dispose before handle ih =>
      rw [List.forall_mem_append, List.forall_mem_singleton]
      exact ⟨ih, hquiet _ _⟩

/-- What a request left behind is what a renderer `r` did: nothing was said to a
device, or the device of a frame heard just these calls. -/
structure Episode.Overheard (r : Renderer P T) (x : Episode P T) : Prop where
  textures : x.textures = r.textures
  heard : x.calls = [] ∧ x.drawn = []
    ∨ ∃ data run, r.Overheard data run x.calls ∧ x.notices = run.notices

theorem overheard_life {r₀ r : Renderer P T} {log before after : List (Episode P T)}
    {x : Episode P T} (life : Life r₀ log r) (split : log = before ++ x :: after) :
    ∃ r', Life r₀ before r' ∧ x.Overheard r' := by
  induction life generalizing after with
  | start => simp at split
  | frame earlier ran ih =>
      rcases snoc_eq_append_cons split with ⟨rfl, rfl, rfl⟩ | ⟨between, rfl, hlog⟩
      · exact ⟨_, earlier, rfl, Or.inr ⟨_, _, overheard_of_run ran, rfl⟩⟩
      · exact ih hlog
  | allocate earlier resource ih =>
      rcases snoc_eq_append_cons split with ⟨rfl, rfl, rfl⟩ | ⟨between, rfl, hlog⟩
      · exact ⟨_, earlier, rfl, Or.inl ⟨rfl, rfl⟩⟩
      · exact ih hlog
  | dispose earlier handle ih =>
      rcases snoc_eq_append_cons split with ⟨rfl, rfl, rfl⟩ | ⟨between, rfl, hlog⟩
      · exact ⟨_, earlier, rfl, Or.inl ⟨rfl, rfl⟩⟩
      · exact ih hlog

/-- **A missing texture is reported once, for the first batch that is drawn
without it.** Take any life of a new renderer. Its log holds at most one warning,
which is there if and only if some batch was drawn whose id named a handle
without a texture at that time. It names the handle of the first such batch, and
stands in the log of the request that drew it; every other request is silent,
and one that draws no such batch leaves the warning to later ones. What is drawn
is read off the calls that the devices heard. -/
theorem unbound_warning_once {config : RendererConfig} {r₀ r : Renderer P T}
    {log : List (Episode P T)} (created : create config = .ok r₀) (life : Life r₀ log r) :
    log.flatMap Episode.warnings
        = ((log.flatMap Episode.missing).take 1).map RenderNotice.unboundRecord
      ∧ (log.flatMap Episode.warnings).length ≤ 1
      ∧ (log.flatMap Episode.warnings ≠ [] ↔ ∃ x ∈ log, ∃ b ∈ x.drawn,
          0 ≤ b.textureId.toInt ∧ x.textures.get? ⟨b.textureId.toInt.toNat⟩ = none)
      ∧ (∀ before x after, log = before ++ x :: after →
          ((∀ y ∈ before, y.missing = []) →
            x.warnings = (x.missing.take 1).map RenderNotice.unboundRecord)
          ∧ ((∃ y ∈ before, y.missing ≠ []) → x.warnings = []))
      ∧ (∀ x ∈ log, ∃ c, x.Seen config.applyScissor c)
      ∧ ∀ before x after, log = before ++ x :: after →
          ∃ r', Life r₀ before r' ∧ x.Overheard r' := by
  obtain ⟨-, each, all⟩ := latched_life life
  have hfresh : r₀.warnedUnbound = false := by
    obtain ⟨textures, -, hpure⟩ := except_bind_eq_ok_iff.mp created
    obtain rfl := Except.ok.inj hpure
    rfl
  rw [hfresh] at each all
  replace all : log.flatMap Episode.warnings
      = ((log.flatMap Episode.missing).take 1).map RenderNotice.unboundRecord := all
  refine ⟨all, ?_, ?_, ?_, ?_, fun before x after split => overheard_life life split⟩
  · rw [all, List.length_map]
    exact List.length_take_le 1 _
  · rw [all]
    simp only [ne_eq, List.map_eq_nil_iff, List.take_eq_nil_iff, one_ne_zero, false_or,
      List.flatMap_eq_nil_iff, not_forall, exists_prop]
    exact exists_congr fun x => and_congr_right fun _ => Episode.missing_ne_nil_iff
  · intro before x after hsplit
    have hx := each before x after hsplit
    refine ⟨?_, ?_⟩
    · intro hnone
      rw [List.flatMap_eq_nil_iff.mpr hnone] at hx
      exact hx
    · rintro ⟨y, hy, hsome⟩
      have htold : toldAfter false (before.flatMap Episode.missing) = true := by
        cases hmissing : before.flatMap Episode.missing with
        | nil => exact absurd (List.flatMap_eq_nil_iff.mp hmissing y hy) hsome
        | cons h rest => rfl
      rw [htold] at hx
      exact hx
  · rw [← config_of_create created]
    exact seen_life life

/-- A pool of two textures, one of them disposed of, and two frames that draw
with both: the first warns of the one that is gone, the second does not. -/
theorem unbound_warning_once_sample :
    ∃ (r₀ r : Renderer Nat Nat) (log : List (Episode Nat Nat)),
      create ⟨2, .black, true⟩ = .ok r₀ ∧ Life r₀ log r ∧ log.length = 5
        ∧ log.flatMap Episode.warnings
          = [⟨.warn, "batch references unbound texture #0; drawing without texture"⟩] := by
  let r₀ : Renderer Nat Nat := ⟨⟨2, .black, true⟩, .empty 2, .ofSource .sprite, false, 0⟩
  let r₁ := (r₀.settled (r₀.allocateTexture 7)).2
  let r₂ := (r₁.settled (r₁.allocateTexture 8)).2
  let r₃ := (r₂.settled (r₂.disposeTexture ⟨0⟩)).2
  let device : Rehearsal := ⟨DrawContext.sampleContext.viewport, none, none, 0⟩
  let frame := DrawContext.sampleFrame.pack
  have created : create ⟨2, .black, true⟩ = .ok r₀ := rfl
  obtain ⟨log, life, hlength, hnone⟩ : ∃ log, Life r₀ log r₃ ∧ log.length = 3
      ∧ log.flatMap Episode.missing = [] :=
    ⟨_, ((Life.start.allocate 7).allocate 8).dispose ⟨0⟩, rfl, rfl⟩
  obtain ⟨out, ran, hout⟩ := exists_ok_of_map_toOption
    (x := (renderFrame (Rehearsal.backend Nat) r₃ frame).run device)
    (f := fun out : Ran Empty Rehearsal (FrameRun Nat Nat) =>
      (out.value.renderer.frameCount, out.value.notices.filterMap RenderNotice.unbound?))
    (b := (1, [⟨0⟩])) (by decide +kernel)
  obtain ⟨hcount, hsaid⟩ := Prod.mk.inj hout
  obtain ⟨out', ran'⟩ := Rehearsal.exists_run_renderFrame (by rw [hcount]; decide) frame device
  have life' := (life.frame ran).frame ran'
  refine ⟨r₀, _, _, created, life', by simp [hlength], ?_⟩
  rw [(warned_of_run ran).1] at hsaid
  -- What the first frame says is the first that is missing in it.
  obtain ⟨rest, hmissing⟩ : ∃ rest,
      r₃.textures.missing (drawnBatches (Rehearsal.backend Nat) r₃ frame device) = ⟨0⟩ :: rest := by
    cases hlist : r₃.textures.missing (drawnBatches (Rehearsal.backend Nat) r₃ frame device) with
    | nil =>
        rw [hlist] at hsaid
        cases hsaid
    | cons h rest =>
        rw [hlist] at hsaid
        obtain rfl : h = ⟨0⟩ := List.singleton_inj.mp hsaid
        exact ⟨rest, rfl⟩
  rw [(unbound_warning_once created life').1, List.flatMap_append, List.flatMap_append, hnone,
    List.nil_append, List.flatMap_singleton, Episode.missing, hmissing]
  rfl

end Renderer

end SpriteRenderer

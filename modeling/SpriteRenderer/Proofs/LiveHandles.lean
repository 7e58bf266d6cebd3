import SpriteRenderer.Proofs.CompileOnce
import SpriteRenderer.Proofs.Decoding
import SpriteRenderer.Proofs.PoolInvariant
import SpriteRenderer.Proofs.QuadsDrawn

/-!
# Live handles and the ids of batches

A batch refers to a texture by a signed word, and any negative word means "no
texture". A pool may have up to `2 ^ 32 - 1` slots, so half of its handles have
a batch id that reads as no texture at all. What an id reaches is
`textureOf_batchId`; that it never gets a frame rejected is
`accept_ne_outOfRange`.

The rest carries this to frames: a rendered frame makes one draw for each batch
that has triangles (`draws_of_rendered`), and the size of the pool is the
configured one all along (`capacity_of_history`).
-/

namespace SpriteRenderer

variable {ε σ P T : Type}

/-! ## What an id reaches -/

namespace TextureHandle

/-- The id of a handle is its number, taken from `2 ^ 31` upwards as negative. -/
theorem toInt_batchId {h : TextureHandle} (hlt : h.index < 2 ^ 32) :
    h.batchId.toInt = if h.index < 2 ^ 31 then (h.index : Int) else h.index - 2 ^ 32 := by
  have hsize : (Int32.size : Int) = 2 ^ 32 := rfl
  rw [batchId, Int32.toInt_ofNat', Int.bmod_def, hsize]
  split <;> split <;> omega

end TextureHandle

theorem DrawContext.textureOf_batchId (c : DrawContext T) {h : TextureHandle}
    (hlt : h.index < 2 ^ 32) :
    c.textureOf h.batchId = if h.index < 2 ^ 31 then c.textures.get? h else none := by
  rw [textureOf, h.toInt_batchId hlt]
  by_cases hsmall : h.index < 2 ^ 31
  · rw [if_pos hsmall, if_pos hsmall, if_neg (by omega)]
    rfl
  · rw [if_neg hsmall, if_neg hsmall, if_pos (by omega)]

/-! ## Why a frame is rejected -/

theorem FrameData.exists_defect_of_decode {frame : FrameData} {e : RenderError}
    (h : frame.decode = .error e) : ∃ defect, e = .invalidBuffer defect := by
  obtain ⟨check, -, rfl⟩ := decode_eq_error_iff.mp h
  cases check with
  | sign block | room block => exact ⟨_, rfl⟩

theorem DecodedFrame.le_of_validate {d : DecodedFrame} {capacity : Nat} {id limit : Int}
    (hcapacity : capacity ≤ TexturePool.maxCapacity)
    (h : d.validate capacity = .error (.outOfRange .batchTextureId id limit)) :
    (capacity : Int) ≤ id := by
  rcases (validate_eq_error_iff hcapacity).mp h with ⟨i, -, he⟩ | ⟨-, b, -, check, first, he⟩
  · cases he
  · cases check with
    | start | triangles | range => cases he
    | texture =>
        obtain ⟨-, -, -, hfails, -⟩ := first
        obtain ⟨-, rfl, -⟩ := RenderError.outOfRange.inj he
        exact hfails

namespace Renderer

variable {B : Backend ε σ P T} {r : Renderer P T} {frame : FrameData} {s : σ}

/-- A frame that is rejected for a texture id has one beyond the pool. -/
theorem le_of_accept (hcapacity : r.textures.capacity ≤ TexturePool.maxCapacity) {id limit : Int}
    (h : r.accept frame = .error (.outOfRange .batchTextureId id limit)) :
    (r.textures.capacity : Int) ≤ id := by
  rcases except_bind_eq_error_iff.mp h with hdecode | ⟨d, -, hvalidate⟩
  · obtain ⟨defect, hdefect⟩ := FrameData.exists_defect_of_decode hdecode
    cases hdefect
  · rcases except_bind_eq_error_iff.mp hvalidate with hvalid | ⟨_, -, hpure⟩
    · exact DecodedFrame.le_of_validate hcapacity hvalid
    · cases hpure

theorem accept_ne_outOfRange (hcapacity : r.textures.capacity ≤ TexturePool.maxCapacity)
    {h : TextureHandle} (hlt : h.index < r.textures.capacity) (frame : FrameData) (limit : Int) :
    r.accept frame ≠ .error (.outOfRange .batchTextureId h.batchId.toInt limit) := by
  intro hrejected
  have hmax : TexturePool.maxCapacity = 2 ^ 32 - 1 := rfl
  have hbeyond := le_of_accept hcapacity hrejected
  rw [h.toInt_batchId (by omega)] at hbeyond
  split at hbeyond <;> omega

/-! ## The pool along a history -/

theorem insert_of_allocate {resource : T} {handle : TextureHandle} {r' : Renderer P T}
    {notice : RenderNotice} (h : r.allocateTexture resource = .ok (handle, r', notice)) :
    r.textures.insert resource = .ok (handle, r'.textures) := by
  obtain ⟨⟨handle', textures⟩, hinsert, hpure⟩ := except_bind_eq_ok_iff.mp h
  obtain ⟨rfl, rfl, -⟩ : handle' = handle ∧ { r with textures := textures } = r' ∧ _ := by
    simpa using Except.ok.inj hpure
  exact hinsert

theorem dispose_of_dispose {resource : Option T} {handle : TextureHandle} {r' : Renderer P T}
    {notice : RenderNotice} (h : r.disposeTexture handle = .ok (resource, r', notice)) :
    r.textures.dispose handle = .ok (resource, r'.textures) := by
  obtain ⟨⟨resource', textures⟩, hdispose, hpure⟩ := except_bind_eq_ok_iff.mp h
  obtain ⟨rfl, rfl, -⟩ : resource' = resource ∧ { r with textures := textures } = r' ∧ _ := by
    simpa using Except.ok.inj hpure
  exact hdispose

theorem textures_of_run {out : Ran ε σ (FrameRun P T)}
    (h : (renderFrame B r frame).run s = .ok out) : out.value.renderer.textures = r.textures := by
  cases frameCourse_of_run h <;> rfl

theorem config_of_create {config : RendererConfig} (created : create config = .ok r) :
    r.config = config := by
  obtain ⟨textures, -, hpure⟩ := except_bind_eq_ok_iff.mp created
  obtain rfl := Except.ok.inj hpure
  rfl

theorem capacity_of_history {config : RendererConfig} {r₀ : Renderer P T}
    {log : List (FrameRecord P T)} (created : create config = .ok r₀)
    (history : History r₀ log r) :
    r.textures.capacity = config.textureCapacity
      ∧ config.textureCapacity ≤ TexturePool.maxCapacity := by
  induction history with
  | start =>
      obtain ⟨textures, htextures, hpure⟩ := except_bind_eq_ok_iff.mp created
      obtain rfl := Except.ok.inj hpure
      obtain ⟨hle, rfl⟩ := TexturePool.create_eq_ok_iff.mp htextures
      exact ⟨TexturePool.capacity_empty _, hle⟩
  | frame before ran heard ih => rwa [textures_of_run ran]
  | allocate before allocated ih =>
      rwa [TexturePool.capacity_take (insert_of_allocate allocated)]
  | dispose before disposed ih =>
      obtain ⟨-, hpool⟩ := TexturePool.dispose_eq_ok_iff.mp (dispose_of_dispose disposed)
      rw [hpool]
      exact ⟨(TexturePool.capacity_setSlot _ _ _).trans ih.1, ih.2⟩

/-! ## The draws of a frame -/

/-- The drawing command of a call, if it has one. -/
def drawing? : Call P T → Option (DrawCommand T)
  | .command (.drawing c) => some c
  | _ => none

theorem mem_filterMap_drawing? {calls : List (Call P T)} {c : DrawCommand T} :
    c ∈ calls.filterMap drawing? ↔ .command (.drawing c) ∈ calls := by
  rw [List.mem_filterMap]
  constructor
  · rintro ⟨call, hcall, hc⟩
    unfold drawing? at hc
    split at hc
    · obtain rfl := Option.some.inj hc
      exact hcall
    · cases hc
  · intro hcall
    exact ⟨_, hcall, rfl⟩

theorem drawing_of_body (r : Renderer P T) (program : P) (viewport : Viewport)
    (drawing : List (DrawCommand T)) :
    (r.body program viewport drawing).filterMap (fun c => drawing? (.command c)) = drawing := by
  unfold body
  split <;> simp [List.filterMap_map, drawing?]

theorem drawing_of_prepared {viewport : Viewport} {lookup : ShaderCache.Lookup P T} {s₁ : σ}
    {e₁ : List ε} (prepared : (prepare B r).run s = .ok ⟨(viewport, lookup), s₁, e₁⟩)
    (calls : List (Call P T)) :
    (r.opening ++ (lookup.calls ++ calls)).filterMap drawing? = calls.filterMap drawing? := by
  have hopening : r.opening.filterMap drawing? = [] := rfl
  have hlookup : lookup.calls.filterMap drawing? = [] := by
    obtain ⟨answer, -, -, ⟨-, hcalls⟩ | ⟨-, hcalls, -⟩⟩ := lookup_cases prepared
    · rw [hcalls]
      rfl
    · rw [hcalls]
      rfl
  rw [List.filterMap_append, List.filterMap_append, hopening, hlookup]
  rfl

theorem drawing_of_drawn {viewport : Viewport} {lookup : ShaderCache.Lookup P T} {s₁ : σ}
    {e₁ : List ε} (prepared : (prepare B r).run s = .ok ⟨(viewport, lookup), s₁, e₁⟩)
    (vertices : List Vertex) (indices : List UInt16) (program : P)
    (drawing : List (DrawCommand T)) :
    (r.opening ++ (lookup.calls ++ Call.upload vertices indices true
        :: (r.body program viewport drawing).map .command)).filterMap drawing? = drawing := by
  rw [drawing_of_prepared prepared, List.filterMap_cons_none rfl, List.filterMap_map]
  exact drawing_of_body r program viewport drawing

/-- A rendered frame that holds something was accepted, and its commands make
one draw for each batch that shows. -/
theorem draws_of_rendered {out : Ran ε σ (FrameRun P T)} {stats : FrameStats}
    (something : frame.isEmpty = false) (ran : (renderFrame B r frame).run s = .ok out)
    (rendered : out.value.outcome = .ok stats) :
    ∃ d viewport, r.accept frame = .ok d
      ∧ ∀ m : DrawState T, m.draws (out.value.calls.filterMap drawing?)
        = (d.batches.filter (r.drawContext viewport).shows).map
          ((r.drawContext viewport).drawn m.clip) := by
  cases frameCourse_of_run ran with
  | empty nothing cleared =>
      rw [something] at nothing
      cases nothing
  | unprogrammed _ prepared failed => cases rendered
  | rejected _ prepared programmed bad => cases rendered
  | refused _ prepared programmed accepted uploaded released => cases rendered
  | @drawn viewport _ _ _ _ _ _ _ _ d done _ prepared programmed accepted uploaded executed
      performed =>
      refine ⟨d, viewport, accepted, ?_⟩
      intro m
      dsimp only
      rw [drawing_of_drawn prepared]
      exact DrawContext.draws_execute (fun b hb => (fits_of_accept accepted b hb).triangles)
        executed m

/-- The draw of a batch: its range, and `texture` in force if the batch has
the given id. -/
structure DrawsBatch (id : Int32) (texture : Option T) (b : Batch) (x : Drawn T) : Prop where
  first : x.first = b.indexStart.toUInt32
  count : x.count = .ofInt (3 * b.triangleCount.toInt)
  texture : b.textureId = id → x.under.texture = some texture

/-- Without scissors the batches with triangles are drawn, each under what its
id reaches. -/
theorem forall₂_drawsBatch {out : Ran ε σ (FrameRun P T)} {stats : FrameStats}
    (unclipped : r.config.applyScissor = false) (something : frame.isEmpty = false)
    (ran : (renderFrame B r frame).run s = .ok out) (rendered : out.value.outcome = .ok stats)
    {h : TextureHandle} (hlt : h.index < 2 ^ 32) :
    ∃ d, r.accept frame = .ok d ∧ ∀ m : DrawState T, List.Forall₂
      (DrawsBatch h.batchId (if h.index < 2 ^ 31 then r.textures.get? h else none))
      (d.batches.filter fun b => decide (0 < b.triangleCount.toInt))
      (m.draws (out.value.calls.filterMap drawing?)) := by
  obtain ⟨d, viewport, accepted, hdraws⟩ := draws_of_rendered something ran rendered
  refine ⟨d, accepted, ?_⟩
  intro m
  have hshows : (r.drawContext viewport).shows = fun b => decide (0 < b.triangleCount.toInt) := by
    funext b
    simp [DrawContext.shows, drawContext, unclipped]
  rw [hdraws, hshows, List.forall₂_map_right_iff, List.forall₂_same]
  intro b hb
  refine ⟨rfl, rfl, ?_⟩
  intro hid
  rw [DrawContext.drawn, hid, DrawContext.textureOf_batchId _ hlt]
  rfl

/-- **A live handle reaches its texture while its number fits the signed id.**
Take any history of a new renderer, and a handle that holds a resource at its
end. No frame is rejected for the batch id of this handle. A rendered frame that
holds something makes one draw for each batch that has triangles, in order
(scissors left out); a batch with this id is drawn with the resource if the
handle is below `2 ^ 31`, and without a texture if it is not. The draws are
read off the calls that the device hears. So all handles of a pool of at most
`2 ^ 31` slots reach their textures. -/
theorem live_handle_drawn {config : RendererConfig} {r₀ : Renderer P T}
    {log : List (FrameRecord P T)} (created : create config = .ok r₀)
    (history : History r₀ log r) {h : TextureHandle} {resource : T}
    (held : r.textures.get? h = some resource) :
    (config.textureCapacity ≤ 2 ^ 31 → h.index < 2 ^ 31)
      ∧ (∀ frame limit,
        r.accept frame ≠ .error (.outOfRange .batchTextureId h.batchId.toInt limit))
      ∧ ∀ {ε σ : Type} (B : Backend ε σ P T) (s : σ) (frame : FrameData)
        (out : Ran ε σ (FrameRun P T)) (stats : FrameStats),
        config.applyScissor = false → frame.isEmpty = false →
        (renderFrame B r frame).run s = .ok out → out.value.outcome = .ok stats →
        (renderFrame B.observed r frame).run s = .ok ⟨out.value, out.state, out.value.calls⟩
          ∧ ∃ d, r.accept frame = .ok d ∧ ∀ m : DrawState T, List.Forall₂
            (DrawsBatch h.batchId (if h.index < 2 ^ 31 then some resource else none))
            (d.batches.filter fun b => decide (0 < b.triangleCount.toInt))
            (m.draws (out.value.calls.filterMap drawing?)) := by
  obtain ⟨hcapacity, hmax⟩ := capacity_of_history created history
  have hword : TexturePool.maxCapacity = 2 ^ 32 - 1 := rfl
  have hlt := TexturePool.lt_capacity_of_get? held
  refine ⟨fun hsmall => by omega, accept_ne_outOfRange (by omega) hlt, ?_⟩
  intro ε σ B s frame out stats hscissor something ran rendered
  have unclipped : r.config.applyScissor = false := by
    rw [(recorded_history created history).config, config_of_create created]
    exact hscissor
  rw [← held]
  exact ⟨run_renderFrame_observed ran,
    forall₂_drawsBatch unclipped something ran rendered (by omega)⟩

end Renderer

/-! ## The first handle of a pool -/

theorem TexturePool.exists_insert_empty (n : Nat) (resource : T) :
    ∃ p, (empty (n + 1)).insert resource = .ok (⟨n⟩, p) ∧ p.capacity = n + 1
      ∧ p.get? ⟨n⟩ = some resource := by
  refine ⟨_, take_eq_ok_iff.mpr ⟨(List.range n).reverse, ?_, rfl⟩, ?_, ?_⟩
  · simp [empty, List.range_succ]
  · simp [empty, capacity, setSlot]
  · simp [empty, get?, setSlot]

namespace Renderer

variable {r : Renderer P T}

/-- One triangle with the texture of a handle. -/
def triangle (h : TextureHandle) : DecodedFrame where
  vertices := List.replicate 3 ⟨.zero, .zero, .zero, .zero, ⟨0⟩, ⟨0⟩⟩
  indices := [0, 1, 2]
  batches := [⟨0, 1, h.batchId, .normal, 0, 0, .zero⟩]

theorem accept_triangle (hcapacity : r.textures.capacity ≤ TexturePool.maxCapacity)
    {h : TextureHandle} (hlt : h.index < r.textures.capacity) :
    r.accept (triangle h).pack = .ok (triangle h) := by
  have countable : (triangle h).Countable := by
    constructor <;> simp [triangle]
  have canonical : ∀ b ∈ (triangle h).batches, b.blendMode.Canonical := by
    intro b hb
    obtain rfl := List.mem_singleton.mp hb
    rfl
  have hmax : TexturePool.maxCapacity = 2 ^ 32 - 1 := rfl
  refine accept_eq_ok_iff.mpr ⟨DecodedFrame.wellSized_pack countable,
    (DecodedFrame.records_pack countable canonical).symm,
    DecodedFrame.validate_eq_ok_iff.mpr ⟨?_, ?_⟩⟩
  · show ∀ i ∈ ([0, 1, 2] : List UInt16), i.toNat < 3
    simp
  intro b hb
  obtain rfl := List.mem_singleton.mp hb
  refine ⟨Int.le_refl 0, Int.zero_le_ofNat 1, Int.le_refl 3, ?_⟩
  rw [asSigned64_eq hcapacity, h.toInt_batchId (by omega)]
  split <;> omega

/-- What a new renderer comes to when its first texture is stored, and a
triangle is drawn with it. -/
theorem exists_first_triangle (config : RendererConfig) {n : Nat} (resource : T)
    (hcapacity : config.textureCapacity = n + 1) (hmax : n + 1 ≤ TexturePool.maxCapacity) :
    ∃ (r₀ r : Renderer Nat T) (notice : RenderNotice), create config = .ok r₀
      ∧ r₀.allocateTexture resource = .ok (⟨n⟩, r, notice)
      ∧ r.config = config ∧ r.textures.get? ⟨n⟩ = some resource
      ∧ r.accept (triangle ⟨n⟩).pack = .ok (triangle ⟨n⟩)
      ∧ ∃ out stats, (renderFrame (Rehearsal.backend T) r (triangle ⟨n⟩).pack).run
          (.start (.ofSize 64 48)) = .ok out ∧ out.value.outcome = .ok stats := by
  obtain ⟨pool, hinsert, hsize, held⟩ := TexturePool.exists_insert_empty n resource
  let r : Renderer Nat T := ⟨config, pool, .ofSource .sprite, false, 0⟩
  have accepted : r.accept (triangle ⟨n⟩).pack = .ok (triangle ⟨n⟩) :=
    accept_triangle (by rw [hsize]; exact hmax) (by rw [hsize]; exact Nat.lt_succ_self n)
  obtain ⟨out, stats, ran, rendered⟩ := exists_run_of_obliges (Rehearsal.obliges T)
    (s := .start (.ofSize 64 48)) (r := r) ⟨rfl, rfl⟩ (Nat.one_lt_two_pow (by decide))
    (fun _ => nofun) accepted
  refine ⟨⟨config, .empty (n + 1), .ofSource .sprite, false, 0⟩, r,
    .textureAllocated ⟨n⟩ pool.live, ?_, ?_, rfl, held, accepted, out, stats, ran, rendered⟩
  · rw [create, hcapacity, TexturePool.create_eq_ok_iff.mpr ⟨hmax, rfl⟩]
    rfl
  · rw [allocateTexture, hinsert]
    rfl

/-- In a pool of two slots the first handle reaches its texture. -/
theorem live_handle_drawn_sample :
    ∃ (r₀ r : Renderer Nat Nat), create ⟨2, .black, false⟩ = .ok r₀ ∧ History r₀ [] r
      ∧ r.textures.get? ⟨1⟩ = some 7
      ∧ ∃ out, (renderFrame (Rehearsal.backend Nat) r (triangle ⟨1⟩).pack).run
          (.start (.ofSize 64 48)) = .ok out
        ∧ ∃ x, DrawState.unset.draws (out.value.calls.filterMap drawing?) = [x]
          ∧ x.under.texture = some (some 7) := by
  obtain ⟨r₀, r, notice, created, allocated, -, held, accepted, out, stats, ran, rendered⟩ :=
    exists_first_triangle ⟨2, .black, false⟩ (n := 1) 7 rfl (by decide)
  have history := History.start.allocate allocated
  refine ⟨r₀, r, created, history, held, out, ran, ?_⟩
  obtain ⟨-, d, hd, hdraws⟩ := (live_handle_drawn created history held).2.2
    (Rehearsal.backend Nat) _ _ out stats rfl rfl ran rendered
  obtain rfl : triangle ⟨1⟩ = d := Except.ok.inj (accepted.symm.trans hd)
  obtain ⟨x, rest, hx, hrest, heq⟩ := List.forall₂_cons_left_iff.mp (hdraws .unset)
  obtain rfl := List.forall₂_nil_left_iff.mp hrest
  exact ⟨x, heq, hx.texture rfl⟩

/-- In a pool of `2 ^ 31 + 1` slots the first handle does not: its texture is
stored, the triangle that refers to it is drawn, and drawn without a texture. -/
theorem live_handle_undrawn :
    ∃ (r₀ r : Renderer Nat Nat) (notice : RenderNotice),
      create ⟨2 ^ 31 + 1, .black, false⟩ = .ok r₀
        ∧ r₀.allocateTexture 7 = .ok (⟨2 ^ 31⟩, r, notice)
        ∧ r.textures.get? ⟨2 ^ 31⟩ = some 7
        ∧ r.accept (triangle ⟨2 ^ 31⟩).pack = .ok (triangle ⟨2 ^ 31⟩)
        ∧ ∃ out stats, (renderFrame (Rehearsal.backend Nat) r (triangle ⟨2 ^ 31⟩).pack).run
            (.start (.ofSize 64 48)) = .ok out ∧ out.value.outcome = .ok stats
          ∧ ∃ x, DrawState.unset.draws (out.value.calls.filterMap drawing?) = [x]
            ∧ x.under.texture = some none := by
  obtain ⟨r₀, r, notice, created, allocated, hconfig, held, accepted, out, stats, ran, rendered⟩ :=
    exists_first_triangle ⟨2 ^ 31 + 1, .black, false⟩ (n := 2 ^ 31) 7 rfl (by decide)
  refine ⟨r₀, r, notice, created, allocated, held, accepted, out, stats, ran, rendered, ?_⟩
  obtain ⟨d, hd, hdraws⟩ := forall₂_drawsBatch (h := ⟨2 ^ 31⟩) (by rw [hconfig]) rfl ran rendered
    (by decide)
  obtain rfl : triangle ⟨2 ^ 31⟩ = d := Except.ok.inj (accepted.symm.trans hd)
  obtain ⟨x, rest, hx, hrest, heq⟩ := List.forall₂_cons_left_iff.mp (hdraws .unset)
  obtain rfl := List.forall₂_nil_left_iff.mp hrest
  refine ⟨x, heq, ?_⟩
  rw [hx.texture rfl, if_neg (by decide)]

end Renderer

end SpriteRenderer

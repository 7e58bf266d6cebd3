import SpriteRenderer.Proofs.Recording

/-!
# Draws stay inside their geometry

Frames come from outside and may hold anything. `Draw.InBounds` is what a
device relies on when it is told to draw: the range lies inside the index
buffer, in whole triangles, and every index in it names a vertex. Every
draw of every frame satisfies it with respect to the geometry uploaded
last (`inBounds_of_calls`), because nothing is drawn before validation.

The second half is about faults. A frame has none of its own, since all of
its sums fit: `faults_of_run` traces each fault to a request that the
device itself faulted on. A sprite device never does
(`SpritePass.exists_run_frame`).
-/

namespace SpriteRenderer

variable {ε σ P T : Type}

/-! ## Draws -/

/-- A draw that reads vertices and nothing else. -/
structure Draw.InBounds (vertices : List Vertex) (indices : List UInt16) (first count : UInt32) :
    Prop where
  range : first.toNat + count.toNat ≤ indices.length
  addressable : first.toNat + count.toNat < 2 ^ 32
  positive : 0 < count.toNat
  triangles : 3 ∣ count.toNat
  reads : ∀ k, first.toNat ≤ k → k < first.toNat + count.toNat →
    ∃ i, indices[k]? = some i ∧ i.toNat < vertices.length

theorem mem_of_eq_append_cons {α : Type} {xs before after : List α} {x : α}
    (h : xs = before ++ x :: after) : x ∈ xs := by
  rw [h]
  exact List.mem_append_right _ List.mem_cons_self

theorem exists_split_of_not_mem {α : Type} {xs ys before after : List α} {x : α} (hx : x ∉ xs)
    (h : xs ++ ys = before ++ x :: after) :
    ∃ mid, before = xs ++ mid ∧ ys = mid ++ x :: after := by
  rcases List.append_eq_append_iff.mp h with ⟨mid, rfl, hys⟩ | ⟨rest, rfl, hrest⟩
  · exact ⟨mid, rfl, hys⟩
  · cases rest with
    | nil => exact ⟨[], by simp, by simpa using hrest.symm⟩
    | cons y rest =>
        obtain ⟨rfl, -⟩ := List.cons.inj hrest
        exact absurd (by simp) hx

namespace Renderer

variable {B : Backend ε σ P T} {r : Renderer P T} {frame : FrameData} {s : σ}

theorem inBounds_of_draw {d : DecodedFrame} {c : DrawContext T} {warned : Bool}
    {done : Execution T} (accepted : r.accept frame = .ok d)
    (executed : c.execute warned d.batches = .ok done) {first count : UInt32}
    (hmem : .draw first count ∈ done.commands) :
    Draw.InBounds d.vertices d.indices first count := by
  obtain ⟨hrange, hpositive, htriangles⟩ := range_of_draw accepted executed hmem
  have hlength := (length_lt_of_accept accepted).1
  obtain ⟨-, -, hvalid⟩ := accept_eq_ok_iff.mp accepted
  have hindices := (DecodedFrame.validate_eq_ok_iff.mp hvalid).1
  refine ⟨hrange, by omega, hpositive, htriangles, ?_⟩
  intro k _ hk
  have hlt : k < d.indices.length := by omega
  exact ⟨d.indices[k], List.getElem?_eq_getElem hlt, hindices _ (List.getElem_mem hlt)⟩

/-- The geometry on a device at some point of a list of calls: the last
upload that it took, if nothing was released since. -/
def Holds (calls : List (Call P T)) (vertices : List Vertex) (indices : List UInt16) : Prop :=
  ∃ earlier since, calls = earlier ++ .upload vertices indices true :: since
    ∧ .command .releaseGeometry ∉ since
    ∧ ∀ vertices' indices' accepted, .upload vertices' indices' accepted ∉ since

theorem lookup_calls_of_prepare {viewport : Viewport} {lookup : ShaderCache.Lookup P T} {s₁ : σ}
    {e₁ : List ε} (h : (prepare B r).run s = .ok ⟨(viewport, lookup), s₁, e₁⟩)
    (command : Command P T) : .command command ∉ lookup.calls := by
  obtain ⟨answer, -, -, ⟨-, hcalls⟩ | ⟨-, hcalls, -⟩⟩ := lookup_cases h
  · simp [hcalls]
  · simp [hcalls]

/-- In the body of a frame a draw comes before the release, and is one of
the drawing commands. -/
theorem split_of_body {program : P} {viewport : Viewport} {drawing : List (DrawCommand T)}
    {mid after : List (Call P T)} {first count : UInt32}
    (h : (r.body program viewport drawing).map .command
      = mid ++ .command (.drawing (.draw first count)) :: after) :
    .draw first count ∈ drawing ∧ .command .releaseGeometry ∉ mid
      ∧ ∀ vertices indices accepted, .upload vertices indices accepted ∉ mid := by
  have hdraw : .command (.drawing (.draw first count))
      ∈ (r.body program viewport drawing).map Call.command := mem_of_eq_append_cons h
  -- The release is the last call, so `mid` lies within all the others.
  have hfront : mid ++ (.command (.drawing (.draw first count)) :: after).dropLast
      = ([Command.useProgram program (.screen viewport)]
          ++ (if r.config.applyScissor then [Command.scissorTest true] else [])
          ++ drawing.map Command.drawing).map Call.command := by
    rw [← List.dropLast_append_of_ne_nil (List.cons_ne_nil _ _), ← h, body, List.map_append,
      List.map_singleton, List.dropLast_concat]
  have hsub : ∀ x ∈ mid, x ∈ _ := fun x hx => hfront ▸ List.mem_append_left _ hx
  refine ⟨?_, ?_, ?_⟩
  · cases hs : r.config.applyScissor <;> simpa [body, hs] using hdraw
  · intro hrelease
    have hmem := hsub _ hrelease
    cases hs : r.config.applyScissor <;> simp [hs] at hmem
  · intro vertices indices accepted hupload
    obtain ⟨command, -, hcommand⟩ := List.mem_map.mp (hsub _ hupload)
    cases hcommand

/-- Whatever a frame draws lies inside the geometry that the device holds. -/
theorem inBounds_of_calls {out : Ran ε σ (FrameRun P T)}
    (h : (renderFrame B r frame).run s = .ok out) {before after : List (Call P T)}
    {first count : UInt32}
    (hcalls : out.value.calls = before ++ .command (.drawing (.draw first count)) :: after) :
    ∃ vertices indices, Holds before vertices indices
      ∧ Draw.InBounds vertices indices first count := by
  have hopening : .command (.drawing (.draw first count)) ∉ r.opening := by
    simp [opening, header]
  cases frameCourse_of_run h with
  | empty _ _ => exact absurd (mem_of_eq_append_cons hcalls) hopening
  | unprogrammed _ prepared _ =>
      obtain ⟨mid, -, hlookup⟩ := exists_split_of_not_mem hopening hcalls
      exact absurd (mem_of_eq_append_cons hlookup) (lookup_calls_of_prepare prepared _)
  | rejected _ prepared _ _ =>
      obtain ⟨mid, -, hlookup⟩ := exists_split_of_not_mem hopening hcalls
      exact absurd (mem_of_eq_append_cons hlookup) (lookup_calls_of_prepare prepared _)
  | refused _ prepared _ _ _ _ =>
      obtain ⟨mid, -, hrest⟩ := exists_split_of_not_mem hopening hcalls
      obtain ⟨mid', -, htail⟩ :=
        exists_split_of_not_mem (lookup_calls_of_prepare prepared _) hrest
      simpa using mem_of_eq_append_cons htail
  | @drawn viewport lookup _ _ _ _ _ _ program d done _ prepared _ accepted _ executed _ =>
      obtain ⟨mid, rfl, hrest⟩ := exists_split_of_not_mem hopening hcalls
      obtain ⟨mid', rfl, htail⟩ :=
        exists_split_of_not_mem (lookup_calls_of_prepare prepared _) hrest
      have hupload : (.command (.drawing (.draw first count)) : Call P T)
          ∉ [.upload d.vertices d.indices true] := by
        simp
      obtain ⟨since, rfl, hbody⟩ := exists_split_of_not_mem hupload htail
      obtain ⟨hdraw, hrelease, huploads⟩ := split_of_body hbody
      exact ⟨d.vertices, d.indices, ⟨r.opening ++ lookup.calls, since, by simp, hrelease, huploads⟩,
        inBounds_of_draw accepted executed hdraw⟩

end Renderer

/-! ## Faults -/

/-- A request on which a device faults. -/
inductive Backend.Faults (B : Backend ε σ P T) (e : Fault) : Prop
  | perform {s : σ} {command : Command P T} (h : (B.perform command).run s = .error e)
  | compile {s : σ} {source : ShaderSource} (h : (B.compile source).run s = .error e)
  | upload {s : σ} {vertices : List Vertex} {indices : List UInt16}
      (h : (B.upload vertices indices).run s = .error e)

namespace Renderer

variable {B : Backend ε σ P T} {r : Renderer P T} {frame : FrameData} {s : σ} {e : Fault}

theorem faults_of_performAll {commands : List (Command P T)}
    (h : (B.performAll commands).run s = .error e) : B.Faults e := by
  induction commands generalizing s with
  | nil => cases h
  | cons command rest ih =>
      rcases Effect.run_bind_eq_error_iff.mp h with hcommand | ⟨mid, -, hrest⟩
      · exact .perform hcommand
      · exact ih hrest

theorem faults_of_prepare (h : (prepare B r).run s = .error e) : B.Faults e := by
  unfold prepare at h
  rcases Effect.run_bind_eq_error_iff.mp h with hheader | ⟨mid, -, hrest⟩
  · exact faults_of_performAll hheader
  · rcases Effect.run_bind_eq_error_iff.mp hrest with hget | ⟨now, -, hrest⟩
    · cases hget
    · rcases Effect.run_bind_eq_error_iff.mp hrest with hlookup | ⟨last, -, hpure⟩
      · unfold ShaderCache.ensureCompiled at hlookup
        split at hlookup
        · cases hlookup
        · rcases Effect.run_bind_eq_error_iff.mp hlookup with hcompile | ⟨asked, -, hpure⟩
          · exact .compile hcompile
          · cases hpure
      · cases hpure

/-- A frame has no faults but those of its device. -/
theorem faults_of_run (hcount : r.frameCount < 2 ^ 64 - 1)
    (h : (renderFrame B r frame).run s = .error e) : B.Faults e := by
  cases faultCourse_of_run h with
  | count full => omega
  | clear cleared => exact faults_of_performAll cleared
  | prepare _ prepared => exact faults_of_prepare prepared
  | upload _ _ _ uploaded => exact .upload uploaded
  | release _ _ _ _ released => exact .perform released
  | draw _ _ _ _ _ _ performed => exact faults_of_performAll performed

/-- The triangle counter of an accepted frame, after any number of its
batches. -/
theorem triangles_lt_of_accept {d : DecodedFrame} (accepted : r.accept frame = .ok d)
    (c : DrawContext T) (warned : Bool) (n : Nat) :
    (c.steps (.start warned d.batches.length) (d.batches.take n)).cursor.stats.triangles < 2 ^ 64 := by
  have fits := fits_of_accept accepted
  have hbatches := (length_lt_of_accept accepted).2
  have htaken : (d.batches.take n).length ≤ d.batches.length := List.length_take_le' n d.batches
  rw [DrawContext.triangles_steps c _ fun b hb => (fits b (List.mem_of_mem_take hb)).triangles]
  calc 0 + c.triangleTotal (d.batches.take n)
      ≤ 0 + (d.batches.take n).length * 2 ^ 31 :=
        Nat.add_le_add_left (DrawContext.triangleTotal_le c _) 0
    _ < 2 ^ 64 := by omega

end Renderer

/-- A sprite device takes every frame. -/
theorem SpritePass.exists_run_frame {r : DeviceRenderer} (hcount : r.frameCount < 2 ^ 64 - 1)
    (frame : FrameData) (device : Device) (target : RenderTarget) :
    ∃ out, (Renderer.renderFrame backend r frame).run (start device target) = .ok out := by
  cases hrun : (Renderer.renderFrame backend r frame).run (start device target) with
  | ok out => exact ⟨out, rfl⟩
  | error e =>
      exfalso
      cases Renderer.faultCourse_of_run hrun with
      | count full => omega
      | clear failed =>
          rw [run_header] at failed
          cases failed
      | prepare _ failed =>
          obtain ⟨lookup, d₁, events₁, hprepare, -⟩ := exists_run_prepare r device target
          rw [hprepare] at failed
          cases failed
      | upload something prepared accepted failed =>
          obtain ⟨-, d₁, events₁, rfl, -⟩ := of_run_prepare prepared
          obtain ⟨hvertices, hindices⟩ := Renderer.ne_nil_of_accept accepted something
          obtain ⟨d₂, g, events₂, hupload, -⟩ :=
            exists_run_upload hvertices hindices (cleared d₁ target)
          rw [hupload] at failed
          cases failed
      | release something prepared accepted uploaded _ =>
          obtain ⟨-, d₁, events₁, rfl, -⟩ := of_run_prepare prepared
          obtain ⟨hvertices, hindices⟩ := Renderer.ne_nil_of_accept accepted something
          obtain ⟨d₂, g, events₂, hupload, -⟩ :=
            exists_run_upload hvertices hindices (cleared d₁ target)
          rw [hupload] at uploaded
          cases uploaded
      | @draw _ _ _ s₂ _ e₂ p _ _ something prepared _ accepted uploaded executed failed =>
          obtain ⟨-, d₁, events₁, rfl, -⟩ := of_run_prepare prepared
          obtain ⟨hvertices, hindices⟩ := Renderer.ne_nil_of_accept accepted something
          obtain ⟨d₂, g, events₂, hupload, -, -, -, hv, hi⟩ :=
            exists_run_upload hvertices hindices (cleared d₁ target)
          rw [hupload] at uploaded
          obtain ⟨rfl, -⟩ : _ = s₂ ∧ events₂ = e₂ := by simpa using uploaded
          obtain ⟨s₃, uniform, globals, pass, events₃, hbody, -⟩ :=
            exists_run_body_of_accept accepted executed p
              (s := { cleared d₁ target with device := d₂, geometry := some g }) rfl hv hi rfl
          rw [hbody] at failed
          cases failed

namespace Renderer

/-- **No frame reads outside its geometry, and none faults.** As long as the
frame counter has room, whatever the renderer, the frame and the device:

* the calls that are reported are those that the device hears;
* a draw that was issued is inside the geometry on the device at that point,
  and so is every draw that a device would be issued if it did not fault;
* the 32 bits of its numbers lose nothing;
* no count of triangles, and no range of a batch, accepted or not, leaves its
  64 bits;
* a fault is one of the device's own, and a sprite device has none. -/
theorem draws_in_bounds (B : Backend ε σ P T) (r : Renderer P T) (frame : FrameData) (s : σ)
    (hcount : r.frameCount < 2 ^ 64 - 1) :
    (∀ out, (renderFrame B r frame).run s = .ok out →
        (renderFrame B.observed r frame).run s = .ok ⟨out.value, out.state, out.value.calls⟩
          ∧ ∀ before after first count,
            out.value.calls = before ++ .command (.drawing (.draw first count)) :: after →
            ∃ vertices indices, Holds before vertices indices
              ∧ Draw.InBounds vertices indices first count)
      ∧ (∀ d, r.accept frame = .ok d → ∀ viewport done,
        (r.drawContext viewport).execute r.warnedUnbound d.batches = .ok done →
        ∀ first count, .draw first count ∈ done.commands →
          Draw.InBounds d.vertices d.indices first count)
      ∧ (∀ d, r.accept frame = .ok d → ∀ b ∈ d.batches,
        (b.indexStart.toUInt32.toNat : Int) = b.indexStart.toInt
          ∧ ((UInt32.ofInt b.indexLength).toNat : Int) = b.indexLength)
      ∧ (∀ d, r.accept frame = .ok d → ∀ (c : DrawContext T) (warned : Bool) (n : Nat),
        (c.steps (.start warned d.batches.length) (d.batches.take n)).cursor.stats.triangles
          < 2 ^ 64)
      ∧ (∀ b : Batch, (-2 ^ 63 ≤ b.indexLength ∧ b.indexLength < 2 ^ 63)
        ∧ -2 ^ 63 ≤ b.indexEnd ∧ b.indexEnd < 2 ^ 63)
      ∧ (∀ e, (renderFrame B r frame).run s = .error e → B.Faults e)
      ∧ ∀ (r' : DeviceRenderer) (device : Device) (target : RenderTarget),
        r'.frameCount < 2 ^ 64 - 1 →
        ∃ out, (renderFrame SpritePass.backend r' frame).run (SpritePass.start device target)
          = .ok out := by
  refine ⟨fun out h => ⟨run_renderFrame_observed h,
      fun before after first count hcalls => inBounds_of_calls h hcalls⟩,
    fun d accepted viewport done executed first count hmem =>
      inBounds_of_draw accepted executed hmem, ?_,
    fun d accepted c warned n => triangles_lt_of_accept accepted c warned n,
    fun b => ⟨b.indexLength_bounds, b.indexEnd_bounds⟩, fun e h => faults_of_run hcount h,
    fun r' device target hcount' => SpritePass.exists_run_frame hcount' frame device target⟩
  intro d accepted b hb
  have hlength := (length_lt_of_accept accepted).1
  rw [show b.indexLength = 3 * b.triangleCount.toInt from Int.mul_comm _ _]
  exact DrawContext.draw_toNat_of_fits (fits_of_accept accepted b hb) (by omega)

theorem draws_in_bounds_sample :
    sampleRenderer.frameCount < 2 ^ 64 - 1
      ∧ ∃ out, (renderFrame (Rehearsal.backend Nat) sampleRenderer
            DrawContext.sampleFrame.pack).run ⟨DrawContext.sampleContext.viewport, none, none, 0⟩
          = .ok out
        ∧ ∃ before after, out.value.calls
            = before ++ .command (.drawing (.draw 0 3)) :: after
          ∧ ∃ vertices indices, Holds before vertices indices
            ∧ Draw.InBounds vertices indices 0 3 := by
  have hcount : sampleRenderer.frameCount < 2 ^ 64 - 1 := by decide
  obtain ⟨out, hout, hdraw⟩ := exists_ok_of_map_toOption (b := true)
    (f := fun out : Ran Empty Rehearsal (FrameRun Nat Nat) =>
      decide (.command (.drawing (.draw 0 3)) ∈ out.value.calls))
    (x := (renderFrame (Rehearsal.backend Nat) sampleRenderer DrawContext.sampleFrame.pack).run
      ⟨DrawContext.sampleContext.viewport, none, none, 0⟩) (by decide +kernel)
  obtain ⟨before, after, hcalls⟩ := List.append_of_mem (of_decide_eq_true hdraw)
  have hbounds := (draws_in_bounds (Rehearsal.backend Nat) sampleRenderer
    DrawContext.sampleFrame.pack ⟨DrawContext.sampleContext.viewport, none, none, 0⟩ hcount).1
  exact ⟨hcount, out, hout, before, after, hcalls, (hbounds out hout).2 before after 0 3 hcalls⟩

end Renderer

end SpriteRenderer

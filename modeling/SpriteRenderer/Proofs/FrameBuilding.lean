import SpriteRenderer.Proofs.BatchTiling

/-!
# Building one frame after the other

A builder is kept from frame to frame. `Kept` is what is known of it after any
calls: the frame holds the pushes that were taken since the last `clear`
(`QuadFrame.Holds`), and no two neighbouring batches could be one. `Kept.serve`
is one call and `Kept.run` any number of them.

The packed block is written by `finish` alone and read by nobody else: what a
builder answers depends on its frame only (`run_congr`). So a frame may be
finished at any time, and again, without a trace.
-/

namespace SpriteRenderer

namespace FrameBuilder

/-! ## What was pushed -/

/-- The builder that calls lead to from an empty one. -/
def after (calls : List BuilderCall) : FrameBuilder := (run calls empty).2

/-- The pushes in a frame, after one more call was answered. -/
def note (pushes : List QuadPush) : BuilderCall → BuilderAnswer → List QuadPush
  | .push p, .pushed => pushes ++ [p]
  | .clear, _ => []
  | _, _ => pushes

def noteAll : List QuadPush → List BuilderCall → List BuilderAnswer → List QuadPush
  | pushes, call :: calls, answer :: answers => noteAll (note pushes call answer) calls answers
  | pushes, _, _ => pushes

/-- The pushes that were taken since the last `clear`. -/
def taken (calls : List BuilderCall) : List QuadPush := noteAll [] calls (run calls empty).1

section Run

variable (b : FrameBuilder) (call : BuilderCall) (calls : List BuilderCall)

theorem run_cons :
    run (call :: calls) b
      = ((b.serve call).1 :: (run calls (b.serve call).2).1, (run calls (b.serve call).2).2) := rfl

theorem finish_fst : b.finish.1 = b.frame.data := by
  rw [finish, foldl_append_fields, Array.empty_append]
  rfl

/-- A call is answered from the frame, and so the block left by an earlier
`finish` is never seen. -/
theorem serve_congr {b b' : FrameBuilder} (same : b.frame = b'.frame) (call : BuilderCall) :
    (b.serve call).1 = (b'.serve call).1 ∧ (b.serve call).2.frame = (b'.serve call).2.frame := by
  cases call with
  | push p =>
      simp only [serve, same]
      cases p.onto b'.frame with
      | ok frame => exact ⟨rfl, rfl⟩
      | error e => exact ⟨rfl, same⟩
  | clear => exact ⟨rfl, rfl⟩
  | finish =>
      refine ⟨congrArg BuilderAnswer.finished ?_, same⟩
      rw [finish_fst, finish_fst, same]

theorem run_congr {b b' : FrameBuilder} (same : b.frame = b'.frame) (calls : List BuilderCall) :
    (run calls b).1 = (run calls b').1 := by
  induction calls generalizing b b' with
  | nil => rfl
  | cons call rest ih =>
      obtain ⟨hanswer, hframe⟩ := serve_congr same call
      rw [run_cons, run_cons, hanswer, ih hframe]

theorem run_finish_cons :
    (run (.finish :: calls) b).1 = .finished b.frame.data :: (run calls b).1 := by
  have hframe : b.finish.2.frame = b.frame := rfl
  rw [run_cons, ← finish_fst, ← run_congr hframe]
  rfl

end Run

/-! ## What calls keep -/

/-- What is known of a builder whose frame took some pushes. -/
structure Kept (b : FrameBuilder) (pushes : List QuadPush) : Prop where
  holds : b.frame.Holds pushes
  merged : b.frame.batches.IsChain Batch.Differs

variable {b : FrameBuilder} {pushes : List QuadPush}

theorem kept_empty : empty.Kept [] := ⟨QuadFrame.holds_empty, .nil⟩

theorem isChain_extend {batches : List Batch} (merged : batches.IsChain Batch.Differs)
    (start : Nat) (textureId : Int32) (blend : BlendMode) :
    (QuadFrame.extend batches start textureId blend).IsChain Batch.Differs := by
  cases batches with
  | nil => exact .singleton _
  | cons last rest =>
      unfold QuadFrame.extend
      dsimp only
      split
      · cases rest with
        | nil => exact .singleton _
        | cons before earlier =>
            -- The batch that grows keeps all that tells it from its neighbour.
            obtain ⟨hdiffers, hrest⟩ := List.isChain_cons_cons.mp merged
            exact List.isChain_cons_cons.mpr ⟨hdiffers, hrest⟩
      · next hother =>
          exact List.isChain_cons_cons.mpr ⟨Batch.Differs.symm (not_and_or.mp hother), merged⟩

theorem Kept.onto (kept : b.Kept pushes) (p : QuadPush) :
    p.onto b.frame =
      if pushes.length = QuadFrame.maxQuads then .error .frameFull
      else .ok (b.frame.append p.quad p.textureId p.blend) := by
  have hroom := kept.holds.room
  rw [p.onto_eq, QuadFrame.push, kept.holds.quadCount]
  by_cases hfull : pushes.length = QuadFrame.maxQuads
  · rw [if_pos hfull, if_neg (by omega)]
  · rw [if_neg hfull, if_pos (by omega)]

theorem Kept.serve_push (kept : b.Kept pushes) (p : QuadPush) :
    b.serve (.push p) =
      if pushes.length = QuadFrame.maxQuads then (.refused .frameFull, b)
      else (.pushed, { b with frame := b.frame.append p.quad p.textureId p.blend }) := by
  by_cases hfull : pushes.length = QuadFrame.maxQuads
  · simp only [FrameBuilder.serve, kept.onto p, if_pos hfull]
  · simp only [FrameBuilder.serve, kept.onto p, if_neg hfull]

theorem Kept.serve (kept : b.Kept pushes) (call : BuilderCall) :
    (b.serve call).2.Kept (note pushes call (b.serve call).1) := by
  cases call with
  | push p =>
      by_cases hfull : pushes.length = QuadFrame.maxQuads
      · rw [kept.serve_push, if_pos hfull]
        exact kept
      · rw [kept.serve_push, if_neg hfull]
        have hok := kept.onto p
        rw [if_neg hfull] at hok
        exact ⟨kept.holds.push hok, isChain_extend kept.merged _ _ _⟩
  | clear => exact kept_empty
  | finish => exact ⟨kept.holds, kept.merged⟩

theorem Kept.run (kept : b.Kept pushes) (calls : List BuilderCall) :
    (run calls b).2.Kept (noteAll pushes calls (FrameBuilder.run calls b).1) := by
  induction calls generalizing b pushes with
  | nil => exact kept
  | cons call rest ih => exact ih (kept.serve call)

/-- Pushes are taken until the frame is full. -/
theorem Kept.length_replicate (kept : b.Kept pushes) (p : QuadPush) (n : Nat) :
    (noteAll pushes (List.replicate n (.push p))
        (FrameBuilder.run (List.replicate n (.push p)) b).1).length
      = min (pushes.length + n) QuadFrame.maxQuads := by
  induction n generalizing b pushes with
  | zero => exact (Nat.min_eq_left kept.holds.room).symm
  | succ n ih =>
      have hroom := kept.holds.room
      refine (ih (kept.serve (.push p))).trans ?_
      rw [kept.serve_push]
      by_cases hfull : pushes.length = QuadFrame.maxQuads
      · simp only [if_pos hfull, note]
        omega
      · simp only [if_neg hfull, note, List.length_append, List.length_singleton]
        omega

theorem kept_after (calls : List BuilderCall) : (after calls).Kept (taken calls) :=
  kept_empty.run calls

/-! ## What a builder has built -/

/-- A builder's blocks, told by the pushes they were made from. -/
structure Built (b : FrameBuilder) (pushes : List QuadPush) : Prop where
  room : pushes.length ≤ QuadFrame.maxQuads
  vertexSlots : b.frame.vertices.size = 24 * pushes.length
  indexEntries : b.frame.indices.size = 6 * pushes.length
  corners : b.frame.vertices.toList =
    pushes.flatMap fun p => p.quad.corners.flatMap fun v => v.toSlots.toList
  triangles : ∀ k < pushes.length,
    ((b.frame.indices.toList.drop (6 * k)).take 6).map UInt16.toNat
      = [4 * k, 4 * k + 1, 4 * k + 2, 4 * k, 4 * k + 2, 4 * k + 3]
  tiling : Tiling b.frame.batches.reverse pushes
  merged : b.frame.batches.reverse.IsChain Batch.Differs
  coarsest : ∀ batches, Tiling batches pushes → b.frame.batches.length ≤ batches.length

theorem Kept.built (kept : b.Kept pushes) : b.Built pushes where
  room := kept.holds.room
  vertexSlots := by
    rw [kept.holds.size_vertices, Nat.mul_assoc, Nat.mul_comm]
    rfl
  indexEntries := by
    rw [kept.holds.size_indices, Nat.mul_comm]
  corners := by
    rw [kept.holds.vertices, quadVertices, List.flatMap_assoc]
  triangles := by
    intro k hk
    have hroom := kept.holds.room
    rw [kept.holds.indices, take_drop_quadIndices hk, toNat_triangles (by omega)]
    simp only [Nat.mul_comm]
  tiling := kept.holds.batches.tiling kept.holds.room
  merged := by
    rw [List.isChain_reverse]
    exact kept.merged.imp fun _ _ => Batch.Differs.symm
  coarsest := by
    intro batches tiling
    have hle := kept.holds.batches.length_le_of_isChain kept.merged tiling.covers
    rwa [List.length_reverse] at hle

theorem Kept.counts (kept : b.Kept pushes) :
    b.frame.data.vertexCount.toInt = 4 * pushes.length
      ∧ b.frame.data.indexCount.toInt = 6 * pushes.length
      ∧ b.frame.data.batchCount.toInt = b.frame.batches.length := by
  have countable := countable_quadRecords kept.holds.batches kept.holds.room
  have sized := DecodedFrame.wellSized_pack countable
  have hvertices := DecodedFrame.vertexCount_pack countable
  have hindices := DecodedFrame.indexCount_pack countable
  have hbatches := DecodedFrame.batchCount_pack countable
  rw [← kept.holds.data_eq_pack] at sized hvertices hindices hbatches
  simp only [quadRecords, length_quadVertices, length_quadIndices, List.length_reverse]
    at hvertices hindices hbatches
  obtain ⟨hvertices₀, hindices₀, hbatches₀, -, -, -⟩ := sized
  omega

/-- **A builder's blocks stay in step.** After any calls they hold what was pushed
since the last `clear`, with the fewest batches that draw the quads in order. A
push is refused at the limit and nowhere else, and then changes nothing.
Finishing a frame drops nothing of it and changes no later answer. -/
theorem frame_building (calls : List BuilderCall) :
    (after calls).Built (taken calls)
      ∧ (∀ p, ((∃ e, ((after calls).serve (.push p)).1 = .refused e)
            ↔ (taken calls).length = QuadFrame.maxQuads)
          ∧ ((taken calls).length = QuadFrame.maxQuads →
            (after calls).serve (.push p) = (.refused .frameFull, after calls)))
      ∧ ∃ frame, ((after calls).serve .finish).1 = .finished frame
        ∧ frame = (after calls).frame.data
        ∧ frame.vertices = (after calls).frame.vertices
        ∧ frame.indices = (after calls).frame.indices
        ∧ frame.batches.toList
          = (after calls).frame.batches.reverse.flatMap (fun b => b.toFields.toList)
        ∧ frame.vertexCount.toInt = 4 * (taken calls).length
        ∧ frame.indexCount.toInt = 6 * (taken calls).length
        ∧ frame.batchCount.toInt = (after calls).frame.batches.length
        ∧ (run [.finish, .finish] (after calls)).1 = [.finished frame, .finished frame]
        ∧ ∀ later, (run (.finish :: later) (after calls)).1
          = .finished frame :: (run later (after calls)).1 := by
  have kept := kept_after calls
  refine ⟨kept.built, ?_, (after calls).frame.data, ?_, rfl, rfl, rfl, rfl, kept.counts.1,
    kept.counts.2.1, kept.counts.2.2, ?_, run_finish_cons _⟩
  · intro p
    rw [kept.serve_push p]
    by_cases hfull : (taken calls).length = QuadFrame.maxQuads
    · rw [if_pos hfull]
      exact ⟨⟨fun _ => hfull, fun _ => ⟨_, rfl⟩⟩, fun _ => rfl⟩
    · rw [if_neg hfull]
      refine ⟨⟨?_, fun h => absurd h hfull⟩, fun h => absurd h hfull⟩
      rintro ⟨e, he⟩
      cases he
  · exact congrArg BuilderAnswer.finished (finish_fst _)
  · rw [run_finish_cons, run_finish_cons]
    rfl

/-- A full frame refuses the next push. -/
theorem frame_building_full :
    ∃ p calls, calls = List.replicate QuadFrame.maxQuads (.push p)
      ∧ (taken calls).length = QuadFrame.maxQuads
      ∧ (after calls).serve (.push p) = (.refused .frameFull, after calls) := by
  let p : QuadPush := .untextured ⟨.zero, .zero, .one, .one, .white, .noOffset⟩ .normal
  have hfull := kept_empty.length_replicate p QuadFrame.maxQuads
  exact ⟨p, _, rfl, hfull, ((frame_building _).2.1 p).2 hfull⟩

end FrameBuilder

end SpriteRenderer

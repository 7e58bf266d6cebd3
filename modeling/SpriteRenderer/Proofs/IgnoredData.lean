import SpriteRenderer.Proofs.BatchChanges
import SpriteRenderer.Proofs.FrameCourse
import SpriteRenderer.Proofs.Packing

/-!
# Data that a frame is rendered without

A frame holds more than is drawn: data behind its records, words of a batch
that are reserved or kept for later, scissor rectangles that do not count, and
codes of blend modes that draw alike. Two frames that differ in such data only
are rendered alike (`ignored_data_unseen`).

`SameMeaning` compares two frames word by word, before anything is read. What
is read of them is then the same up to `Batch.essential`, the batch with
nothing in it but what is drawn; and neither the checks nor the execution tell
a batch from its essential part.
-/

namespace SpriteRenderer

/-! ## The essential part of a batch -/

namespace Batch

/-- A batch without what drawing ignores. -/
def essential (applyScissor : Bool) (b : Batch) : Batch :=
  { b with
    blendMode := if b.blendMode.func = .additive then .add else .normal
    maskType := 0
    stencilIndex := 0
    scissor := if applyScissor then b.scissor else .zero }

theorem func_essential (applyScissor : Bool) (b : Batch) :
    (b.essential applyScissor).blendMode.func = b.blendMode.func := by
  unfold essential
  cases b.blendMode <;> rfl

theorem essential_congr {applyScissor : Bool} {a b : Batch}
    (start : a.indexStart = b.indexStart) (triangles : a.triangleCount = b.triangleCount)
    (texture : a.textureId = b.textureId) (blend : a.blendMode.func = b.blendMode.func)
    (scissor : applyScissor = true → a.scissor = b.scissor) :
    a.essential applyScissor = b.essential applyScissor := by
  unfold essential
  rw [start, triangles, texture, blend]
  cases applyScissor with
  | false => rfl
  | true => rw [scissor rfl]

end Batch

theorem DrawContext.step_essential {T : Type} (c : DrawContext T) (cursor : Cursor) (b : Batch) :
    c.step cursor (b.essential c.applyScissor) = c.step cursor b := by
  refine c.step_congr cursor ?_ fun _ => ⟨rfl, rfl, rfl, b.func_essential _⟩
  unfold visibility
  cases c.applyScissor <;> rfl

namespace DecodedFrame

def essential (applyScissor : Bool) (d : DecodedFrame) : DecodedFrame :=
  { d with batches := d.batches.map (Batch.essential applyScissor) }

theorem checkBatches_essential (indexCount capacity : Nat) (applyScissor : Bool)
    (batches : List Batch) :
    checkBatches indexCount capacity (batches.map (Batch.essential applyScissor))
      = checkBatches indexCount capacity batches := by
  induction batches with
  | nil => rfl
  | cons b rest ih =>
      rw [List.map_cons, checkBatches, checkBatches, ih]
      rfl

theorem validate_essential (d : DecodedFrame) (applyScissor : Bool) (capacity : Nat) :
    (d.essential applyScissor).validate capacity = d.validate capacity := by
  unfold validate
  rw [essential, checkBatches_essential]

end DecodedFrame

/-! ## Frames that mean the same -/

namespace FrameData

/-- Every block holds the records that are declared for it. -/
structure HoldsRecords (f : FrameData) : Prop where
  vertices : 6 * f.vertexCount.toInt ≤ f.vertices.size
  indices : f.indexCount.toInt ≤ f.indices.size
  batches : 16 * f.batchCount.toInt ≤ f.batches.size

/-- Frames with the same slots and indices, and with batches of the same range,
texture id and blend function and (where scissors count) the same edges. -/
structure SameMeaning (applyScissor : Bool) (f g : FrameData) : Prop where
  vertexCount : f.vertexCount = g.vertexCount
  indexCount : f.indexCount = g.indexCount
  batchCount : f.batchCount = g.batchCount
  vertices : ∀ i < 6 * f.vertexCount.toInt.toNat, f.vertices[i]? = g.vertices[i]?
  indices : ∀ i < f.indexCount.toInt.toNat, f.indices[i]? = g.indices[i]?
  words : ∀ k < f.batchCount.toInt.toNat, ∀ j < 3, f.batches[16 * k + j]? = g.batches[16 * k + j]?
  blend : ∀ k < f.batchCount.toInt.toNat,
    f.batches[16 * k + 3]?.map (fun code => (BlendMode.ofCode code).func)
      = g.batches[16 * k + 3]?.map fun code => (BlendMode.ofCode code).func
  scissor : applyScissor = true → ∀ k < f.batchCount.toInt.toNat, ∀ j, 6 ≤ j → j < 10 →
    f.batches[16 * k + j]? = g.batches[16 * k + j]?

theorem HoldsRecords.wellSized {f : FrameData} (holds : f.HoldsRecords)
    (hv : 0 ≤ f.vertexCount.toInt) (hi : 0 ≤ f.indexCount.toInt) (hb : 0 ≤ f.batchCount.toInt) :
    f.WellSized := by
  have ⟨vertices, indices, batches⟩ := holds
  have hvertices : f.vertexCount.toInt.toNat * 6 ≤ f.vertices.size := by omega
  have hindices : f.indexCount.toInt.toNat * 1 ≤ f.indices.size := by omega
  have hbatches : f.batchCount.toInt.toNat * 16 ≤ f.batches.size := by omega
  exact ⟨hv, hi, hb, hvertices, hindices, hbatches⟩

/-- What decoding looks at before it looks into the blocks. -/
def checkCounts (f : FrameData) : Except RenderError Unit := do
  let _ ← checkCount .vertices f.vertexCount
  let _ ← checkCount .indices f.indexCount
  let _ ← checkCount .batches f.batchCount
  return ()

/-- A frame that holds its records is refused for its counts only. -/
theorem decode_of_holdsRecords {f : FrameData} (holds : f.HoldsRecords) :
    f.decode = f.checkCounts.map fun _ => f.records := by
  unfold decode checkCounts
  cases hvertices : checkCount .vertices f.vertexCount with
  | error e => rfl
  | ok vertexCount =>
      cases hindices : checkCount .indices f.indexCount with
      | error e => rfl
      | ok indexCount =>
          cases hbatches : checkCount .batches f.batchCount with
          | error e => rfl
          | ok batchCount =>
              obtain ⟨hv, rfl⟩ := checkCount_eq_ok_iff.mp hvertices
              obtain ⟨hi, rfl⟩ := checkCount_eq_ok_iff.mp hindices
              obtain ⟨hb, rfl⟩ := checkCount_eq_ok_iff.mp hbatches
              have sized := holds.wellSized hv hi hb
              have decoded := decode_eq_ok_iff.mpr ⟨sized, rfl⟩
              unfold decode at decoded
              rw [hvertices, hindices, hbatches] at decoded
              exact decoded

theorem vertexAt_congr {xs ys : Array Binary32} {k : Nat}
    (same : ∀ j < 6, xs[k * 6 + j]? = ys[k * 6 + j]?) : vertexAt xs k = vertexAt ys k := by
  unfold vertexAt
  congr 2
  funext j
  rw [Array.getD_eq_getD_getElem?, Array.getD_eq_getD_getElem?, same j j.isLt]

/-- The words that a batch is read from. -/
theorem batchAt_eq (words : Array Int32) (k : Nat) :
    batchAt words k =
      let word (j : Nat) := words[16 * k + j]?.getD 0
      ⟨word 0, word 1, word 2, .ofCode (word 3), word 4, word 5,
        ⟨word 6, word 7, word 8, word 9⟩⟩ := by
  have word : ∀ field : BatchField,
      (Vector.ofFn fun j : Fin BatchField.count =>
          words.getD (k * BatchField.count + j) 0)[field.offset]
        = words[16 * k + field.offset]?.getD 0 := by
    intro field
    rw [Fin.getElem_fin, Vector.getElem_ofFn, Array.getD_eq_getD_getElem?, Nat.mul_comm]
  unfold batchAt Batch.ofFields
  simp only [word]
  rfl

section SameMeaning

variable {applyScissor : Bool} {f g : FrameData} (same : SameMeaning applyScissor f g)

include same

theorem SameMeaning.isEmpty_eq : f.isEmpty = g.isEmpty := by
  unfold isEmpty
  rw [same.vertexCount, same.indexCount]

theorem SameMeaning.checkCounts_eq : f.checkCounts = g.checkCounts := by
  unfold checkCounts
  rw [same.vertexCount, same.indexCount, same.batchCount]

theorem SameMeaning.records_vertices : f.records.vertices = g.records.vertices := by
  show List.ofFn _ = List.ofFn _
  rw [← same.vertexCount]
  refine congrArg List.ofFn (funext fun k => ?_)
  apply vertexAt_congr
  intro j hj
  have hk := k.isLt
  exact same.vertices _ (by omega)

theorem SameMeaning.records_indices : f.records.indices = g.records.indices := by
  apply List.ext_getElem?
  intro i
  simp only [records, ← same.indexCount, Array.take_eq_extract, Array.toList_extract,
    List.extract_eq_take_drop, Nat.sub_zero, List.drop_zero, List.getElem?_take,
    Array.getElem?_toList]
  by_cases hi : i < f.indexCount.toInt.toNat
  · rw [if_pos hi, if_pos hi, same.indices i hi]
  · rw [if_neg hi, if_neg hi]

theorem SameMeaning.batchAt_essential {k : Nat} (hk : k < f.batchCount.toInt.toNat) :
    (batchAt f.batches k).essential applyScissor
      = (batchAt g.batches k).essential applyScissor := by
  have word : ∀ j < 3, f.batches[16 * k + j]?.getD 0 = g.batches[16 * k + j]?.getD 0 :=
    fun j hj => by rw [same.words k hk j hj]
  rw [batchAt_eq, batchAt_eq]
  apply Batch.essential_congr
  · exact word 0 (by decide)
  · exact word 1 (by decide)
  · exact word 2 (by decide)
  · have hblend := congrArg (fun func => func.getD (BlendMode.ofCode 0).func) (same.blend k hk)
    simpa only [Option.getD_map] using hblend
  · intro clipping
    have edge : ∀ j, 6 ≤ j → j < 10 →
        f.batches[16 * k + j]?.getD 0 = g.batches[16 * k + j]?.getD 0 :=
      fun j hlow hhigh => by rw [same.scissor clipping k hk j hlow hhigh]
    dsimp only
    rw [edge 6 (by decide) (by decide), edge 7 (by decide) (by decide),
      edge 8 (by decide) (by decide), edge 9 (by decide) (by decide)]

/-- What two such frames hold differs in nothing essential. -/
theorem SameMeaning.records_essential :
    f.records.essential applyScissor = g.records.essential applyScissor := by
  have hbatches : f.records.batches.map (Batch.essential applyScissor)
      = g.records.batches.map (Batch.essential applyScissor) := by
    simp only [records, List.map_ofFn]
    rw [← same.batchCount]
    exact congrArg List.ofFn (funext fun k => same.batchAt_essential k.isLt)
  unfold DecodedFrame.essential
  rw [same.records_vertices, same.records_indices, hbatches]

end SameMeaning

end FrameData

/-! ## Rendering -/

namespace Renderer

open FrameData

variable {ε σ P T : Type} {B : Backend ε σ P T} {r : Renderer P T}

theorem accept_of_holdsRecords {f : FrameData} (holds : f.HoldsRecords) :
    r.accept f = (do
      f.checkCounts
      f.records.validate r.textures.capacity
      return f.records) := by
  unfold accept
  rw [decode_of_holdsRecords holds]
  cases f.checkCounts <;> rfl

/-- Frames that mean the same are refused for the same reason, or accepted
with the same essentials. -/
theorem accept_cases {applyScissor : Bool} {f g : FrameData}
    (same : SameMeaning applyScissor f g) (hf : f.HoldsRecords) (hg : g.HoldsRecords) :
    (∃ e, r.accept f = .error e ∧ r.accept g = .error e)
      ∨ ∃ d d', r.accept f = .ok d ∧ r.accept g = .ok d'
        ∧ d.essential applyScissor = d'.essential applyScissor := by
  have hvalid : f.records.validate r.textures.capacity
      = g.records.validate r.textures.capacity := by
    rw [← DecodedFrame.validate_essential f.records applyScissor, same.records_essential,
      DecodedFrame.validate_essential]
  rw [accept_of_holdsRecords hf, accept_of_holdsRecords hg, same.checkCounts_eq, hvalid]
  cases g.checkCounts with
  | error e => exact .inl ⟨e, rfl, rfl⟩
  | ok _ =>
      cases g.records.validate r.textures.capacity with
      | error e => exact .inl ⟨e, rfl, rfl⟩
      | ok _ => exact .inr ⟨f.records, g.records, rfl, rfl, same.records_essential⟩

theorem drawDecoded_congr (viewport : Viewport) (program : P) {d d' : DecodedFrame}
    (same : d.essential r.config.applyScissor = d'.essential r.config.applyScissor) :
    drawDecoded B r viewport program d = drawDecoded B r viewport program d' := by
  have hvertices : d.vertices = d'.vertices :=
    congrArg (fun frame => frame.vertices) same
  have hindices : d.indices = d'.indices :=
    congrArg (fun frame => frame.indices) same
  have hbatches : d.batches.map (Batch.essential r.config.applyScissor)
      = d'.batches.map (Batch.essential r.config.applyScissor) :=
    congrArg DecodedFrame.batches same
  have unseen : ∀ batches, (r.drawContext viewport).execute r.warnedUnbound
      (batches.map (Batch.essential r.config.applyScissor))
        = (r.drawContext viewport).execute r.warnedUnbound batches := fun batches =>
    DrawContext.execute_map
      (fun b _ cursor => (r.drawContext viewport).step_essential cursor b) r.warnedUnbound
  have hexecute : (r.drawContext viewport).execute r.warnedUnbound d.batches
      = (r.drawContext viewport).execute r.warnedUnbound d'.batches := by
    rw [← unseen d.batches, hbatches, unseen d'.batches]
  unfold drawDecoded
  rw [hvertices, hindices, hexecute]

theorem renderBody_congr {f g : FrameData} (same : SameMeaning r.config.applyScissor f g)
    (hf : f.HoldsRecords) (hg : g.HoldsRecords) : renderBody B r f = renderBody B r g := by
  unfold renderBody
  refine bind_congr fun s => bind_congr fun lookup => ?_
  dsimp only
  cases lookup.outcome with
  | error e => rfl
  | ok program =>
      -- The program was looked up before the frame is read, so it is the renderer
      -- with the new cache that judges it.
      have accepted := accept_cases (r := { r with shader := lookup.cache }) same hf hg
      rcases accepted with ⟨e, hf', hg'⟩ | ⟨d, d', hf', hg', hessential⟩
      · rw [hf', hg']
      · rw [hf', hg']
        dsimp only
        rw [drawDecoded_congr (r := { r with shader := lookup.cache }) _ _ hessential]

/-- **Ignored data is not seen.** Two frames that hold their records and mean
the same to a renderer are one frame to it, on any device in any state: what it
tells the device and the log, what it returns and what it is afterwards are the
same for both. -/
theorem ignored_data_unseen (B : Backend ε σ P T) (r : Renderer P T) (s : σ) (f g : FrameData)
    (same : SameMeaning r.config.applyScissor f g) (hf : f.HoldsRecords) (hg : g.HoldsRecords) :
    (renderFrame B r f).run s = (renderFrame B r g).run s := by
  have hbody : ∀ frameCount, renderBody B { r with frameCount } f
      = renderBody B { r with frameCount } g := by
    intro frameCount
    exact renderBody_congr same hf hg
  unfold renderFrame
  simp only [same.isEmpty_eq, hbody]

/-- The frame `untidy` without data behind its records, with another code for
its blend function, and with a rectangle of its own. -/
def tidied (rect : ScissorRect) : FrameData :=
  { untidy.trimmed with
    batches := #[0, 1, -1, 0, 0, 0, rect.left, rect.top, rect.right, rect.bottom,
      0, 0, 0, 0, 0, 0] }

def unclippedRenderer : Renderer Nat Nat :=
  { sampleRenderer with config := ⟨2, .black, false⟩ }

/-- The rectangle stays where scissors count, and goes where they do not. -/
theorem ignored_data_unseen_sample :
    (∃ out, (renderFrame (Rehearsal.backend Nat) sampleRenderer untidy).run
          ⟨DrawContext.sampleContext.viewport, none, none, 0⟩ = .ok out
        ∧ .command (.drawing (.draw 0 3)) ∈ out.value.calls
        ∧ (renderFrame (Rehearsal.backend Nat) sampleRenderer (tidied ⟨-1, 2, 30, 40⟩)).run
          ⟨DrawContext.sampleContext.viewport, none, none, 0⟩ = .ok out)
      ∧ ∃ out, (renderFrame (Rehearsal.backend Nat) unclippedRenderer untidy).run
          ⟨DrawContext.sampleContext.viewport, none, none, 0⟩ = .ok out
        ∧ .command (.drawing (.draw 0 3)) ∈ out.value.calls
        ∧ (renderFrame (Rehearsal.backend Nat) unclippedRenderer (tidied .zero)).run
          ⟨DrawContext.sampleContext.viewport, none, none, 0⟩ = .ok out := by
  have holds : untidy.HoldsRecords := ⟨by decide, by decide, by decide⟩
  have clipped : SameMeaning true untidy (tidied ⟨-1, 2, 30, 40⟩) :=
    ⟨rfl, rfl, rfl, by decide, by decide, by decide, by decide, fun _ => by decide⟩
  have unclipped : SameMeaning false untidy (tidied .zero) :=
    ⟨rfl, rfl, rfl, by decide, by decide, by decide, by decide,
      fun clipping => absurd clipping Bool.false_ne_true⟩
  refine ⟨?_, ?_⟩
  · obtain ⟨out, hout, hdraw⟩ := exists_ok_of_map_toOption (b := true)
      (f := fun out : Ran Empty Rehearsal (FrameRun Nat Nat) =>
        decide (.command (.drawing (.draw 0 3)) ∈ out.value.calls))
      (x := (renderFrame (Rehearsal.backend Nat) sampleRenderer untidy).run
        ⟨DrawContext.sampleContext.viewport, none, none, 0⟩) (by decide +kernel)
    have unseen := ignored_data_unseen (Rehearsal.backend Nat) sampleRenderer
      ⟨DrawContext.sampleContext.viewport, none, none, 0⟩ _ _ clipped holds
      ⟨by decide, by decide, by decide⟩
    exact ⟨out, hout, of_decide_eq_true hdraw, unseen.symm.trans hout⟩
  · obtain ⟨out, hout, hdraw⟩ := exists_ok_of_map_toOption (b := true)
      (f := fun out : Ran Empty Rehearsal (FrameRun Nat Nat) =>
        decide (.command (.drawing (.draw 0 3)) ∈ out.value.calls))
      (x := (renderFrame (Rehearsal.backend Nat) unclippedRenderer untidy).run
        ⟨DrawContext.sampleContext.viewport, none, none, 0⟩) (by decide +kernel)
    have unseen := ignored_data_unseen (Rehearsal.backend Nat) unclippedRenderer
      ⟨DrawContext.sampleContext.viewport, none, none, 0⟩ _ _ unclipped holds
      ⟨by decide, by decide, by decide⟩
    exact ⟨out, hout, of_decide_eq_true hdraw, unseen.symm.trans hout⟩

end Renderer

end SpriteRenderer

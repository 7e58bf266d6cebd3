import SpriteRenderer.Proofs.Elision

/-!
# Changes to batches that drawing does not see

Executing a batch looks at where it shows and, if it shows anywhere, at its
range, its texture id and its blend function (`step_congr`). A change of the
batches that keeps these is not seen by a whole list either, since the cursor
passes from one batch to the next whatever it was set by (`execute_map`).

Packing is such a change but for one mode: the code 1 written for an unknown
mode reads back as the additive one, and an unknown mode draws like the normal
one. So the commands of a list stay the same exactly if no batch of that mode
shows (`repacked_draws_alike`).
-/

namespace SpriteRenderer

variable {T : Type}

namespace DrawContext

theorem drawBatch_congr (c : DrawContext T) (cursor : Cursor) (shown : Visibility) {a b : Batch}
    (start : a.indexStart = b.indexStart) (triangles : a.triangleCount = b.triangleCount)
    (texture : a.textureId = b.textureId) (blend : a.blendMode.func = b.blendMode.func) :
    c.drawBatch cursor shown a = c.drawBatch cursor shown b := by
  unfold drawBatch triangleTally Batch.indexLength
  rw [start, triangles, texture, blend]

theorem step_congr (c : DrawContext T) (cursor : Cursor) {a b : Batch}
    (visibility : c.visibility a = c.visibility b)
    (same : c.visibility b ≠ .hidden →
      a.indexStart = b.indexStart ∧ a.triangleCount = b.triangleCount
        ∧ a.textureId = b.textureId ∧ a.blendMode.func = b.blendMode.func) :
    c.step cursor a = c.step cursor b := by
  unfold step
  rw [visibility]
  cases shown : c.visibility b with
  | hidden => rfl
  | unclipped | clipped _ =>
      obtain ⟨start, triangles, texture, blend⟩ := same (by simp [shown])
      exact c.drawBatch_congr cursor _ start triangles texture blend

section Map

variable {c : DrawContext T} {change : Batch → Batch} {batches : List Batch}
  (unseen : ∀ b ∈ batches, ∀ cursor, c.step cursor (change b) = c.step cursor b)

include unseen

theorem steps_map (cursor : Cursor) :
    c.steps cursor (batches.map change) = c.steps cursor batches := by
  induction batches generalizing cursor with
  | nil => rfl
  | cons b rest ih =>
      have hrest := ih fun b' hb' => unseen b' (List.mem_cons_of_mem _ hb')
      simp only [List.map_cons, steps, unseen b List.mem_cons_self, hrest]

/-- What no batch shows when it is executed, no list does. -/
theorem execute_map (warned : Bool) :
    c.execute warned (batches.map change) = c.execute warned batches := by
  unfold execute
  rw [steps_map unseen, List.length_map]

end Map

end DrawContext

/-! ## Packing -/

/-- A batch that was written to a descriptor and read from it. -/
def Batch.repacked (b : Batch) : Batch := .ofFields b.toFields

/-- Of all modes just one changes what it draws when it is written down. -/
theorem BlendMode.func_ofCode_code_iff {m : BlendMode} :
    (ofCode m.code).func = m.func ↔ m ≠ .other 1 := by
  constructor
  · rintro h rfl
    exact absurd h (by decide)
  · intro hm
    by_cases hzero : m = .other 0
    · rw [hzero]
      rfl
    · rw [canonical_iff.mpr ⟨hzero, hm⟩]

namespace DrawContext

theorem step_repacked (c : DrawContext T) (cursor : Cursor) {b : Batch}
    (ht : 0 ≤ b.triangleCount.toInt) (mode : c.shows b = true → b.blendMode ≠ .other 1) :
    c.step cursor b.repacked = c.step cursor b := by
  refine c.step_congr cursor rfl fun visible => ⟨rfl, rfl, rfl, ?_⟩
  refine BlendMode.func_ofCode_code_iff.mpr (mode ?_)
  by_contra hidden
  exact visible (by rw [c.visibility_eq b ht, if_neg hidden])

/-- The draws of a packed list are those of the batches that show, packed. -/
theorem draws_execute_repacked {c : DrawContext T} {warned : Bool} {batches : List Batch}
    (ht : ∀ b ∈ batches, 0 ≤ b.triangleCount.toInt) {e : Execution T}
    (executed : c.execute warned (batches.map Batch.repacked) = .ok e) (m : DrawState T) :
    m.draws e.commands = (batches.filter c.shows).map fun b => c.drawn m.clip b.repacked := by
  have ht' : ∀ b ∈ batches.map Batch.repacked, 0 ≤ b.triangleCount.toInt := by
    intro b hb
    obtain ⟨b, hmem, rfl⟩ := List.mem_map.mp hb
    exact ht b hmem
  rw [draws_execute ht' executed, List.filter_map, List.map_map]
  rfl

/-- **Packing a batch list does not change how it is drawn**, unless a batch
that shows asks for the unknown mode 1. Such a batch is drawn with the normal
function as it is and with the additive one when it was packed, so there the
commands do differ. -/
theorem repacked_draws_alike (c : DrawContext T) (warned : Bool) (batches : List Batch)
    (ht : ∀ b ∈ batches, 0 ≤ b.triangleCount.toInt) :
    (c.triangleTotal batches < 2 ^ 64 → ∃ e, c.execute warned batches = .ok e)
      ∧ ((∀ b ∈ batches, c.shows b = true → b.blendMode ≠ .other 1) →
          c.execute warned (batches.map Batch.repacked) = c.execute warned batches)
      ∧ ∀ e e', c.execute warned batches = .ok e →
          c.execute warned (batches.map Batch.repacked) = .ok e' → e'.commands = e.commands →
            ∀ b ∈ batches, c.shows b = true → b.blendMode ≠ .other 1 := by
  refine ⟨fun hsum => ⟨_, (execute_eq_ok_iff c warned ht).mpr ⟨hsum, rfl⟩⟩, ?_, ?_⟩
  · intro modes
    exact execute_map (fun b hb cursor => c.step_repacked cursor (ht b hb) (modes b hb)) warned
  · intro e e' executed executed' commands b hb shown
    have hdraws := draws_execute_repacked ht executed' DrawState.unset
    rw [commands, draws_execute ht executed DrawState.unset, List.map_inj_left] at hdraws
    have hdrawn := hdraws b (List.mem_filter.mpr ⟨hb, shown⟩)
    have hblend : b.blendMode.func = b.repacked.blendMode.func :=
      Option.some.inj (congrArg (fun x => x.under.blend) hdrawn)
    exact BlendMode.func_ofCode_code_iff.mp hblend.symm

/-- Among batches that keep their modes: an unknown mode 0, which is drawn as it
is read back, and an unknown mode 1 that is clipped away. -/
theorem repacked_draws_alike_sample :
    let batches : List Batch :=
      [⟨0, 1, 1, .other 0, 0, 0, ⟨0, 0, 50, 50⟩⟩, ⟨0, 1, 1, .other 1, 0, 0, ⟨40, 0, 30, 50⟩⟩,
        ⟨0, 1, -1, .other (-7), 0, 0, ⟨0, 0, 50, 50⟩⟩, ⟨0, 1, -1, .add, 0, 0, ⟨0, 0, 50, 50⟩⟩]
    batches.map Batch.repacked ≠ batches
      ∧ ∃ e, sampleContext.execute false (batches.map Batch.repacked) = .ok e
        ∧ sampleContext.execute false batches = .ok e ∧ e.stats.drawCalls = 3 := by
  intro batches
  obtain ⟨total, alike, -⟩ := repacked_draws_alike sampleContext false batches (by decide)
  obtain ⟨e, executed⟩ := total (by decide)
  refine ⟨by decide, e, (alike (by decide)).trans executed, executed, ?_⟩
  obtain ⟨-, rfl⟩ := (execute_eq_ok_iff sampleContext false (by decide)).mp executed
  decide

/-- One batch of the unknown mode 1, before and after it is packed. -/
theorem repacked_draws_differently :
    let batch : Batch := ⟨0, 1, -1, .other 1, 0, 0, ⟨0, 0, 50, 50⟩⟩
    let context : DrawContext Nat := { sampleContext with applyScissor := false }
    ∃ e e', context.execute false [batch] = .ok e
      ∧ context.execute false ([batch].map Batch.repacked) = .ok e'
      ∧ e.commands = [.bindTexture none, .blend .over, .draw 0 3]
      ∧ e'.commands = [.bindTexture none, .blend .additive, .draw 0 3] :=
  ⟨_, _, rfl, rfl, by decide, by decide⟩

end DrawContext

end SpriteRenderer

import SpriteRenderer.Proofs.Frame

/-!
# Validation reports the first violation

A frame is checked by nested scans: its indices, then its batches, and of each
batch four things in a row. Which violation is reported is said here by one
notion for all three, `FirstWith`: the entry of a list that has a property
while none before it does. The checks of a batch are such a list as well
(`BatchCheck.order`), each with the condition under which it fails and the
error that reports it, over numbers without a bound.

The scans follow the lists, so one lemma about `FirstWith` and a first entry
(`firstWith_cons_iff`) carries them all. That 64-bit arithmetic comes to the
same numbers is `Batch.toInt_indexEnd64`.
-/

namespace SpriteRenderer

/-! ## The first entry of a list with a property -/

section FirstWith

variable {α : Type} {P : α → Prop} {xs : List α} {a x : α}

/-- The first entry with a property: it has it, and none before it does. -/
def FirstWith (P : α → Prop) (xs : List α) (a : α) : Prop :=
  ∃ before after, xs = before ++ a :: after ∧ P a ∧ ∀ x ∈ before, ¬ P x

theorem not_firstWith_nil : ¬ FirstWith P [] a := by
  rintro ⟨before, after, hsplit, -⟩
  simp at hsplit

theorem firstWith_cons_iff :
    FirstWith P (x :: xs) a ↔ P x ∧ a = x ∨ ¬ P x ∧ FirstWith P xs a := by
  constructor
  · rintro ⟨before, after, hsplit, ha, hbefore⟩
    cases before with
    | nil =>
        obtain ⟨rfl, -⟩ := List.cons.inj hsplit
        exact Or.inl ⟨ha, rfl⟩
    | cons y before =>
        obtain ⟨rfl, hrest⟩ := List.cons.inj hsplit
        obtain ⟨hx, hlater⟩ := List.forall_mem_cons.mp hbefore
        exact Or.inr ⟨hx, before, after, hrest, ha, hlater⟩
  · rintro (⟨hx, rfl⟩ | ⟨hx, before, after, rfl, ha, hbefore⟩)
    · exact ⟨[], xs, rfl, hx, fun _ hmem => absurd hmem List.not_mem_nil⟩
    · exact ⟨x :: before, after, rfl, ha, List.forall_mem_cons.mpr ⟨hx, hbefore⟩⟩

theorem find?_eq_some_iff_firstWith [DecidablePred P] :
    xs.find? (fun x => decide (P x)) = some a ↔ FirstWith P xs a := by
  rw [List.find?_eq_some_iff_append]
  simp only [decide_eq_true_eq, Bool.not_eq_true', decide_eq_false_iff_not]
  constructor
  · rintro ⟨ha, before, after, hsplit, hbefore⟩
    exact ⟨before, after, hsplit, ha, hbefore⟩
  · rintro ⟨before, after, hsplit, ha, hbefore⟩
    exact ⟨ha, before, after, hsplit, hbefore⟩

end FirstWith

/-! ## Checks made one after the other -/

section Checks

variable {κ ε : Type} {fails : κ → Prop} [DecidablePred fails] {report : κ → ε} {checks : List κ}

/-- Makes checks in order and reports the first that fails. -/
def reportFirst (fails : κ → Prop) [DecidablePred fails] (report : κ → ε) :
    List κ → Except ε Unit
  | [] => .ok ()
  | check :: rest =>
      if fails check then .error (report check) else reportFirst fails report rest

theorem reportFirst_eq_error_iff {e : ε} :
    reportFirst fails report checks = .error e ↔
      ∃ check, FirstWith fails checks check ∧ e = report check := by
  induction checks with
  | nil => simp [reportFirst, not_firstWith_nil]
  | cons check rest ih =>
      rw [reportFirst]
      simp only [firstWith_cons_iff]
      split
      · next hfails => simp [hfails, eq_comm]
      · next hpass => simp [hpass, ih]

end Checks

/-! ## The checks of a batch -/

/-- What is checked of a batch. -/
inductive BatchCheck where
  | start
  | triangles
  | range
  | texture
deriving DecidableEq

namespace BatchCheck

/-- The checks as they follow each other. -/
def order : List BatchCheck := [.start, .triangles, .range, .texture]

/-- When a batch fails a check. -/
def Fails (indexCount capacity : Nat) (b : Batch) : BatchCheck → Prop
  | .start => b.indexStart.toInt < 0
  | .triangles => b.triangleCount.toInt < 0
  | .range => (indexCount : Int) < b.indexStart.toInt + 3 * b.triangleCount.toInt
  | .texture => (capacity : Int) ≤ b.textureId.toInt

instance (indexCount capacity : Nat) (b : Batch) : DecidablePred (Fails indexCount capacity b)
  | .start => Int.decLt _ _
  | .triangles => Int.decLt _ _
  | .range => Int.decLt _ _
  | .texture => Int.decLe _ _

/-- The error that reports a check: the value that failed it, and its limit. -/
def report (indexCount capacity : Nat) (b : Batch) : BatchCheck → RenderError
  | .start => .outOfRange .batchIndexStart b.indexStart.toInt indexCount
  | .triangles => .outOfRange .batchTriangleCount b.triangleCount.toInt 0
  | .range =>
      .outOfRange .batchIndexRange (b.indexStart.toInt + 3 * b.triangleCount.toInt) indexCount
  | .texture => .outOfRange .batchTextureId b.textureId.toInt capacity

end BatchCheck

theorem Batch.indexEnd_eq (b : Batch) :
    b.indexEnd = b.indexStart.toInt + 3 * b.triangleCount.toInt := by
  unfold indexEnd indexLength
  omega

/-- A batch fits if it fails no check. -/
theorem Batch.fits_iff {indexCount capacity : Nat} (hcapacity : capacity ≤ TexturePool.maxCapacity)
    {b : Batch} :
    b.Fits indexCount capacity ↔ ∀ check : BatchCheck, ¬ check.Fails indexCount capacity b := by
  have hsigned := asSigned64_eq hcapacity
  constructor
  · intro fits check
    cases check with
    | start => exact Int.not_lt.mpr fits.start
    | triangles => exact Int.not_lt.mpr fits.triangles
    | range => exact Int.not_lt.mpr (b.indexEnd_eq ▸ fits.range)
    | texture => exact Int.not_le.mpr (hsigned ▸ fits.texture)
  · intro passes
    refine ⟨Int.not_lt.mp (passes .start), Int.not_lt.mp (passes .triangles), ?_, ?_⟩
    · rw [b.indexEnd_eq]
      exact Int.not_lt.mp (passes .range)
    · rw [hsigned]
      exact Int.not_le.mp (passes .texture)

/-! ## Sixty-four bits -/

/-- Three indices for each triangle, in 64 bits. -/
theorem Batch.toInt_indexLength64 (b : Batch) :
    (b.triangleCount.toInt64 * 3).toInt = 3 * b.triangleCount.toInt := by
  have hbounds := b.indexLength_bounds
  unfold indexLength at hbounds
  have hthree : (3 : Int64).toInt = 3 := by decide
  rw [Int64.toInt_mul, Int32.toInt_toInt64, hthree, Int.mul_comm]
  apply Int.bmod_eq_of_le
  · omega
  · omega

theorem Batch.toInt_indexEnd64 (b : Batch) :
    (b.indexStart.toInt64 + b.triangleCount.toInt64 * 3).toInt
      = b.indexStart.toInt + 3 * b.triangleCount.toInt := by
  have hbounds := b.indexEnd_bounds
  rw [b.indexEnd_eq] at hbounds
  rw [Int64.toInt_add, Int32.toInt_toInt64, b.toInt_indexLength64]
  apply Int.bmod_eq_of_le
  · omega
  · omega

/-! ## The scans -/

namespace DecodedFrame

open BatchCheck

variable {indexCount capacity : Nat} {e : RenderError}

theorem checkBatch_eq_reportFirst (hcapacity : capacity ≤ TexturePool.maxCapacity) (b : Batch) :
    checkBatch indexCount capacity b
      = reportFirst (Fails indexCount capacity b) (report indexCount capacity b) order := by
  have hstart : b.indexStart < 0 ↔ b.indexStart.toInt < 0 := Int32.lt_iff_toInt_lt
  have htriangles : b.triangleCount < 0 ↔ b.triangleCount.toInt < 0 := Int32.lt_iff_toInt_lt
  simp only [checkBatch, order, reportFirst, Fails, report, hstart, htriangles, b.indexEnd_eq,
    asSigned64_eq hcapacity]

theorem checkBatch_eq_error_iff (hcapacity : capacity ≤ TexturePool.maxCapacity) {b : Batch} :
    checkBatch indexCount capacity b = .error e ↔
      ∃ check, FirstWith (Fails indexCount capacity b) order check
        ∧ e = report indexCount capacity b check := by
  rw [checkBatch_eq_reportFirst hcapacity, reportFirst_eq_error_iff]

theorem checkBatches_eq_error_iff (hcapacity : capacity ≤ TexturePool.maxCapacity)
    {batches : List Batch} :
    checkBatches indexCount capacity batches = .error e ↔
      ∃ b, FirstWith (fun b => ∃ check, Fails indexCount capacity b check) batches b
        ∧ checkBatch indexCount capacity b = .error e := by
  have hpasses : ∀ b, (∃ u, checkBatch indexCount capacity b = .ok u) ↔
      ¬ ∃ check, Fails indexCount capacity b check := by
    intro b
    simp only [checkBatch_eq_ok_iff, Batch.fits_iff hcapacity, not_exists, exists_const]
  induction batches with
  | nil => simp [checkBatches, not_firstWith_nil]
  | cons b rest ih =>
      rw [checkBatches, except_bind_eq_error_iff]
      simp only [firstWith_cons_iff]
      constructor
      · rintro (hhere | ⟨u, hpass, hlater⟩)
        · obtain ⟨check, ⟨-, -, -, hfails, -⟩, -⟩ := (checkBatch_eq_error_iff hcapacity).mp hhere
          exact ⟨b, Or.inl ⟨⟨check, hfails⟩, rfl⟩, hhere⟩
        · obtain ⟨b', hfirst, he⟩ := ih.mp hlater
          exact ⟨b', Or.inr ⟨(hpasses b).mp ⟨u, hpass⟩, hfirst⟩, he⟩
      · rintro ⟨b', ⟨-, rfl⟩ | ⟨hpass, hfirst⟩, he⟩
        · exact Or.inl he
        · obtain ⟨u, hu⟩ := (hpasses b).mpr hpass
          exact Or.inr ⟨u, hu, ih.mpr ⟨b', hfirst, he⟩⟩

theorem validate_eq_error_iff (hcapacity : capacity ≤ TexturePool.maxCapacity) {d : DecodedFrame} :
    d.validate capacity = .error e ↔
      (∃ i, FirstWith (fun i : UInt16 => d.vertices.length ≤ i.toNat) d.indices i
          ∧ e = .outOfRange .vertexIndex i.toNat d.vertices.length)
        ∨ (∀ i ∈ d.indices, i.toNat < d.vertices.length)
          ∧ ∃ b, FirstWith (fun b => ∃ check, Fails d.indices.length capacity b check) d.batches b
            ∧ ∃ check, FirstWith (Fails d.indices.length capacity b) order check
              ∧ e = report d.indices.length capacity b check := by
  have hfind : ∀ i, FirstWith (fun i : UInt16 => d.vertices.length ≤ i.toNat) d.indices i ↔
      d.indices.find? (fun i => decide (d.vertices.length ≤ i.toNat)) = some i :=
    fun i => find?_eq_some_iff_firstWith.symm
  simp only [← checkBatch_eq_error_iff hcapacity, ← checkBatches_eq_error_iff hcapacity, hfind]
  unfold validate
  dsimp only
  split
  · next i hi =>
      have hbad : ¬ ∀ i ∈ d.indices, i.toNat < d.vertices.length := by
        intro hall
        have hlow : d.vertices.length ≤ i.toNat := by simpa using List.find?_some hi
        exact Nat.not_lt.mpr hlow (hall i (List.mem_of_find?_eq_some hi))
      simp [hi, hbad, eq_comm]
  · next hnone =>
      have hall : ∀ i ∈ d.indices, i.toNat < d.vertices.length := by
        simpa [List.find?_eq_none] using hnone
      simp only [hnone, reduceCtorEq, false_and, exists_false, false_or]
      exact ⟨fun he => ⟨hall, he⟩, And.right⟩

/-- **Validation is exact and reports the first violation.** For every
capacity that a pool can have, a frame passes just if every index is that of a
vertex, and every batch has a start and a triangle count that are not negative,
an end within the index buffer and an id below the capacity. A frame that does
not pass is reported for its first bad index, or else for the first check in
order that its first bad batch fails, by the value and the limit. All of this is
over numbers without a bound, and 64 bits hold them for any batch. -/
theorem validation_exact (d : DecodedFrame) {capacity : Nat}
    (hcapacity : capacity ≤ TexturePool.maxCapacity) :
    (d.validate capacity = .ok () ↔
        (∀ i ∈ d.indices, i.toNat < d.vertices.length)
          ∧ ∀ b ∈ d.batches, 0 ≤ b.indexStart.toInt ∧ 0 ≤ b.triangleCount.toInt
            ∧ b.indexStart.toInt + 3 * b.triangleCount.toInt ≤ d.indices.length
            ∧ b.textureId.toInt < capacity)
      ∧ (∀ e, d.validate capacity = .error e ↔
        (∃ i, FirstWith (fun i : UInt16 => d.vertices.length ≤ i.toNat) d.indices i
            ∧ e = .outOfRange .vertexIndex i.toNat d.vertices.length)
          ∨ (∀ i ∈ d.indices, i.toNat < d.vertices.length)
            ∧ ∃ b, FirstWith (fun b => ∃ check, Fails d.indices.length capacity b check) d.batches b
              ∧ ∃ check, FirstWith (Fails d.indices.length capacity b) order check
                ∧ e = report d.indices.length capacity b check)
      ∧ ∀ b : Batch,
        (b.triangleCount.toInt64 * 3).toInt = 3 * b.triangleCount.toInt
          ∧ (b.indexStart.toInt64 + b.triangleCount.toInt64 * 3).toInt
            = b.indexStart.toInt + 3 * b.triangleCount.toInt := by
  refine ⟨?_, fun e => validate_eq_error_iff hcapacity,
    fun b => ⟨b.toInt_indexLength64, b.toInt_indexEnd64⟩⟩
  rw [validate_eq_ok_iff]
  refine and_congr_right fun _ => forall₂_congr fun b _ => ?_
  constructor
  · intro fits
    exact ⟨fits.start, fits.triangles, b.indexEnd_eq ▸ fits.range,
      asSigned64_eq hcapacity ▸ fits.texture⟩
  · rintro ⟨start, triangles, range, texture⟩
    exact ⟨start, triangles, b.indexEnd_eq ▸ range, (asSigned64_eq hcapacity).symm ▸ texture⟩

/-- Three vertices and indices; a batch up to the very end of them, one whose
end is far beyond 32 bits, and one that fails every check but the range. -/
def violatedFrame : DecodedFrame where
  vertices := List.replicate 3 .origin
  indices := [0, 1, 2]
  batches :=
    [{ Batch.idle with triangleCount := 1, textureId := 4 },
      { Batch.idle with indexStart := 2147483647, triangleCount := 2147483647, textureId := 5 },
      { Batch.idle with indexStart := -1, triangleCount := -1, textureId := 5 }]

/-- The second batch is reported, and for its range although its id is bad too.
The first batch passes alone; a bad index is reported before any batch. -/
theorem validation_exact_sample :
    violatedFrame.validate 5 = .error (.outOfRange .batchIndexRange 8589934588 3)
      ∧ { violatedFrame with batches := violatedFrame.batches.take 1 }.validate
        TexturePool.maxCapacity = .ok ()
      ∧ { violatedFrame with indices := [0, 3, 9] }.validate 5
        = .error (.outOfRange .vertexIndex 3 3) := by
  refine ⟨?_, ?_, ?_⟩
  · refine ((validation_exact violatedFrame (by decide)).2.1 _).mpr
      (Or.inr ⟨by simp [violatedFrame], ?_⟩)
    refine ⟨_, ⟨[_], [_], rfl, ⟨.range, by decide⟩, ?_⟩, .range,
      ⟨[.start, .triangles], [.texture], rfl, by decide, by decide⟩, rfl⟩
    intro b hb
    obtain rfl := List.mem_singleton.mp hb
    rintro ⟨check, hfails⟩
    revert hfails
    cases check <;> decide
  · refine (validation_exact _ (Nat.le_refl _)).1.mpr ⟨by simp [violatedFrame], fun b hb => ?_⟩
    obtain rfl := List.mem_singleton.mp hb
    decide
  · exact ((validation_exact _ (by decide)).2.1 _).mpr
      (Or.inl ⟨3, ⟨[0], [9], rfl, by simp [violatedFrame], by simp [violatedFrame]⟩, rfl⟩)

end DecodedFrame

end SpriteRenderer

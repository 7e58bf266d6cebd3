import Mathlib.Algebra.Order.Ring.Int
import SpriteRenderer.Frame.Validation
import SpriteRenderer.Texture.Pool
import SpriteRenderer.Proofs.Effect

/-!
# What decoding and validation accept

The two checks a frame passes before anything is drawn, each as an
equivalence: `decode_eq_ok_iff` says which frames have records and what
these are, `validate_eq_ok_iff` what is then known of every index and
every batch. Later modules read an accepted frame through these two and
never look into the checks themselves.

The numbers that matter for fixed-width arithmetic are all consequences
of the record counts being 32-bit words: `records_indices_length` and
`records_batches_length` give the sizes of the blocks, `toNat_count_lt`
bounds them, and `Batch.indexEnd_bounds` bounds the range of a batch,
whatever its fields.
-/

namespace SpriteRenderer

/-! ## Decoding -/

namespace FrameData

/-- The counts are not negative and every block holds its records. -/
structure WellSized (f : FrameData) : Prop where
  vertexCount : 0 ≤ f.vertexCount.toInt
  indexCount : 0 ≤ f.indexCount.toInt
  batchCount : 0 ≤ f.batchCount.toInt
  vertices : f.vertexCount.toInt.toNat * Block.vertices.stride ≤ f.vertices.size
  indices : f.indexCount.toInt.toNat * Block.indices.stride ≤ f.indices.size
  batches : f.batchCount.toInt.toNat * Block.batches.stride ≤ f.batches.size

/-- The declared records, read without looking at the blocks' lengths. -/
def records (f : FrameData) : DecodedFrame where
  vertices := .ofFn fun k : Fin f.vertexCount.toInt.toNat => vertexAt f.vertices k
  indices := (f.indices.take f.indexCount.toInt.toNat).toList
  batches := .ofFn fun k : Fin f.batchCount.toInt.toNat => batchAt f.batches k

theorem checkCount_eq_ok_iff {block : Block} {count : Int32} {n : Nat} :
    checkCount block count = .ok n ↔ 0 ≤ count.toInt ∧ n = count.toInt.toNat := by
  unfold checkCount
  split
  · next h =>
      have hneg : count.toInt < 0 := Int32.lt_iff_toInt_lt.mp h
      simp only [reduceCtorEq, false_iff, not_and]
      omega
  · next h =>
      have hnonneg : 0 ≤ count.toInt :=
        Int.not_lt.mp fun hneg => h (Int32.lt_iff_toInt_lt.mpr hneg)
      simp [hnonneg, eq_comm]

theorem checkLength_eq_ok_iff {block : Block} {records available : Nat} {u : Unit} :
    checkLength block records available = .ok u ↔
      records * block.stride < UInt64.size ∧ records * block.stride ≤ available := by
  unfold checkLength
  dsimp only
  split
  · next h => simp [Nat.not_lt.mpr h]
  · next hfit =>
      split
      · next h => simp [Nat.not_le.mpr h]
      · next h => simp [Nat.not_le.mp hfit, Nat.not_lt.mp h]

/-- A record count is a 32-bit word. -/
theorem toNat_count_lt (count : Int32) : count.toInt.toNat < 2 ^ 31 := by
  have := count.toInt_lt
  omega

/-- The slots of as many records as 32 bits count are counted in 64. -/
theorem count_mul_stride_lt (block : Block) (count : Int32) :
    count.toInt.toNat * block.stride < UInt64.size := by
  have hcount := toNat_count_lt count
  have hstride : block.stride ≤ 16 := by cases block <;> decide
  calc count.toInt.toNat * block.stride
      ≤ count.toInt.toNat * 16 := Nat.mul_le_mul_left _ hstride
    _ < UInt64.size := by
      simp only [UInt64.size]
      omega

theorem decode_eq_ok_iff {f : FrameData} {d : DecodedFrame} :
    f.decode = .ok d ↔ f.WellSized ∧ d = f.records := by
  simp only [decode, except_bind_eq_ok_iff, checkCount_eq_ok_iff, checkLength_eq_ok_iff]
  constructor
  · rintro ⟨_, ⟨hv, rfl⟩, _, ⟨hi, rfl⟩, _, ⟨hb, rfl⟩, _, ⟨-, hvs⟩, _, ⟨-, his⟩, _, ⟨-, hbs⟩, hd⟩
    exact ⟨⟨hv, hi, hb, hvs, his, hbs⟩, (Except.ok.inj hd).symm⟩
  · rintro ⟨h, rfl⟩
    exact ⟨_, ⟨h.vertexCount, rfl⟩, _, ⟨h.indexCount, rfl⟩, _, ⟨h.batchCount, rfl⟩,
      (), ⟨count_mul_stride_lt _ _, h.vertices⟩, (), ⟨count_mul_stride_lt _ _, h.indices⟩,
      (), ⟨count_mul_stride_lt _ _, h.batches⟩, rfl⟩

@[simp] theorem records_vertices_length (f : FrameData) :
    f.records.vertices.length = f.vertexCount.toInt.toNat := by
  simp [records]

@[simp] theorem records_batches_length (f : FrameData) :
    f.records.batches.length = f.batchCount.toInt.toNat := by
  simp [records]

theorem records_indices_length {f : FrameData} (h : f.WellSized) :
    f.records.indices.length = f.indexCount.toInt.toNat := by
  have hsize := h.indices
  simp only [Block.stride, Nat.mul_one] at hsize
  simp only [records, Array.take_eq_extract, Array.length_toList, Array.size_extract]
  omega

end FrameData

/-! ## Ranges of batches -/

/-- A batch's range is computed in 64 bits, and fits there for any fields. -/
theorem Batch.indexLength_bounds (b : Batch) :
    -2 ^ 63 ≤ b.indexLength ∧ b.indexLength < 2 ^ 63 := by
  have hlow := b.triangleCount.le_toInt
  have hhigh := b.triangleCount.toInt_lt
  unfold Batch.indexLength
  omega

theorem Batch.indexEnd_bounds (b : Batch) :
    -2 ^ 63 ≤ b.indexEnd ∧ b.indexEnd < 2 ^ 63 := by
  have hlow := b.triangleCount.le_toInt
  have hhigh := b.triangleCount.toInt_lt
  have hlow' := b.indexStart.le_toInt
  have hhigh' := b.indexStart.toInt_lt
  unfold Batch.indexEnd Batch.indexLength
  omega

/-! ## Validation -/

/-- What validation establishes for a batch: it draws a part of the index
buffer, under a texture id that the pool could have handed out. -/
structure Batch.Fits (indexCount capacity : Nat) (b : Batch) : Prop where
  start : 0 ≤ b.indexStart.toInt
  triangles : 0 ≤ b.triangleCount.toInt
  range : b.indexEnd ≤ indexCount
  texture : b.textureId.toInt < DecodedFrame.asSigned64 capacity

/-- The capacities that a pool can have are read as they are. -/
theorem asSigned64_eq {capacity : Nat} (hcapacity : capacity ≤ TexturePool.maxCapacity) :
    DecodedFrame.asSigned64 capacity = capacity := by
  have hmax : TexturePool.maxCapacity = 4294967295 := rfl
  unfold DecodedFrame.asSigned64
  apply Int.bmod_eq_of_le
  · simp only [UInt64.size]
    omega
  · simp only [UInt64.size]
    omega

namespace DecodedFrame

theorem checkBatch_eq_ok_iff {indexCount capacity : Nat} {b : Batch} {u : Unit} :
    checkBatch indexCount capacity b = .ok u ↔ b.Fits indexCount capacity := by
  have hstart : b.indexStart < 0 ↔ b.indexStart.toInt < 0 := Int32.lt_iff_toInt_lt
  have htriangles : b.triangleCount < 0 ↔ b.triangleCount.toInt < 0 := Int32.lt_iff_toInt_lt
  unfold checkBatch
  constructor
  · intro h
    split at h
    · cases h
    split at h
    · cases h
    split at h
    · cases h
    split at h
    · cases h
    next hs ht hr hid =>
      exact ⟨Int.not_lt.mp (mt hstart.mpr hs), Int.not_lt.mp (mt htriangles.mpr ht),
        Int.not_lt.mp hr, Int.not_le.mp hid⟩
  · intro h
    rw [if_neg (fun hs => Int.not_lt.mpr h.start (hstart.mp hs)),
      if_neg (fun ht => Int.not_lt.mpr h.triangles (htriangles.mp ht)),
      if_neg (Int.not_lt.mpr h.range), if_neg (Int.not_le.mpr h.texture)]

theorem checkBatches_eq_ok_iff {indexCount capacity : Nat} {batches : List Batch} {u : Unit} :
    checkBatches indexCount capacity batches = .ok u ↔
      ∀ b ∈ batches, b.Fits indexCount capacity := by
  induction batches with
  | nil => simp [checkBatches]
  | cons b rest ih =>
      rw [checkBatches, except_bind_eq_ok_iff, List.forall_mem_cons, ← ih]
      simp [checkBatch_eq_ok_iff]

theorem validate_eq_ok_iff {d : DecodedFrame} {capacity : Nat} {u : Unit} :
    d.validate capacity = .ok u ↔
      (∀ i ∈ d.indices, i.toNat < d.vertices.length)
        ∧ ∀ b ∈ d.batches, b.Fits d.indices.length capacity := by
  have hfind : d.indices.find? (fun i => decide (d.vertices.length ≤ i.toNat)) = none ↔
      ∀ i ∈ d.indices, i.toNat < d.vertices.length := by
    simp [List.find?_eq_none]
  unfold validate
  dsimp only
  split
  · next i hi =>
      simp only [reduceCtorEq, false_iff, not_and]
      intro hall
      rw [hfind.mpr hall] at hi
      cases hi
  · next hnone =>
      rw [checkBatches_eq_ok_iff]
      exact ⟨fun h => ⟨hfind.mp hnone, h⟩, And.right⟩

end DecodedFrame

end SpriteRenderer

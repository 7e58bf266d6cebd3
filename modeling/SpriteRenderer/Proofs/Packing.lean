import SpriteRenderer.Proofs.Frame

/-!
# Packed records read back

A block is its records one after the other, each in the same number of
slots. The first section is about such lists: record `k` starts at slot
`k * m`, so cutting a block where a record starts is cutting the list of
records (`drop_flatMap_uniform`, `take_flatMap_uniform`,
`take_drop_flatMap_uniform`, `getElem?_flatMap_uniform`).

`decode_pack` puts it together: decoding what was packed gives the records
back, as long as they can be counted in 32 bits and every blend mode is the
one that its own code means.

The other way round a frame may hold more than its records say: data behind
them, and the reserved words of its batches. `pack_records` says that packing
what was decoded drops just that (`FrameData.trimmed`), and keeps every other
bit where it was.
-/

namespace SpriteRenderer

/-! ## Lists of equal pieces -/

section Uniform

variable {α β : Type} {g : α → List β} {m : Nat}

theorem length_flatMap_uniform (hg : ∀ a, (g a).length = m) (xs : List α) :
    (xs.flatMap g).length = xs.length * m := by
  induction xs with
  | nil => simp
  | cons x rest ih => rw [List.flatMap_cons, List.length_append, hg, ih, List.length_cons,
      Nat.succ_mul, Nat.add_comm]

theorem drop_flatMap_uniform (hg : ∀ a, (g a).length = m) (xs : List α) (k : Nat) :
    (xs.flatMap g).drop (k * m) = (xs.drop k).flatMap g := by
  induction k generalizing xs with
  | zero => simp
  | succ k ih =>
      cases xs with
      | nil => simp
      | cons x rest =>
          have hsplit : (k + 1) * m = (g x).length + k * m := by
            rw [hg, Nat.succ_mul, Nat.add_comm]
          rw [List.flatMap_cons, hsplit, ← List.drop_drop, List.drop_left, ih, List.drop_succ_cons]

theorem take_flatMap_uniform (hg : ∀ a, (g a).length = m) (xs : List α) (k : Nat) :
    (xs.flatMap g).take (k * m) = (xs.take k).flatMap g := by
  induction k generalizing xs with
  | zero => simp
  | succ k ih =>
      cases xs with
      | nil => simp
      | cons x rest =>
          have hsplit : (k + 1) * m = (g x).length + k * m := by
            rw [hg, Nat.succ_mul, Nat.add_comm]
          rw [List.flatMap_cons, hsplit, List.take_length_add_append, ih, List.take_succ_cons,
            List.flatMap_cons]

theorem getElem?_flatMap_uniform (hg : ∀ a, (g a).length = m) (xs : List α) (k : Nat) {j : Nat}
    (hj : j < m) : (xs.flatMap g)[k * m + j]? = xs[k]?.bind fun a => (g a)[j]? := by
  have hhead : xs[k]? = (xs.drop k).head? := List.head?_drop.symm
  rw [← List.getElem?_drop, drop_flatMap_uniform hg, hhead]
  cases xs.drop k with
  | nil => simp
  | cons x rest =>
      have hlt : j < (g x).length := by rw [hg]; exact hj
      rw [List.flatMap_cons, List.getElem?_append_left hlt]
      rfl

theorem take_drop_flatMap_uniform (hg : ∀ a, (g a).length = m) {xs : List α} {k : Nat} {a : α}
    (hk : xs[k]? = some a) : ((xs.flatMap g).drop (k * m)).take m = g a := by
  obtain ⟨hlt, rfl⟩ := List.getElem?_eq_some_iff.mp hk
  rw [drop_flatMap_uniform hg, List.drop_eq_getElem_cons hlt, List.flatMap_cons]
  exact List.take_left' (hg _)

/-- Records written behind a block, one after the other. -/
theorem foldl_append_fields (fields : α → Vector β m) (xs : List α) (block : Array β) :
    xs.foldl (fun block x => block ++ (fields x).toArray) block
      = block ++ (xs.flatMap fun x => (fields x).toList).toArray := by
  induction xs generalizing block with
  | nil => simp
  | cons x rest ih =>
      rw [List.foldl_cons, ih, List.flatMap_cons, Array.append_assoc, ← List.append_toArray]
      rfl

/-- A block of records that were read off slots holds one slot after the
other. -/
theorem flatMap_ofFn_eq_map_range {n : Nat} (hm : 0 < m) (fields : α → Vector β m)
    (record : Nat → α) (slot : Nat → β)
    (hslot : ∀ k < n, ∀ j (hj : j < m), (fields (record k))[j] = slot (k * m + j)) :
    ((List.ofFn fun k : Fin n => record k).flatMap fun a => (fields a).toList)
      = (List.range (n * m)).map slot := by
  have hlength : ((List.ofFn fun k : Fin n => record k).flatMap
      fun a => (fields a).toList).length = n * m := by
    rw [length_flatMap_uniform (fun a => Vector.length_toList), List.length_ofFn]
  apply List.ext_getElem
  · rw [hlength, List.length_map, List.length_range]
  · intro i hi _
    rw [hlength] at hi
    have hk : i / m < n := Nat.div_lt_of_lt_mul (by rwa [Nat.mul_comm])
    have hj : i % m < m := Nat.mod_lt i hm
    have hsplit : i / m * m + i % m = i := Nat.div_add_mod' i m
    have hrecord := hslot (i / m) hk (i % m) hj
    have hread := getElem?_flatMap_uniform (g := fun a => (fields a).toList)
      (fun a => Vector.length_toList) (List.ofFn fun k : Fin n => record k) (i / m) hj
    rw [hsplit] at hrecord hread
    rw [List.getElem_map, List.getElem_range, ← hrecord]
    apply Option.some.inj
    rw [← List.getElem?_eq_getElem, hread]
    simp [hk, hj]

theorem toArray_map_range {γ : Type} (xs : Array β) {n : Nat} (hn : n ≤ xs.size) (default : β)
    (f : Nat → β → γ) :
    ((List.range n).map fun i => f i (xs.getD i default)).toArray = (xs.take n).mapIdx f := by
  apply Array.ext
  · simp [Nat.min_eq_left hn]
  · intro i hi _
    have hlt : i < n := by simpa using hi
    simp [Nat.lt_of_lt_of_le hlt hn]

end Uniform

/-! ## Records -/

namespace FrameData

theorem toInt_toNat_ofNat {n : Nat} (hn : n < 2 ^ 31) : (Int32.ofNat n).toInt.toNat = n := by
  rw [Int32.toInt_ofNat_of_lt hn]
  rfl

/-- A field of a packed block is that field of its record. -/
theorem getD_packed {α β : Type} {m : Nat} (fields : α → Vector β m) (xs : List α) {k j : Nat}
    (hk : k < xs.length) (hj : j < m) (default : β) :
    (xs.flatMap fun a => (fields a).toList).toArray.getD (k * m + j) default
      = (fields xs[k])[j] := by
  rw [Array.getD_eq_getD_getElem?, List.getElem?_toArray,
    getElem?_flatMap_uniform (fun a => Vector.length_toList) xs k hj,
    List.getElem?_eq_getElem hk]
  simp [hj]

theorem vertexAt_packed (vertices : List Vertex) {k : Nat} (hk : k < vertices.length) :
    vertexAt (vertices.flatMap fun v => v.toSlots.toList).toArray k = vertices[k] := by
  unfold vertexAt
  have hslots : (Vector.ofFn fun j : Fin Vertex.slotCount =>
      (vertices.flatMap fun v => v.toSlots.toList).toArray.getD (k * Vertex.slotCount + j) .zero)
      = vertices[k].toSlots := by
    apply Vector.ext
    intro j hj
    rw [Vector.getElem_ofFn, getD_packed Vertex.toSlots vertices hk hj]
  rw [hslots, Vertex.ofSlots_toSlots]

theorem batchAt_packed (batches : List Batch) {k : Nat} (hk : k < batches.length)
    (canonical : batches[k].blendMode.Canonical) :
    batchAt (batches.flatMap fun b => b.toFields.toList).toArray k = batches[k] := by
  unfold batchAt
  have hfields : (Vector.ofFn fun j : Fin BatchField.count =>
      (batches.flatMap fun b => b.toFields.toList).toArray.getD (k * BatchField.count + j) 0)
      = batches[k].toFields := by
    apply Vector.ext
    intro j hj
    rw [Vector.getElem_ofFn, getD_packed Batch.toFields batches hk hj]
  rw [hfields, Batch.ofFields_toFields, canonical]

end FrameData

namespace DecodedFrame

open FrameData

/-- Record counts that fit their 32 bits. -/
structure Countable (d : DecodedFrame) : Prop where
  vertices : d.vertices.length < 2 ^ 31
  indices : d.indices.length < 2 ^ 31
  batches : d.batches.length < 2 ^ 31

section Counts

variable {d : DecodedFrame} (countable : d.Countable)

theorem size_pack_vertices (d : DecodedFrame) :
    d.pack.vertices.size = d.vertices.length * Vertex.slotCount :=
  length_flatMap_uniform (fun _ : Vertex => Vector.length_toList) d.vertices

theorem size_pack_batches (d : DecodedFrame) :
    d.pack.batches.size = d.batches.length * BatchField.count :=
  length_flatMap_uniform (fun _ : Batch => Vector.length_toList) d.batches

include countable

theorem vertexCount_pack : d.pack.vertexCount.toInt.toNat = d.vertices.length := by
  change (Int32.ofNat (d.pack.vertices.size / Vertex.slotCount)).toInt.toNat = _
  rw [size_pack_vertices, Nat.mul_div_cancel _ (by decide), toInt_toNat_ofNat countable.vertices]

theorem indexCount_pack : d.pack.indexCount.toInt.toNat = d.indices.length := by
  change (Int32.ofNat d.indices.length).toInt.toNat = _
  exact toInt_toNat_ofNat countable.indices

theorem batchCount_pack : d.pack.batchCount.toInt.toNat = d.batches.length := by
  change (Int32.ofNat (d.pack.batches.size / BatchField.count)).toInt.toNat = _
  rw [size_pack_batches, Nat.mul_div_cancel _ (by decide), toInt_toNat_ofNat countable.batches]

theorem wellSized_pack : d.pack.WellSized := by
  have hnonneg : ∀ {n : Nat}, n < 2 ^ 31 → 0 ≤ (Int32.ofNat n).toInt := by
    intro n hn
    rw [Int32.toInt_ofNat_of_lt hn]
    exact Int.natCast_nonneg n
  have hvertices : d.pack.vertices.size / Vertex.slotCount < 2 ^ 31 := by
    rw [size_pack_vertices, Nat.mul_div_cancel _ (by decide)]
    exact countable.vertices
  have hbatches : d.pack.batches.size / BatchField.count < 2 ^ 31 := by
    rw [size_pack_batches, Nat.mul_div_cancel _ (by decide)]
    exact countable.batches
  refine ⟨hnonneg hvertices, hnonneg countable.indices, hnonneg hbatches, ?_, ?_, ?_⟩
  · rw [vertexCount_pack countable, size_pack_vertices]
    exact Nat.le_refl _
  · rw [indexCount_pack countable, Block.stride, Nat.mul_one]
    exact Nat.le_refl _
  · rw [batchCount_pack countable, size_pack_batches]
    exact Nat.le_refl _

theorem records_pack (canonical : ∀ b ∈ d.batches, b.blendMode.Canonical) :
    d.pack.records = d := by
  have hvertices : d.pack.records.vertices = d.vertices := by
    apply List.ext_getElem
    · rw [records_vertices_length, vertexCount_pack countable]
    · intro k _ hk
      simp only [records, List.getElem_ofFn]
      exact vertexAt_packed d.vertices hk
  have hindices : d.pack.records.indices = d.indices := by
    simp only [records, Array.take_eq_extract, Array.toList_extract]
    rw [indexCount_pack countable]
    simp [pack, ofBlocks]
  have hbatches : d.pack.records.batches = d.batches := by
    apply List.ext_getElem
    · rw [records_batches_length, batchCount_pack countable]
    · intro k _ hk
      simp only [records, List.getElem_ofFn]
      exact batchAt_packed d.batches hk (canonical _ (List.getElem_mem hk))
  calc d.pack.records
      = ⟨d.pack.records.vertices, d.pack.records.indices, d.pack.records.batches⟩ := rfl
    _ = d := by rw [hvertices, hindices, hbatches]

theorem decode_pack (canonical : ∀ b ∈ d.batches, b.blendMode.Canonical) :
    d.pack.decode = .ok d :=
  decode_eq_ok_iff.mpr ⟨wellSized_pack countable, (records_pack countable canonical).symm⟩

end Counts

end DecodedFrame

/-! ## Packing what was decoded -/

theorem Vertex.toSlots_ofSlots (s : Vector Binary32 slotCount) : (ofSlots s).toSlots = s := by
  apply Vector.ext
  intro j hj
  match j, hj with
  | 0, _ | 1, _ | 2, _ | 3, _ | 4, _ | 5, _ => rfl

theorem Batch.toFields_ofFields (f : Vector Int32 BatchField.count) :
    (ofFields f).toFields = .ofFn fun j : Fin 16 => if j.val < 10 then f[j] else 0 := by
  apply Vector.ext
  intro j hj
  rw [Vector.getElem_ofFn]
  match j, hj with
  | 3, _ => exact BlendMode.code_ofCode _
  | 0, _ | 1, _ | 2, _ | 4, _ | 5, _ | 6, _ | 7, _ | 8, _ | 9, _ | 10, _ | 11, _ | 12, _ | 13, _
  | 14, _ | 15, _ => rfl
  | j + 16, hj => exact absurd hj (Nat.not_lt.mpr (Nat.le_add_left 16 j))

namespace FrameData

theorem ofNat_toNat_toInt {n : Int32} (hn : 0 ≤ n.toInt) : Int32.ofNat n.toInt.toNat = n := by
  apply Int32.toInt_inj.mp
  rw [Int32.toInt_ofNat_of_lt (toNat_count_lt n), Int.toNat_of_nonneg hn]

/-- A frame with nothing in it but its records: no data behind them, and zeros
for the reserved words of a batch. -/
def trimmed (f : FrameData) : FrameData where
  vertices := f.vertices.take (6 * f.vertexCount.toInt.toNat)
  vertexCount := f.vertexCount
  indices := f.indices.take f.indexCount.toInt.toNat
  indexCount := f.indexCount
  batches := (f.batches.take (16 * f.batchCount.toInt.toNat)).mapIdx fun i word =>
    if i % 16 < 10 then word else 0
  batchCount := f.batchCount

section Packed

variable {f : FrameData} (sized : f.WellSized)

include sized

theorem pack_records_vertices : f.records.pack.vertices = f.trimmed.vertices := by
  have hsize : f.vertexCount.toInt.toNat * Vertex.slotCount ≤ f.vertices.size := sized.vertices
  show (f.records.vertices.flatMap fun v => v.toSlots.toList).toArray = _
  rw [records, flatMap_ofFn_eq_map_range (by decide) Vertex.toSlots (vertexAt f.vertices)
    fun i => f.vertices.getD i .zero]
  · rw [toArray_map_range f.vertices hsize .zero fun _ slot => slot, trimmed,
      Nat.mul_comm]
    apply Array.ext <;> simp
  · intro k _ j hj
    rw [vertexAt, Vertex.toSlots_ofSlots, Vector.getElem_ofFn]

theorem pack_records_batches : f.records.pack.batches = f.trimmed.batches := by
  have hsize : f.batchCount.toInt.toNat * BatchField.count ≤ f.batches.size := sized.batches
  show (f.records.batches.flatMap fun b => b.toFields.toList).toArray = _
  rw [records, flatMap_ofFn_eq_map_range (by decide) Batch.toFields (batchAt f.batches)
    fun i => if i % 16 < 10 then f.batches.getD i 0 else 0]
  · rw [toArray_map_range f.batches hsize 0 fun i word => if i % 16 < 10 then word else 0,
      trimmed, Nat.mul_comm]
  · intro k _ j hj
    have hword : (k * 16 + j) % 16 = j := by
      rw [Nat.mul_comm, Nat.mul_add_mod, Nat.mod_eq_of_lt hj]
    rw [batchAt, Batch.toFields_ofFields, Vector.getElem_ofFn, hword]
    simp

theorem pack_records : f.records.pack = f.trimmed := by
  have hvertexCount : f.records.pack.vertexCount = f.vertexCount := by
    show Int32.ofNat (f.records.pack.vertices.size / Vertex.slotCount) = _
    rw [DecodedFrame.size_pack_vertices, Nat.mul_div_cancel _ (by decide),
      records_vertices_length, ofNat_toNat_toInt sized.vertexCount]
  have hindexCount : f.records.pack.indexCount = f.indexCount := by
    show Int32.ofNat f.records.indices.length = _
    rw [records_indices_length sized, ofNat_toNat_toInt sized.indexCount]
  have hbatchCount : f.records.pack.batchCount = f.batchCount := by
    show Int32.ofNat (f.records.pack.batches.size / BatchField.count) = _
    rw [DecodedFrame.size_pack_batches, Nat.mul_div_cancel _ (by decide),
      records_batches_length, ofNat_toNat_toInt sized.batchCount]
  calc f.records.pack
      = ⟨f.records.pack.vertices, f.records.pack.vertexCount, f.records.pack.indices,
          f.records.pack.indexCount, f.records.pack.batches, f.records.pack.batchCount⟩ := rfl
    _ = f.trimmed := by
      rw [pack_records_vertices sized, hvertexCount, hindexCount, pack_records_batches sized,
        hbatchCount]
      rfl

end Packed

end FrameData

/-- **Packing and decoding undo each other.** Records that can be counted, with
blend modes that are not a known mode in disguise, are decoded as they were
packed; and a frame that was decoded is packed as it was, bit for bit, less
what its records do not say. -/
theorem packing_round_trip :
    (∀ d : DecodedFrame, d.Countable →
        (∀ b ∈ d.batches, b.blendMode ≠ .other 0 ∧ b.blendMode ≠ .other 1) →
        d.pack.decode = .ok d)
      ∧ ∀ (f : FrameData) (d : DecodedFrame), f.decode = .ok d → d.pack = f.trimmed := by
  constructor
  · intro d countable modes
    exact d.decode_pack countable fun b hb => BlendMode.canonical_iff.mpr (modes b hb)
  · intro f d decoded
    obtain ⟨sized, rfl⟩ := FrameData.decode_eq_ok_iff.mp decoded
    exact FrameData.pack_records sized

/-- One vertex with a number in none of its slots, and a batch of an unknown
mode, with something behind each block and in every reserved word. -/
def FrameData.untidy : FrameData where
  vertices := #[⟨0x7fc01234⟩, ⟨0x7f800001⟩, ⟨0xffc00000⟩, ⟨0x7fffffff⟩, ⟨0xff808080⟩,
    ⟨0x7f8000ff⟩, ⟨0x3f800000⟩]
  vertexCount := 1
  indices := #[0, 0, 0, 9]
  indexCount := 3
  batches := #[0, 1, -1, 7, 5, -6, -1, 2, 30, 40, -42, -42, -42, -42, -42, -42, 3, 3]
  batchCount := 1

theorem packing_round_trip_sample :
    FrameData.untidy.decode = .ok FrameData.untidy.records
      ∧ FrameData.untidy.records.pack = FrameData.untidy.trimmed
      ∧ FrameData.untidy.trimmed.batches = #[0, 1, -1, 7, 5, -6, -1, 2, 30, 40, 0, 0, 0, 0, 0, 0]
      ∧ FrameData.untidy.trimmed.decode = .ok FrameData.untidy.records := by
  have decoded : FrameData.untidy.decode = .ok FrameData.untidy.records := rfl
  have packed := packing_round_trip.2 FrameData.untidy _ decoded
  refine ⟨decoded, packed, rfl, ?_⟩
  rw [← packed]
  refine packing_round_trip.1 _ ⟨by decide, by decide, by decide⟩ ?_
  intro b hb
  obtain rfl := List.mem_singleton.mp hb
  decide

end SpriteRenderer

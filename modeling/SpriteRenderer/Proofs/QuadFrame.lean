import Mathlib.Data.List.Induction
import SpriteRenderer.FrameBuilder
import SpriteRenderer.Proofs.FrameCourse
import SpriteRenderer.Proofs.Packing

/-!
# What a frame of quads holds

Quads go into a frame one after the other, and a quad joins the newest batch
where it can. `Holds` is what is known of the frame after some pushes: the
corners and the index triples of every quad in push order, and batches that
`Cover` the pushes, each a run of quads that draw alike. `Holds.push` is one
push, and `holds_of_pushAll` any number of them.

A list of batches that covers the pushes need not be the one that merging
gives: one batch for each quad (`unmerged`) covers them as well. So what is
said of covering batches here, that a renderer accepts them together with the
corners (`accept_of_covers`), is said of both.
-/

namespace SpriteRenderer

/-! ## Pushes -/

namespace QuadPush

theorem onto_eq (f : QuadFrame) (p : QuadPush) :
    p.onto f = f.push p.quad p.textureId p.blend := by
  cases p <;> rfl

/-- A batch that draws this quad and no other, from index `start` on. -/
def ownBatch (start : Nat) (p : QuadPush) : Batch :=
  { Batch.idle with
    indexStart := .ofNat start, triangleCount := 2, textureId := p.textureId, blendMode := p.blend }

end QuadPush

/-- Pushes in order, up to the first that is refused. -/
def QuadFrame.pushAll (f : QuadFrame) (pushes : List QuadPush) : Except QuadError QuadFrame :=
  pushes.foldlM (fun f p => p.onto f) f

/-! ## Corners and indices -/

def quadVertices (pushes : List QuadPush) : List Vertex := pushes.flatMap fun p => p.quad.corners

def quadIndices (n : Nat) : List UInt16 :=
  (List.range n).flatMap fun k => Quad.triangles (.ofNat (k * 4))

theorem length_quadVertices (pushes : List QuadPush) :
    (quadVertices pushes).length = pushes.length * 4 :=
  length_flatMap_uniform (g := fun p : QuadPush => p.quad.corners) (fun _ => rfl) pushes

theorem length_quadIndices (n : Nat) : (quadIndices n).length = n * 6 := by
  have hlength := length_flatMap_uniform
    (g := fun k => Quad.triangles (.ofNat (k * 4))) (m := 6) (fun _ => rfl) (List.range n)
  rwa [List.length_range] at hlength

theorem take_drop_quadIndices {k n : Nat} (hk : k < n) :
    ((quadIndices n).drop (6 * k)).take 6 = Quad.triangles (.ofNat (k * 4)) := by
  rw [Nat.mul_comm]
  exact take_drop_flatMap_uniform (m := 6) (fun _ => rfl) (List.getElem?_range hk)

theorem toNat_triangles {k : Nat} (hk : k < QuadFrame.maxQuads) :
    (Quad.triangles (.ofNat (k * 4))).map UInt16.toNat
      = [k * 4, k * 4 + 1, k * 4 + 2, k * 4, k * 4 + 2, k * 4 + 3] := by
  have hsum : ∀ j < 4, (UInt16.ofNat (k * 4) + UInt16.ofNat j).toNat = k * 4 + j := by
    intro j hj
    have hmax : QuadFrame.maxQuads = 16384 := rfl
    rw [← UInt16.ofNat_add, UInt16.toNat_ofNat_of_lt' (by simp only [UInt16.size]; omega)]
  have hbase : (UInt16.ofNat (k * 4)).toNat = k * 4 := by simpa using hsum 0 (by decide)
  simp only [Quad.triangles, List.map_cons, List.map_nil, hbase]
  rw [show (1 : UInt16) = UInt16.ofNat 1 from rfl, show (2 : UInt16) = UInt16.ofNat 2 from rfl,
    show (3 : UInt16) = UInt16.ofNat 3 from rfl, hsum 1 (by decide), hsum 2 (by decide),
    hsum 3 (by decide)]

/-- Batches, the newest first, that draw the pushes in order: each takes up
where the one before it ends, and draws a run of quads alike. -/
inductive Covers : List Batch → List QuadPush → Prop
  | nil : Covers [] []
  | cons {b : Batch} {batches : List Batch} {pushes run : List QuadPush}
      (before : Covers batches pushes) (nonempty : run ≠ [])
      (alike : ∀ p ∈ run, p.textureId = b.textureId ∧ p.blend = b.blendMode)
      (start : b.indexStart = .ofNat (pushes.length * 6))
      (triangles : b.triangleCount = .ofNat (run.length * 2)) :
      Covers (b :: batches) (pushes ++ run)

namespace Covers

variable {batches : List Batch} {pushes : List QuadPush}

theorem open_batch (cover : Covers batches pushes) (p : QuadPush) :
    Covers (p.ownBatch (pushes.length * 6) :: batches) (pushes ++ [p]) := by
  refine .cons cover (by simp) ?_ rfl rfl
  intro p' hp'
  obtain rfl := List.mem_singleton.mp hp'
  exact ⟨rfl, rfl⟩

theorem extend (cover : Covers batches pushes) (p : QuadPush) :
    Covers (QuadFrame.extend batches (pushes.length * 6) p.textureId p.blend) (pushes ++ [p]) := by
  cases cover with
  | nil => exact open_batch .nil p
  | @cons last rest earlier run before nonempty alike start triangles =>
      unfold QuadFrame.extend
      dsimp only
      split
      · next hsame =>
          rw [List.append_assoc]
          refine .cons before (by simp) ?_ start ?_
          · intro p' hp'
            rcases List.mem_append.mp hp' with hrun | hnew
            · exact alike p' hrun
            · obtain rfl := List.mem_singleton.mp hnew
              exact ⟨hsame.1.symm, hsame.2.symm⟩
          · rw [List.length_append, Nat.add_mul, Int32.ofNat_add, ← triangles]
            rfl
      · exact open_batch (.cons before nonempty alike start triangles) p

theorem length_le (cover : Covers batches pushes) : batches.length ≤ pushes.length := by
  induction cover with
  | nil => exact Nat.le_refl _
  | cons before nonempty _ _ _ ih =>
      have hpos := List.length_pos_iff.mpr nonempty
      rw [List.length_cons, List.length_append]
      omega

/-- The run of quads that a batch draws, and what comes before and after. -/
theorem exists_run (cover : Covers batches pushes) {b : Batch} (hb : b ∈ batches) :
    ∃ before run after, pushes = before ++ run ++ after ∧ run ≠ []
      ∧ (∀ p ∈ run, p.textureId = b.textureId ∧ p.blend = b.blendMode)
      ∧ b.indexStart = .ofNat (before.length * 6) ∧ b.triangleCount = .ofNat (run.length * 2) := by
  induction cover with
  | nil => cases hb
  | @cons b' _ earlier run before nonempty alike start triangles ih =>
      rcases List.mem_cons.mp hb with rfl | hrest
      · exact ⟨earlier, run, [], by simp, nonempty, alike, start, triangles⟩
      · obtain ⟨pre, mid, post, rfl, hmid⟩ := ih hrest
        exact ⟨pre, mid, post ++ run, by simp, hmid⟩

theorem canonical (cover : Covers batches pushes)
    (hcanonical : ∀ p ∈ pushes, p.blend.Canonical) {b : Batch} (hb : b ∈ batches) :
    b.blendMode.Canonical := by
  obtain ⟨pre, run, post, rfl, nonempty, alike, -⟩ := cover.exists_run hb
  obtain ⟨p, hp⟩ := List.exists_mem_of_ne_nil run nonempty
  rw [← (alike p hp).2]
  exact hcanonical p (by simp [hp])

theorem fits {capacity : Nat} (cover : Covers batches pushes)
    (hroom : pushes.length ≤ QuadFrame.maxQuads)
    (hids : ∀ p ∈ pushes, p.textureId.toInt < DecodedFrame.asSigned64 capacity) {b : Batch}
    (hb : b ∈ batches) : b.Fits (pushes.length * 6) capacity := by
  obtain ⟨pre, run, post, rfl, nonempty, alike, start, triangles⟩ := cover.exists_run hb
  obtain ⟨p, hp⟩ := List.exists_mem_of_ne_nil run nonempty
  have hmax : QuadFrame.maxQuads = 16384 := rfl
  simp only [List.length_append] at hroom ⊢
  have hstart : b.indexStart.toInt = (pre.length * 6 : Nat) := by
    rw [start, Int32.toInt_ofNat_of_lt (by omega)]
  have htriangles : b.triangleCount.toInt = (run.length * 2 : Nat) := by
    rw [triangles, Int32.toInt_ofNat_of_lt (by omega)]
  refine ⟨by omega, by omega, ?_, ?_⟩
  · unfold Batch.indexEnd Batch.indexLength
    omega
  · rw [← (alike p hp).1]
    exact hids p (by simp [hp])

end Covers

/-- The records of a frame of quads, with the batches they are drawn in. -/
def quadRecords (pushes : List QuadPush) (batches : List Batch) : DecodedFrame :=
  ⟨quadVertices pushes, quadIndices pushes.length, batches⟩

namespace QuadFrame

/-- What a frame holds after some pushes. -/
structure Holds (f : QuadFrame) (pushes : List QuadPush) : Prop where
  room : pushes.length ≤ maxQuads
  vertices : f.vertices.toList = (quadVertices pushes).flatMap fun v => v.toSlots.toList
  indices : f.indices.toList = quadIndices pushes.length
  batches : Covers f.batches pushes

variable {f f' : QuadFrame} {pushes : List QuadPush}

theorem holds_empty : empty.Holds [] := ⟨Nat.zero_le _, rfl, rfl, .nil⟩

theorem Holds.size_vertices (holds : f.Holds pushes) :
    f.vertices.size = pushes.length * 4 * Vertex.slotCount := by
  rw [← Array.length_toList, holds.vertices,
    length_flatMap_uniform (fun _ : Vertex => Vector.length_toList), length_quadVertices]

theorem Holds.size_indices (holds : f.Holds pushes) : f.indices.size = pushes.length * 6 := by
  rw [← Array.length_toList, holds.indices, length_quadIndices]

theorem Holds.quadCount (holds : f.Holds pushes) : f.quadCount = pushes.length := by
  rw [QuadFrame.quadCount, holds.size_vertices, Nat.mul_div_cancel _ (by decide),
    Nat.mul_div_cancel _ (by decide)]

theorem Holds.push (holds : f.Holds pushes) {p : QuadPush} (ok : p.onto f = .ok f') :
    f'.Holds (pushes ++ [p]) := by
  rw [p.onto_eq, QuadFrame.push] at ok
  split at ok
  · next hroom =>
      rw [holds.quadCount] at hroom
      obtain rfl := Except.ok.inj ok
      refine ⟨?_, ?_, ?_, ?_⟩
      · rw [List.length_append]
        exact hroom
      · rw [append, foldl_append_fields, Array.toList_append, holds.vertices, quadVertices,
          quadVertices, List.flatMap_append, List.flatMap_append, List.flatMap_singleton]
      · rw [List.length_append, List.length_singleton, quadIndices, List.range_succ,
          List.flatMap_append, ← quadIndices, ← holds.indices, ← holds.quadCount]
        simp [append]
      · change Covers (extend f.batches f.indices.size p.textureId p.blend) _
        rw [holds.size_indices]
        exact holds.batches.extend p
  · cases ok

theorem Holds.data_eq_pack (holds : f.Holds pushes) :
    f.data = (quadRecords pushes f.batches.reverse).pack := by
  have hvertices : f.vertices = ((quadVertices pushes).flatMap fun v => v.toSlots.toList).toArray := by
    rw [← holds.vertices]
  have hindices : f.indices = (quadIndices pushes.length).toArray := by
    rw [← holds.indices]
  rw [data, hvertices, hindices]
  rfl

end QuadFrame

section Accepted

variable {batches : List Batch} {pushes : List QuadPush}

theorem countable_quadRecords (cover : Covers batches pushes)
    (hroom : pushes.length ≤ QuadFrame.maxQuads) :
    (quadRecords pushes batches.reverse).Countable := by
  have hmax : QuadFrame.maxQuads = 16384 := rfl
  have hlength := cover.length_le
  refine ⟨?_, ?_, ?_⟩
  · rw [quadRecords, length_quadVertices]
    omega
  · rw [quadRecords, length_quadIndices]
    omega
  · rw [quadRecords, List.length_reverse]
    omega

end Accepted

end SpriteRenderer

import SpriteRenderer.Proofs.FirstViolation
import SpriteRenderer.Proofs.Packing

/-!
# Which frames are decoded, and why the others are not

The layout of a frame is six checks, the sign of each count and then the room
in each block, and a frame is refused for the first that fails
(`layout_eq_reportFirst`). That the slots of a block cannot be counted in 64
bits is no seventh reason: a 32-bit count of records never gets there.

Decoding reads slots by their numbers and has something to read wherever it
looks. `decodeInPlace` is the same on the blocks as they are: each is cut to
the length of its records and then regrouped, and there is no result where a
block is too short for the cut or the cut leaves a rest. After the six checks
neither happens (`decodeInPlace_eq`): what is cut is as many whole groups as
there are records, by induction on the groups (`groups?_flatMap`).
-/

namespace SpriteRenderer

/-! ## Cutting and regrouping a block -/

section Groups

variable {α : Type} {m n : Nat}

/-- The first `count` entries of a block, which has to have them. -/
def cut? (block : Array α) (count : Nat) : Option (List α) :=
  if count ≤ block.size then some (block.take count).toList else none

/-- A run of slots in groups of `m`; there must be no slot left over. -/
def groups? (m : Nat) (hm : 0 < m) : List α → Option (List (Vector α m))
  | [] => some []
  | slot :: rest =>
      if h : ((slot :: rest).take m).length = m then
        (groups? m hm ((slot :: rest).drop m)).map (⟨((slot :: rest).take m).toArray, h⟩ :: ·)
      else none
termination_by slots => slots.length
decreasing_by
  simp only [List.length_drop, List.length_cons]
  omega

theorem groups?_append (hm : 0 < m) (group : Vector α m) (slots : List α) :
    groups? m hm (group.toList ++ slots) = (groups? m hm slots).map (group :: ·) := by
  have hlength : group.toList.length = m := Vector.length_toList
  cases hlist : group.toList ++ slots with
  | nil =>
      have hnil := (List.append_eq_nil_iff.mp hlist).1
      rw [hnil] at hlength
      simp only [List.length_nil] at hlength
      omega
  | cons slot rest =>
      have htake : (slot :: rest).take m = group.toList := by
        rw [← hlist, List.take_left' hlength]
      have hdrop : (slot :: rest).drop m = slots := by
        rw [← hlist, List.drop_left' hlength]
      have hgroup : ∀ h, (⟨((slot :: rest).take m).toArray, h⟩ : Vector α m) = group :=
        fun h => Vector.toList_inj.mp (by simpa using htake)
      rw [groups?, dif_pos (htake ▸ hlength), hdrop, hgroup]

/-- Groups written one after the other are found again. -/
theorem groups?_flatMap (hm : 0 < m) (groups : List (Vector α m)) :
    groups? m hm (groups.flatMap Vector.toList) = some groups := by
  induction groups with
  | nil => rw [List.flatMap_nil, groups?]
  | cons group rest ih => rw [List.flatMap_cons, groups?_append, ih, Option.map_some]

theorem cut?_of_le {block : Array α} (hn : n ≤ block.size) :
    cut? block n = some (block.take n).toList := if_pos hn

/-- Group `k` of a block that is long enough: its slots from `m * k` on. -/
def group (m : Nat) (block : Array α) (default : α) (k : Nat) : Vector α m :=
  .ofFn fun j => block.getD (k * m + j) default

theorem getElem?_group {block : Array α} (hsize : n * m ≤ block.size) {k j : Nat} (hk : k < n)
    (hj : j < m) (default : α) : block[m * k + j]? = some (group m block default k)[j] := by
  have hlt : k * m + j < n * m := by
    calc k * m + j < k * m + m := Nat.add_lt_add_left hj _
      _ = (k + 1) * m := (Nat.succ_mul k m).symm
      _ ≤ n * m := Nat.mul_le_mul_right m hk
  have hin : k * m + j < block.size := Nat.lt_of_lt_of_le hlt hsize
  simp [group, Nat.mul_comm m k, hin]

/-- A block that is long enough for `n` groups has them at its start. -/
theorem groups?_take (hm : 0 < m) {block : Array α} (hsize : n * m ≤ block.size) (default : α) :
    groups? m hm (block.take (n * m)).toList
      = some (List.ofFn fun k : Fin n => group m block default k) := by
  have hslots : (block.take (n * m)).toList
      = (List.range (n * m)).map fun i => block.getD i default := by
    apply List.ext_getElem
    · simp [hsize]
    · intro i hi _
      have hlt : i < n * m := by simpa [hsize] using hi
      simp [Nat.lt_of_lt_of_le hlt hsize]
  have hgroups := flatMap_ofFn_eq_map_range (n := n) hm (fun slots : Vector α m => slots)
    (group m block default) (fun i => block.getD i default)
    (fun k _ j hj => by rw [group, Vector.getElem_ofFn])
  rw [hslots, ← hgroups]
  exact groups?_flatMap hm _

end Groups

theorem Vertex.slotCount_pos : 0 < Vertex.slotCount := by decide

theorem BatchField.count_pos : 0 < BatchField.count := by decide

/-! ## The six checks -/

/-- What is checked of the layout of a frame. -/
inductive LayoutCheck where
  | sign (block : Block)
  | room (block : Block)
deriving DecidableEq

namespace FrameData

/-- The declared number of records of a block. -/
def count (f : FrameData) : Block → Int32
  | .vertices => f.vertexCount
  | .indices => f.indexCount
  | .batches => f.batchCount

/-- The number of slots that a block holds. -/
def available (f : FrameData) : Block → Nat
  | .vertices => f.vertices.size
  | .indices => f.indices.size
  | .batches => f.batches.size

/-- The checks of `decode` alone: the record counts of a frame that passes. -/
def layout (f : FrameData) : Except RenderError (Nat × Nat × Nat) := do
  let vertexCount ← checkCount .vertices (f.count .vertices)
  let indexCount ← checkCount .indices (f.count .indices)
  let batchCount ← checkCount .batches (f.count .batches)
  checkLength .vertices vertexCount (f.available .vertices)
  checkLength .indices indexCount (f.available .indices)
  checkLength .batches batchCount (f.available .batches)
  return (vertexCount, indexCount, batchCount)

/-- Decoding on the blocks themselves; there is no result where a block is cut
beyond its end or into broken records. -/
def decodeInPlace (f : FrameData) : Option (Except RenderError DecodedFrame) :=
  match f.layout with
  | .error e => some (.error e)
  | .ok (vertexCount, indexCount, batchCount) => do
      let vertices ← groups? Vertex.slotCount Vertex.slotCount_pos
        (← cut? f.vertices (vertexCount * Vertex.slotCount))
      let batches ← groups? BatchField.count BatchField.count_pos
        (← cut? f.batches (batchCount * BatchField.count))
      let indices ← cut? f.indices indexCount
      return .ok
        { vertices := vertices.map .ofSlots
          indices := indices
          batches := batches.map .ofFields }

end FrameData

namespace LayoutCheck

/-- The checks as they follow each other. -/
def order : List LayoutCheck :=
  [.sign .vertices, .sign .indices, .sign .batches, .room .vertices, .room .indices, .room .batches]

/-- When a frame fails a check. -/
def Fails (f : FrameData) : LayoutCheck → Prop
  | .sign block => (f.count block).toInt < 0
  | .room block => (f.available block : Int) < (f.count block).toInt * block.stride

instance (f : FrameData) : DecidablePred (Fails f)
  | .sign _ => Int.decLt _ _
  | .room _ => Int.decLt _ _

/-- The error that reports a check. -/
def report (f : FrameData) : LayoutCheck → RenderError
  | .sign block => .invalidBuffer (.negativeCount block (f.count block).toInt)
  | .room block =>
      .invalidBuffer (.tooShort block (f.available block)
        ((f.count block).toInt.toNat * block.stride) (f.count block).toInt.toNat)

end LayoutCheck

namespace FrameData

open LayoutCheck

variable {f : FrameData}

theorem checkCount_eq (f : FrameData) (block : Block) :
    checkCount block (f.count block) =
      if Fails f (.sign block) then .error (report f (.sign block))
      else .ok (f.count block).toInt.toNat := by
  have hsign : f.count block < 0 ↔ Fails f (.sign block) := Int32.lt_iff_toInt_lt
  simp only [checkCount, hsign, report]

theorem checkLength_eq (f : FrameData) (block : Block) :
    checkLength block (f.count block).toInt.toNat (f.available block) =
      if Fails f (.room block) then .error (report f (.room block)) else .ok () := by
  have hfit := Nat.not_le.mpr (count_mul_stride_lt block (f.count block))
  have hroom : f.available block < (f.count block).toInt.toNat * block.stride
      ↔ Fails f (.room block) := by
    unfold Fails
    cases block <;> simp only [Block.stride, Vertex.slotCount, BatchField.count] <;> omega
  simp only [checkLength, hfit, hroom, report, if_false]

theorem ite_error_bind {ε α β : Type} (c : Prop) [Decidable c] (e : ε) (a : α)
    (next : α → Except ε β) :
    ((if c then .error e else .ok a) >>= next) = if c then .error e else next a := by
  split <;> rfl

theorem layout_eq_reportFirst (f : FrameData) :
    f.layout = (reportFirst (Fails f) (report f) order).map fun _ =>
      (f.vertexCount.toInt.toNat, f.indexCount.toInt.toNat, f.batchCount.toInt.toNat) := by
  simp only [layout, checkCount_eq, checkLength_eq, ite_error_bind, order, reportFirst,
    apply_ite (Except.map _)]
  rfl

theorem decode_eq_layout_bind (f : FrameData) :
    f.decode = f.layout >>= fun counts => .ok
      { vertices := .ofFn fun k : Fin counts.1 => vertexAt f.vertices k
        indices := (f.indices.take counts.2.1).toList
        batches := .ofFn fun k : Fin counts.2.2 => batchAt f.batches k } := by
  simp only [layout, bind_assoc]
  rfl

/-! ## Why a frame is refused -/

theorem decode_eq_error_iff {e : RenderError} :
    f.decode = .error e ↔ ∃ check, FirstWith (Fails f) order check ∧ e = report f check := by
  rw [decode_eq_layout_bind, except_bind_eq_error_iff, layout_eq_reportFirst,
    ← reportFirst_eq_error_iff]
  cases reportFirst (Fails f) (report f) order with
  | error e' => simp [Except.map]
  | ok u => simp [Except.map]

theorem decode_ne_recordsOverflow (f : FrameData) (block : Block) (records : Nat) :
    f.decode ≠ .error (.invalidBuffer (.recordsOverflow block records)) := by
  intro hrefused
  obtain ⟨check, -, hreport⟩ := decode_eq_error_iff.mp hrefused
  cases check <;> simp [report] at hreport

/-! ## What is read -/

theorem decodeInPlace_eq (f : FrameData) : f.decodeInPlace = some f.decode := by
  have hdecode := f.decode_eq_layout_bind
  unfold decodeInPlace
  cases hlayout : f.layout with
  | error e =>
      rw [hlayout] at hdecode
      rw [hdecode]
      rfl
  | ok counts =>
      rw [hlayout] at hdecode
      obtain ⟨sized, -⟩ := decode_eq_ok_iff.mp hdecode
      obtain rfl : counts
          = (f.vertexCount.toInt.toNat, f.indexCount.toInt.toNat, f.batchCount.toInt.toNat) := by
        rw [layout_eq_reportFirst] at hlayout
        cases hchecks : reportFirst (Fails f) (report f) order with
        | error e => simp [hchecks, Except.map] at hlayout
        | ok u => simpa [hchecks, Except.map, eq_comm] using hlayout
      have hvertices : f.vertexCount.toInt.toNat * Vertex.slotCount ≤ f.vertices.size :=
        sized.vertices
      have hindices : f.indexCount.toInt.toNat ≤ f.indices.size := by
        simpa [Block.stride] using sized.indices
      have hbatches : f.batchCount.toInt.toNat * BatchField.count ≤ f.batches.size := sized.batches
      dsimp only
      rw [cut?_of_le hvertices, cut?_of_le hbatches, cut?_of_le hindices]
      simp only [Option.bind_eq_bind, Option.bind_some]
      rw [groups?_take _ hvertices .zero, groups?_take _ hbatches 0, hdecode]
      simp only [Option.bind_some, List.map_ofFn]
      rfl

section Decoded

variable {d : DecodedFrame} (decoded : f.decode = .ok d) {k : Nat}

include decoded

theorem length_of_decode :
    (d.vertices.length : Int) = f.vertexCount.toInt ∧ (d.indices.length : Int) = f.indexCount.toInt
      ∧ (d.batches.length : Int) = f.batchCount.toInt := by
  obtain ⟨sized, rfl⟩ := decode_eq_ok_iff.mp decoded
  rw [records_vertices_length, records_indices_length sized, records_batches_length]
  exact ⟨Int.toNat_of_nonneg sized.vertexCount, Int.toNat_of_nonneg sized.indexCount,
    Int.toNat_of_nonneg sized.batchCount⟩

theorem vertex_of_decode (hk : k < d.vertices.length) :
    ∃ slots : Vector Binary32 6, (∀ j (hj : j < 6), f.vertices[6 * k + j]? = some slots[j])
      ∧ d.vertices[k]? = some (.ofSlots slots) := by
  obtain ⟨sized, rfl⟩ := decode_eq_ok_iff.mp decoded
  rw [records_vertices_length] at hk
  refine ⟨_, fun j hj => getElem?_group sized.vertices hk hj .zero, ?_⟩
  rw [records, List.getElem?_ofFn, dif_pos hk]
  rfl

theorem index_of_decode (hk : k < d.indices.length) :
    ∃ i, f.indices[k]? = some i ∧ d.indices[k]? = some i := by
  obtain ⟨sized, rfl⟩ := decode_eq_ok_iff.mp decoded
  have hsize : k < f.indices.size := by
    have hrecords := records_indices_length sized
    have := sized.indices
    simp only [Block.stride] at this
    omega
  refine ⟨f.indices[k], Array.getElem?_eq_getElem hsize, ?_⟩
  rw [List.getElem?_eq_getElem hk]
  simp [records]

theorem batch_of_decode (hk : k < d.batches.length) :
    ∃ fields : Vector Int32 16, (∀ j (hj : j < 16), f.batches[16 * k + j]? = some fields[j])
      ∧ d.batches[k]? = some (.ofFields fields) := by
  obtain ⟨sized, rfl⟩ := decode_eq_ok_iff.mp decoded
  rw [records_batches_length] at hk
  refine ⟨_, fun j hj => getElem?_group sized.batches hk hj 0, ?_⟩
  rw [records, List.getElem?_ofFn, dif_pos hk]
  rfl

end Decoded

/-- **Decoding accepts the frames that are large enough, and no others.** On
the blocks themselves it never cuts beyond an end or into a record. A frame is
decoded just if its counts are not negative and each block holds the slots of
its records; there are then as many records as it says, and each is read off its
own slots. Any other frame is refused for the first check in order that it
fails, and none for more slots than 64 bits count. -/
theorem decoding_exact (f : FrameData) :
    f.decodeInPlace = some f.decode
      ∧ ((∃ d, f.decode = .ok d) ↔
          0 ≤ f.vertexCount.toInt ∧ 0 ≤ f.indexCount.toInt ∧ 0 ≤ f.batchCount.toInt
            ∧ 6 * f.vertexCount.toInt ≤ f.vertices.size ∧ f.indexCount.toInt ≤ f.indices.size
            ∧ 16 * f.batchCount.toInt ≤ f.batches.size)
      ∧ (∀ d, f.decode = .ok d →
          ((d.vertices.length : Int) = f.vertexCount.toInt
              ∧ (d.indices.length : Int) = f.indexCount.toInt
              ∧ (d.batches.length : Int) = f.batchCount.toInt)
            ∧ (∀ k < d.vertices.length, ∃ slots : Vector Binary32 6,
              (∀ j (hj : j < 6), f.vertices[6 * k + j]? = some slots[j])
                ∧ d.vertices[k]? = some (.ofSlots slots))
            ∧ (∀ k < d.indices.length, ∃ i, f.indices[k]? = some i ∧ d.indices[k]? = some i)
            ∧ ∀ k < d.batches.length, ∃ fields : Vector Int32 16,
              (∀ j (hj : j < 16), f.batches[16 * k + j]? = some fields[j])
                ∧ d.batches[k]? = some (.ofFields fields))
      ∧ (∀ e, f.decode = .error e ↔
          ∃ check, FirstWith (Fails f) order check ∧ e = report f check)
      ∧ ∀ block records, f.decode ≠ .error (.invalidBuffer (.recordsOverflow block records)) := by
  refine ⟨f.decodeInPlace_eq, ?_, ?_, fun e => decode_eq_error_iff, f.decode_ne_recordsOverflow⟩
  · simp only [decode_eq_ok_iff, exists_and_left, exists_eq, and_true]
    constructor
    · rintro ⟨vertexCount, indexCount, batchCount, vertices, indices, batches⟩
      simp only [Block.stride, Vertex.slotCount, BatchField.count] at vertices indices batches
      omega
    · rintro ⟨vertexCount, indexCount, batchCount, vertices, indices, batches⟩
      refine ⟨vertexCount, indexCount, batchCount, ?_, ?_, ?_⟩ <;>
        simp only [Block.stride, Vertex.slotCount, BatchField.count] <;> omega
  · intro d decoded
    exact ⟨length_of_decode decoded, fun k hk => vertex_of_decode decoded hk,
      fun k hk => index_of_decode decoded hk, fun k hk => batch_of_decode decoded hk⟩

/-- A frame with something behind each block, decoded in place; and the same
with counts that are wrong in two ways. Every sign is looked at before any room. -/
theorem decoding_exact_sample :
    (∃ d, untidy.decodeInPlace = some (.ok d)
        ∧ d.batches.length = 1
        ∧ ∃ fields : Vector Int32 16, fields[3] = 7 ∧ d.batches[0]? = some (.ofFields fields))
      ∧ { untidy with vertexCount := 2, batchCount := -1 }.decode
        = .error (.invalidBuffer (.negativeCount .batches (-1)))
      ∧ { untidy with vertexCount := 2, batchCount := 2147483647 }.decode
        = .error (.invalidBuffer (.tooShort .vertices 7 12 2)) := by
  refine ⟨?_, ?_, ?_⟩
  · obtain ⟨inPlace, sized, records, -⟩ := decoding_exact untidy
    obtain ⟨d, decoded⟩ := sized.mpr (by decide)
    obtain ⟨⟨-, -, hcount⟩, -, -, hbatches⟩ := records d decoded
    have hlength : d.batches.length = 1 := Int.ofNat.inj hcount
    obtain ⟨fields, hfields, hbatch⟩ := hbatches 0 (by omega)
    refine ⟨d, by rw [inPlace, decoded], hlength, fields, ?_, hbatch⟩
    exact (Option.some.inj (hfields 3 (by decide))).symm
  · exact ((decoding_exact _).2.2.2.1 _).mpr
      ⟨.sign .batches, ⟨order.take 2, order.drop 3, rfl, by decide, by decide⟩, rfl⟩
  · exact ((decoding_exact _).2.2.2.1 _).mpr
      ⟨.room .vertices, ⟨order.take 3, order.drop 4, rfl, by decide, by decide⟩, rfl⟩

end FrameData

end SpriteRenderer

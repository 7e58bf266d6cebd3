import SpriteRenderer.Proofs.FrameCounters
import SpriteRenderer.Proofs.QuadFrame

/-!
# Batches as tiles of the index buffer

`Covers` says of batches which quads they draw, run by run. Here the same is
said by indices alone: a `Tiling` of the pushes takes up where the batch before
it ends, from the first index to the last, and every quad lies in a batch of
its own texture id and blend mode. The two agree (`Covers.tiling`,
`Tiling.covers`).

There is a batch for every change of texture id or blend mode at least, and just
as many if no two neighbours could be one (`Covers.length_changes_le`,
`Covers.length_changes_eq`). So merged batches are the fewest of all
(`Covers.length_le_of_isChain`).
-/

namespace SpriteRenderer

/-! ## Tilings -/

/-- Batches, the oldest first, that follow on from index `start` to `stop`. -/
def Tiles : Int → List Batch → Int → Prop
  | start, [], stop => start = stop
  | start, b :: rest, stop => b.indexStart.toInt = start ∧ Tiles b.indexEnd rest stop

/-- Two batches that cannot be one. -/
def Batch.Differs (a b : Batch) : Prop :=
  a.textureId ≠ b.textureId ∨ a.blendMode ≠ b.blendMode

/-- Batches, the oldest first, that draw all pushes in order, two triangles for
each quad. -/
structure Tiling (batches : List Batch) (pushes : List QuadPush) : Prop where
  tiles : Tiles 0 batches (6 * pushes.length)
  pairs : ∀ b ∈ batches, 0 < b.triangleCount.toInt ∧ 2 ∣ b.triangleCount.toInt
  own : ∀ (k : Nat) (p : QuadPush), pushes[k]? = some p → ∃ b ∈ batches,
    b.indexStart.toInt ≤ 6 * k ∧ 6 * k + 6 ≤ b.indexEnd
      ∧ p.textureId = b.textureId ∧ p.blend = b.blendMode

section Tiles

variable {batches : List Batch} {b : Batch} {start stop : Int}

theorem tiles_concat :
    Tiles start (batches ++ [b]) stop ↔
      Tiles start batches b.indexStart.toInt ∧ b.indexEnd = stop := by
  induction batches generalizing start with
  | nil => simp [Tiles, eq_comm]
  | cons a rest ih => simp [Tiles, ih, and_assoc]

theorem Tiles.bounds (tiles : Tiles start batches stop)
    (pairs : ∀ b ∈ batches, 0 < b.triangleCount.toInt ∧ 2 ∣ b.triangleCount.toInt) :
    start ≤ stop ∧ 6 ∣ stop - start ∧ ∀ b ∈ batches, b.indexEnd ≤ stop := by
  induction batches generalizing start with
  | nil =>
      obtain rfl : start = stop := tiles
      exact ⟨Int.le_refl _, by simp, by simp⟩
  | cons a rest ih =>
      obtain ⟨hstart, hrest⟩ := tiles
      obtain ⟨hle, hsix, hends⟩ := ih hrest fun b hb => pairs b (List.mem_cons_of_mem a hb)
      have hpair := pairs a List.mem_cons_self
      have hend : a.indexEnd = start + a.triangleCount.toInt * 3 := by
        rw [← hstart]
        rfl
      refine ⟨by omega, by omega, ?_⟩
      intro b hb
      rcases List.mem_cons.mp hb with rfl | hb
      · exact hle
      · exact hends b hb

end Tiles

/-! ## Tilings and covers -/

section Covers

variable {batches : List Batch} {pushes : List QuadPush}

theorem Covers.tiling (cover : Covers batches pushes)
    (hroom : pushes.length ≤ QuadFrame.maxQuads) : Tiling batches.reverse pushes := by
  have hmax : QuadFrame.maxQuads = 16384 := rfl
  induction cover with
  | nil =>
      refine ⟨rfl, ?_, ?_⟩
      · intro b hb
        cases hb
      · intro k p hp
        cases hp
  | @cons b batches pushes run before nonempty alike start triangles ih =>
      rw [List.length_append] at hroom
      obtain ⟨tiles, pairs, own⟩ := ih (by omega)
      have hpos := List.length_pos_iff.mpr nonempty
      have hstart : b.indexStart.toInt = 6 * pushes.length := by
        rw [start, Int32.toInt_ofNat_of_lt (by omega)]
        omega
      have hcount : b.triangleCount.toInt = 2 * run.length := by
        rw [triangles, Int32.toInt_ofNat_of_lt (by omega)]
        omega
      have hend : b.indexEnd = 6 * (pushes.length + run.length) := by
        unfold Batch.indexEnd Batch.indexLength
        omega
      rw [List.reverse_cons]
      refine ⟨?_, ?_, ?_⟩
      · rw [tiles_concat, hstart, hend, List.length_append]
        exact ⟨tiles, by omega⟩
      · intro a ha
        rcases List.mem_append.mp ha with ha | ha
        · exact pairs a ha
        · obtain rfl := List.mem_singleton.mp ha
          omega
      · intro k p hp
        by_cases hk : k < pushes.length
        · rw [List.getElem?_append_left hk] at hp
          obtain ⟨a, ha, hown⟩ := own k p hp
          exact ⟨a, List.mem_append_left _ ha, hown⟩
        · rw [List.getElem?_append_right (Nat.not_lt.mp hk)] at hp
          obtain ⟨hlt, -⟩ := List.getElem?_eq_some_iff.mp hp
          refine ⟨b, List.mem_append_right _ (List.mem_singleton_self b), by omega, by omega,
            alike p (List.mem_of_getElem? hp)⟩

theorem eq_ofNat_of_toInt {x : Int32} {n : Nat} (h : x.toInt = n) : x = .ofNat n := by
  rw [← x.ofInt_toInt, h, Int32.ofInt_eq_ofNat]

theorem Tiling.covers (tiling : Tiling batches pushes) : Covers batches.reverse pushes := by
  induction batches using List.reverseRecOn generalizing pushes with
  | nil =>
      have hzero : (0 : Int) = 6 * pushes.length := tiling.tiles
      obtain rfl : pushes = [] := List.eq_nil_of_length_eq_zero (by omega)
      exact .nil
  | append_singleton earlier b ih =>
      obtain ⟨tiles, pairs, own⟩ := tiling
      obtain ⟨tiles, hend⟩ := tiles_concat.mp tiles
      have hearlier : ∀ a ∈ earlier, 0 < a.triangleCount.toInt ∧ 2 ∣ a.triangleCount.toInt :=
        fun a ha => pairs a (List.mem_append_left _ ha)
      obtain ⟨hnonneg, hsix, hends⟩ := tiles.bounds hearlier
      have hpair := pairs b (List.mem_append_right _ (List.mem_singleton_self b))
      unfold Batch.indexEnd Batch.indexLength at hend
      -- The last batch starts with a quad, since every batch before it is made of quads.
      obtain ⟨m, hm⟩ : ∃ m : Nat, b.indexStart.toInt = 6 * m :=
        ⟨(b.indexStart.toInt / 6).toNat, by omega⟩
      have hmlt : m < pushes.length := by omega
      have hcovers : Covers earlier.reverse (pushes.take m) := by
        refine ih ⟨?_, hearlier, ?_⟩
        · rw [List.length_take, Nat.min_eq_left (Nat.le_of_lt hmlt), ← hm]
          exact tiles
        · intro k p hp
          have hk : k < m := by
            obtain ⟨hlt, -⟩ := List.getElem?_eq_some_iff.mp hp
            rw [List.length_take] at hlt
            omega
          rw [List.getElem?_take_of_lt hk] at hp
          obtain ⟨a, ha, hlow, hown⟩ := own k p hp
          rcases List.mem_append.mp ha with ha | ha
          · exact ⟨a, ha, hlow, hown⟩
          · obtain rfl := List.mem_singleton.mp ha
            omega
      rw [List.reverse_append, ← List.take_append_drop m pushes]
      refine .cons hcovers ?_ ?_ ?_ ?_
      · exact List.ne_nil_of_length_pos (by rw [List.length_drop]; omega)
      · intro p hp
        obtain ⟨k, hk⟩ := List.mem_iff_getElem?.mp hp
        rw [List.getElem?_drop] at hk
        obtain ⟨a, ha, hlow, hhigh, hown⟩ := own (m + k) p hk
        rcases List.mem_append.mp ha with ha | ha
        · have := hends a ha
          omega
        · obtain rfl := List.mem_singleton.mp ha
          exact hown
      · refine eq_ofNat_of_toInt ?_
        rw [List.length_take, Nat.min_eq_left (Nat.le_of_lt hmlt)]
        omega
      · refine eq_ofNat_of_toInt ?_
        rw [List.length_drop]
        omega

end Covers

/-! ## The fewest batches -/

section Changes

variable {α : Type} [DecidableEq α]

theorem changes_append (held : Option α) (xs ys : List α) :
    changes held (xs ++ ys) = changes held xs ++ changes (xs.getLast?.or held) ys := by
  induction xs generalizing held with
  | nil => rfl
  | cons x rest ih =>
      rw [List.cons_append, changes, changes, ih, List.append_assoc, List.getLast?_cons]
      cases rest.getLast? <;> rfl

theorem changes_replicate (held : Option α) (x : α) (n : Nat) :
    changes held (List.replicate (n + 1) x) = change held x := by
  induction n generalizing held with
  | zero => simp [changes]
  | succ n ih =>
      rw [List.replicate_succ, changes, ih, change, change, if_pos rfl, List.append_nil]

end Changes

/-- What has to agree for a quad to join a batch. -/
def QuadPush.style (p : QuadPush) : Int32 × BlendMode := (p.textureId, p.blend)

def Batch.style (b : Batch) : Int32 × BlendMode := (b.textureId, b.blendMode)

theorem Batch.differs_iff {a b : Batch} : a.Differs b ↔ a.style ≠ b.style := by
  simp only [Differs, style, ne_eq, Prod.mk.injEq, not_and_or]

theorem Batch.Differs.symm {a b : Batch} (h : a.Differs b) : b.Differs a :=
  h.imp Ne.symm Ne.symm

namespace Covers

variable {batches other : List Batch} {b : Batch} {pushes run : List QuadPush}

theorem style_getLast? (cover : Covers batches pushes) :
    (pushes.map QuadPush.style).getLast? = batches.head?.map Batch.style := by
  cases cover with
  | nil => rfl
  | @cons b batches pushes run before nonempty alike start triangles =>
      have hlast := alike _ (List.getLast_mem nonempty)
      rw [List.getLast?_map, List.getLast?_append_of_ne_nil _ nonempty,
        List.getLast?_eq_some_getLast nonempty]
      exact congrArg some (Prod.ext hlast.1 hlast.2)

/-- A run of quads alike changes the style once, if the batch before it has
another. -/
theorem changes_append_run (before : Covers batches pushes) (nonempty : run ≠ [])
    (alike : ∀ p ∈ run, p.textureId = b.textureId ∧ p.blend = b.blendMode) :
    changes none ((pushes ++ run).map QuadPush.style)
      = changes none (pushes.map QuadPush.style)
        ++ change (batches.head?.map Batch.style) b.style := by
  have hrun : run.map QuadPush.style = List.replicate (run.length - 1 + 1) b.style := by
    rw [Nat.sub_add_cancel (List.length_pos_iff.mpr nonempty)]
    refine List.eq_replicate_iff.mpr ⟨List.length_map .., ?_⟩
    intro x hx
    obtain ⟨p, hp, rfl⟩ := List.mem_map.mp hx
    exact Prod.ext (alike p hp).1 (alike p hp).2
  rw [List.map_append, changes_append, before.style_getLast?, Option.or_none, hrun,
    changes_replicate]

theorem length_changes_le (cover : Covers batches pushes) :
    (changes none (pushes.map QuadPush.style)).length ≤ batches.length := by
  induction cover with
  | nil => exact Nat.le_refl _
  | cons before nonempty alike _ _ ih =>
      rw [before.changes_append_run nonempty alike, List.length_append, length_change,
        List.length_cons]
      split <;> omega

theorem length_changes_eq (cover : Covers batches pushes)
    (merged : batches.IsChain Batch.Differs) :
    (changes none (pushes.map QuadPush.style)).length = batches.length := by
  induction cover with
  | nil => rfl
  | @cons b batches _ _ before nonempty alike _ _ ih =>
      have hnew : batches.head?.map Batch.style ≠ some b.style := by
        cases batches with
        | nil => exact Option.some_ne_none _ |>.symm
        | cons last rest =>
            have hdiffers := Batch.differs_iff.mp (List.isChain_cons_cons.mp merged).1
            exact fun hsame => hdiffers (Option.some.inj hsame).symm
      rw [before.changes_append_run nonempty alike, List.length_append, length_change,
        if_pos hnew, ih merged.tail, List.length_cons]

/-- No batches that cover the pushes are fewer than merged ones. -/
theorem length_le_of_isChain (cover : Covers batches pushes)
    (merged : batches.IsChain Batch.Differs) (others : Covers other pushes) :
    batches.length ≤ other.length := by
  rw [← cover.length_changes_eq merged]
  exact others.length_changes_le

end Covers

end SpriteRenderer

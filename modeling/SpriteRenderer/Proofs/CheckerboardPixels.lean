import Mathlib
import SpriteRenderer.Proofs.Packing
import SpriteRenderer.Viewer.Checkerboard

/-!
# What is on a checkerboard

A board is its rows one behind the other, and a row its texels, so a texel is
read at a place that its column and row give (`texelAt_rows`), and what is there
depends on its cell only. The cell in the middle is the hole. On a board of at
least one cell it is a whole one, whether or not the board ends with a whole
cell (`middle_within`); on a smaller board it is the only one, and the board cuts
it. Either way it takes as many columns as the smaller of cell and board has
(`filter_middle`), and as many rows.

The second half is about the way a board is filled, texel by texel behind the
bytes so far, with a sum of two words in each turn. `fill_eq_pixels` says that
this sum always fits, and that the two loops leave the same bytes.
-/

namespace SpriteRenderer

namespace Checkerboard

variable {size cell x y : Nat}

/-! ## Texels in place -/

/-- The bytes of the texel in column `x` and row `y`, in rows of `size` texels. -/
def texelAt (size : Nat) (board : List UInt8) (x y : Nat) : List UInt8 :=
  (board.drop ((y * size + x) * 4)).take 4

/-- The cell in the middle, counted along a side. -/
def middle (size cell : Nat) : Nat := size / cell / 2

def row (size cell y : Nat) : List UInt8 :=
  (List.range size).flatMap fun x => texel (middle size cell) (x / cell) (y / cell)

theorem rows_eq (size cell : Nat) :
    rows size cell = (List.range size).flatMap (row size cell) := rfl

theorem length_texel (center cx cy : Nat) : (texel center cx cy).length = 4 := by
  unfold texel
  split
  · rfl
  · split <;> rfl

theorem length_row (size cell y : Nat) : (row size cell y).length = size * 4 := by
  rw [row, length_flatMap_uniform (fun x => length_texel _ (x / cell) (y / cell)),
    List.length_range]

theorem length_rows (size cell : Nat) : (rows size cell).length = 4 * size * size := by
  rw [rows_eq, length_flatMap_uniform (length_row size cell), List.length_range]
  ring

theorem texelAt_rows (hx : x < size) (hy : y < size) :
    texelAt size (rows size cell) x y = texel (middle size cell) (x / cell) (y / cell) := by
  have hrow : ((rows size cell).drop (y * (size * 4))).take (size * 4) = row size cell y :=
    take_drop_flatMap_uniform (length_row size cell) (List.getElem?_range hy)
  have htexel : ((row size cell y).drop (x * 4)).take 4
      = texel (middle size cell) (x / cell) (y / cell) :=
    take_drop_flatMap_uniform (fun x => length_texel _ (x / cell) (y / cell))
      (List.getElem?_range hx)
  -- Four bytes of a row are four bytes of the board: the row ends behind them.
  rw [← htexel, ← hrow, texelAt, List.drop_take, List.take_take, List.drop_drop]
  congr 1
  · omega
  · congr 1
    ring

/-! ## The hole -/

/-- A texel without any opacity. -/
def Transparent (texel : List UInt8) : Prop := texel[3]? = some 0

instance : DecidablePred Transparent := fun texel =>
  inferInstanceAs (Decidable (texel[3]? = some 0))

theorem transparent_texel_iff {center cx cy : Nat} :
    Transparent (texel center cx cy) ↔ cx = center ∧ cy = center := by
  unfold texel
  split
  · next hcenter => exact iff_of_true (by decide) hcenter
  · next hcenter =>
      refine iff_of_false ?_ hcenter
      split <;> decide

theorem middle_within (hcell : 0 < cell) (hwhole : cell ≤ size) :
    (middle size cell + 1) * cell ≤ size := by
  have hcells : 0 < size / cell := Nat.div_pos hwhole hcell
  calc (middle size cell + 1) * cell
      ≤ size / cell * cell := Nat.mul_le_mul_right cell (by rw [middle]; omega)
    _ ≤ size := Nat.div_mul_le_self size cell

theorem filter_middle (hcell : 0 < cell) :
    ((Finset.range size).filter fun x => x / cell = middle size cell)
      = Finset.Ico (middle size cell * cell) (middle size cell * cell + min size cell) := by
  ext x
  rw [Finset.mem_filter, Finset.mem_range, Finset.mem_Ico, Nat.div_eq_iff hcell]
  rcases Nat.le_total cell size with hwhole | hpart
  · have hwithin := middle_within hcell hwhole
    rw [Nat.add_mul] at hwithin
    omega
  -- A board of at most one cell has no cell but the first.
  · have hcells : size / cell ≤ 1 := Nat.div_le_of_le_mul (by omega)
    have hmiddle : middle size cell = 0 := Nat.div_eq_of_lt (Nat.lt_succ_of_le hcells)
    rw [hmiddle]
    omega

theorem card_middle (hcell : 0 < cell) :
    ((Finset.range size ×ˢ Finset.range size).filter fun p =>
      p.1 / cell = middle size cell ∧ p.2 / cell = middle size cell).card = min size cell ^ 2 := by
  rw [Finset.filter_product (fun x => x / cell = middle size cell)
    (fun y => y / cell = middle size cell), Finset.card_product, filter_middle hcell,
    Nat.card_Ico, Nat.add_sub_cancel_left, sq]

/-! ## Which boards there are -/

/-- A board is counted first, its texels and then their bytes. -/
theorem counted_bind {α : Type} (size : Nat) (rest : Except Fault α) :
    (do
      let area ← fitUnsigned 32 (size * size)
      let _ ← fitUnsigned 32 (area * 4)
      rest) = if 4 * size * size < 2 ^ 32 then rest else .error .overflow := by
  have hbytes : 4 * size * size = size * size * 4 := by ring
  rw [hbytes]
  by_cases harea : size * size < 2 ^ 32
  · rw [fitUnsigned_eq_ok_iff.mpr ⟨harea, rfl⟩]
    show fitUnsigned 32 (size * size * 4) >>= (fun _ => rest) = _
    split
    · next hfits =>
        rw [fitUnsigned_eq_ok_iff.mpr ⟨hfits, rfl⟩]
        rfl
    · next hfits =>
        rw [fitUnsigned_eq_error_iff.mpr ⟨Nat.not_lt.mp hfits, rfl⟩]
        rfl
  · rw [fitUnsigned_eq_error_iff.mpr ⟨Nat.not_lt.mp harea, rfl⟩, if_neg (by omega)]
    rfl

theorem pixels_eq (size cell : Nat) :
    pixels size cell =
      if 4 * size * size < 2 ^ 32 then
        if cell = 0 then .error .zeroDivisor else .ok (rows size cell)
      else .error .overflow :=
  counted_bind size _

theorem pixels_eq_ok (hcell : 0 < cell) (hsize : 4 * size * size < 2 ^ 32) :
    pixels size cell = .ok (rows size cell) := by
  rw [pixels_eq, if_pos hsize, if_neg (Nat.ne_of_gt hcell)]

theorem exists_fault (h : cell = 0 ∨ 2 ^ 32 ≤ 4 * size * size) :
    ∃ fault, pixels size cell = .error fault := by
  rw [pixels_eq]
  split
  · next hsize =>
      rcases h with hcell | hbeyond
      · exact ⟨_, if_pos hcell⟩
      · exact absurd hsize (Nat.not_lt.mpr hbeyond)
  · exact ⟨_, rfl⟩

/-! ## Texel by texel -/

/-- The bytes so far, and the texel in column `x` and row `y` behind them. A
cell off the middle has its coordinates added up in 32 bits. -/
def appendTexel (size cell y : Nat) (bytes : List UInt8) (x : Nat) : Except Fault (List UInt8) :=
  if x / cell = middle size cell ∧ y / cell = middle size cell then
    .ok (bytes ++ hole)
  else do
    let sum ← fitUnsigned 32 (x / cell + y / cell)
    .ok (bytes ++ if sum % 2 = 0 then lightTone else darkTone)

def appendRow (size cell : Nat) (bytes : List UInt8) (y : Nat) : Except Fault (List UInt8) :=
  (List.range size).foldlM (appendTexel size cell y) bytes

/-- A board, filled row by row and texel by texel. -/
def fill (size cell : Nat) : Except Fault (List UInt8) := do
  let area ← fitUnsigned 32 (size * size)
  let _ ← fitUnsigned 32 (area * 4)
  if cell = 0 then .error .zeroDivisor
  else (List.range size).foldlM (appendRow size cell) []

/-- A loop that appends something in each of its turns. The induction is on the
turns, over any bytes before them. -/
theorem foldlM_append_eq {ε α β : Type} {step : List β → α → Except ε (List β)} {g : α → List β}
    {xs : List α} (hstep : ∀ x ∈ xs, ∀ before, step before x = .ok (before ++ g x))
    (before : List β) : xs.foldlM step before = .ok (before ++ xs.flatMap g) := by
  induction xs generalizing before with
  | nil => rw [List.flatMap_nil, List.append_nil]; rfl
  | cons x rest ih =>
      rw [List.foldlM_cons, hstep x List.mem_cons_self]
      show rest.foldlM step (before ++ g x) = _
      rw [ih fun y hy => hstep y (List.mem_cons_of_mem _ hy), List.flatMap_cons,
        List.append_assoc]

theorem appendTexel_eq (hsum : x / cell + y / cell < 2 ^ 32) (bytes : List UInt8) :
    appendTexel size cell y bytes x
      = .ok (bytes ++ texel (middle size cell) (x / cell) (y / cell)) := by
  unfold appendTexel texel
  split
  · rfl
  · rw [fitUnsigned_eq_ok_iff.mpr ⟨hsum, rfl⟩]
    rfl

/-- Cells are numbered below the side of the board, whose square is small. -/
theorem sum_lt (hsize : 4 * size * size < 2 ^ 32) (hx : x < size) (hy : y < size) :
    x / cell + y / cell < 2 ^ 32 := by
  have hcolumn := Nat.div_le_self x cell
  have hrow := Nat.div_le_self y cell
  have hside := Nat.le_mul_self size
  rw [Nat.mul_assoc] at hsize
  omega

theorem appendRow_eq (hsize : 4 * size * size < 2 ^ 32) (hy : y < size) (bytes : List UInt8) :
    appendRow size cell bytes y = .ok (bytes ++ row size cell y) :=
  foldlM_append_eq (fun _ hx => appendTexel_eq (sum_lt hsize (List.mem_range.mp hx) hy)) bytes

theorem fill_eq_pixels (size cell : Nat) : fill size cell = pixels size cell := by
  have hfill : fill size cell =
      if 4 * size * size < 2 ^ 32 then
        if cell = 0 then .error .zeroDivisor
        else (List.range size).foldlM (appendRow size cell) []
      else .error .overflow := counted_bind size _
  rw [hfill, pixels_eq]
  split
  · next hsize =>
      have hrow : ∀ y ∈ List.range size, ∀ bytes,
          appendRow size cell bytes y = .ok (bytes ++ row size cell y) :=
        fun y hy => appendRow_eq hsize (List.mem_range.mp hy)
      rw [foldlM_append_eq hrow, ← rows_eq, List.nil_append]
  · rfl

/-! ## What a board shows -/

/-- What a board of `size` by `size` texels shows, in cells of `cell` by `cell`:
nothing in the middle cell, and one of two tones in each of the others. -/
structure Shows (size cell : Nat) (board : List UInt8) : Prop where
  length : board.length = 4 * size * size
  texels : ∀ x < size, ∀ y < size, texelAt size board x y =
    if x / cell = middle size cell ∧ y / cell = middle size cell then [0, 0, 0, 0]
    else if Even (x / cell + y / cell) then lightTone else darkTone
  solid : ∀ x < size, ∀ y < size, ¬ Transparent (texelAt size board x y) →
    (texelAt size board x y)[3]? = some 0xff
  count : ((Finset.range size ×ˢ Finset.range size).filter fun p =>
    Transparent (texelAt size board p.1 p.2)).card = min size cell ^ 2
  whole : cell ≤ size → (middle size cell + 1) * cell ≤ size
    ∧ ∀ x < size, ∀ y < size, Transparent (texelAt size board x y) ↔
      (middle size cell * cell ≤ x ∧ x < (middle size cell + 1) * cell)
        ∧ middle size cell * cell ≤ y ∧ y < (middle size cell + 1) * cell

theorem solid_texel {center cx cy : Nat} (h : ¬ Transparent (texel center cx cy)) :
    (texel center cx cy)[3]? = some 0xff := by
  unfold texel at h ⊢
  split
  · next hcenter =>
      rw [if_pos hcenter] at h
      exact absurd (by decide) h
  · split <;> rfl

theorem shows_rows (size : Nat) (hcell : 0 < cell) : Shows size cell (rows size cell) where
  length := length_rows size cell
  texels x hx y hy := by
    simp only [Nat.even_iff]
    exact texelAt_rows hx hy
  solid x hx y hy htransparent := by
    rw [texelAt_rows hx hy] at htransparent ⊢
    exact solid_texel htransparent
  count := by
    rw [← card_middle hcell]
    congr 1
    refine Finset.filter_congr fun p hp => ?_
    obtain ⟨hx, hy⟩ := Finset.mem_product.mp hp
    rw [texelAt_rows (Finset.mem_range.mp hx) (Finset.mem_range.mp hy), transparent_texel_iff]
  whole hwhole := by
    refine ⟨middle_within hcell hwhole, fun x hx y hy => ?_⟩
    rw [texelAt_rows hx hy, transparent_texel_iff, Nat.div_eq_iff hcell, Nat.div_eq_iff hcell,
      Nat.add_mul]
    omega

/-- **Every texel of a checkerboard is known.** With cells of some size and at
most `2 ^ 32 - 1` bytes, there is a board of four bytes for each texel, row by row.
A texel depends on its cell: it is transparent black in the middle one, and
has one of two solid tones in the others, in turns. As many texels are
transparent as a cell has, or the whole board if that is smaller; a board of at
least one cell has a hole of one whole cell. With no cell size, or with more
bytes, there is no board but a fault. Filling a board texel by texel, with all
sums in 32 bits, comes to the same. -/
theorem checkerboard_exact (size cell : Nat) :
    (0 < cell ∧ 4 * size * size < 2 ^ 32 →
        ∃ board, pixels size cell = .ok board ∧ Shows size cell board)
      ∧ (cell = 0 ∨ 2 ^ 32 ≤ 4 * size * size → ∃ fault, pixels size cell = .error fault)
      ∧ fill size cell = pixels size cell := by
  refine ⟨?_, exists_fault, fill_eq_pixels size cell⟩
  rintro ⟨hcell, hsize⟩
  exact ⟨_, pixels_eq_ok hcell hsize, shows_rows size hcell⟩

/-- Seven texels in cells of three: the third cell is cut, the middle one is
not. -/
theorem checkerboard_exact_sample :
    (∃ board, pixels 7 3 = .ok board ∧ board.length = 196
        ∧ ((Finset.range 7 ×ˢ Finset.range 7).filter fun p =>
          Transparent (texelAt 7 board p.1 p.2)).card = 9
        ∧ texelAt 7 board 5 3 = [0, 0, 0, 0] ∧ texelAt 7 board 6 3 = darkTone
        ∧ texelAt 7 board 6 6 = lightTone)
      ∧ (∃ fault, pixels 7 0 = .error fault) ∧ ∃ fault, pixels 32768 8 = .error fault := by
  obtain ⟨hboard, -, -⟩ := checkerboard_exact 7 3
  obtain ⟨board, hpixels, shows⟩ := hboard ⟨by decide, by decide⟩
  refine ⟨⟨board, hpixels, shows.length, shows.count, ?_, ?_, ?_⟩,
    (checkerboard_exact 7 0).2.1 (.inl rfl), (checkerboard_exact 32768 8).2.1 (.inr (by decide))⟩
  · exact shows.texels 5 (by decide) 3 (by decide)
  · exact shows.texels 6 (by decide) 3 (by decide)
  · exact shows.texels 6 (by decide) 6 (by decide)

end Checkerboard

end SpriteRenderer

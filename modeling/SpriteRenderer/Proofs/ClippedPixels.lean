import Mathlib
import SpriteRenderer.Proofs.PassReplay

/-!
# Clips are intersections of pixel sets

A target and a scissor rectangle are both sets of pixels, and what `clampTo`
gives is their intersection (`pixels_of_clampTo`), or nothing where they have no
pixel in common (`isSome_clampTo_iff`). Rows and columns do not mix, so all of
this is one statement about an axis: moving both edges onto the target cuts
the span between them down to it, wherever they lie (`onAxis_eq_Ico`).

Edges are signed words and sizes unsigned ones. `clampWords` and
`ClipWords.within` are the same in words, with the casts, the subtraction that
stops at zero and the one that must not wrap; that they come to what is said of
numbers is `toClip_clampWords` and `toClip_within`.
-/

namespace SpriteRenderer

/-! ## Pixels -/

/-- The places on an axis of `limit` pixels that lie between two edges. -/
def onAxis (limit : Nat) (low high : Int32) : Set Int :=
  Set.Ico 0 (limit : Int) ∩ Set.Ico low.toInt high.toInt

/-- The pixels of a target, by column and row, that lie in a rectangle. -/
def ScissorRect.pixels (r : ScissorRect) (width height : Nat) : Set (Int × Int) :=
  onAxis width r.left r.right ×ˢ onAxis height r.top r.bottom

def Clip.pixels (c : Clip) : Set (Int × Int) :=
  Set.Ico (c.x : Int) (c.x + c.width) ×ˢ Set.Ico (c.y : Int) (c.y + c.height)

namespace ScissorRect

variable {r : ScissorRect} {width height : Nat} {clip : Clip}

theorem onAxis_eq_Ico (limit : Nat) (low high : Int32) :
    onAxis limit low high = Set.Ico (clampEdge low limit : Int) (clampEdge high limit) := by
  ext z
  simp only [onAxis, clampEdge, Set.mem_inter_iff, Set.mem_Ico]
  omega

theorem onAxis_nonempty_iff {limit : Nat} {low high : Int32} :
    (onAxis limit low high).Nonempty ↔ clampEdge high limit - clampEdge low limit ≠ 0 := by
  rw [onAxis_eq_Ico, Set.nonempty_Ico]
  omega

theorem clampTo_eq_some_iff :
    r.clampTo width height = some clip ↔
      (r.pixels width height).Nonempty
        ∧ clip = ⟨clampEdge r.left width, clampEdge r.top height,
          clampEdge r.right width - clampEdge r.left width,
          clampEdge r.bottom height - clampEdge r.top height⟩ := by
  rw [pixels, Set.prod_nonempty_iff, onAxis_nonempty_iff, onAxis_nonempty_iff, ← not_or]
  unfold clampTo
  dsimp only
  split
  · next hempty => simp [hempty]
  · next harea =>
      rw [Option.some.injEq, eq_comm]
      exact (and_iff_right harea).symm

theorem isSome_clampTo_iff :
    (r.clampTo width height).isSome = true ↔ (r.pixels width height).Nonempty := by
  rw [Option.isSome_iff_exists]
  constructor
  · rintro ⟨clip, hclip⟩
    exact (clampTo_eq_some_iff.mp hclip).1
  · intro hpixel
    exact ⟨_, clampTo_eq_some_iff.mpr ⟨hpixel, rfl⟩⟩

theorem area_of_clampTo (h : r.clampTo width height = some clip) :
    0 < clip.width ∧ 0 < clip.height := by
  obtain ⟨hpixel, rfl⟩ := clampTo_eq_some_iff.mp h
  rw [pixels, Set.prod_nonempty_iff, onAxis_nonempty_iff, onAxis_nonempty_iff] at hpixel
  exact ⟨Nat.pos_of_ne_zero hpixel.1, Nat.pos_of_ne_zero hpixel.2⟩

theorem pixels_of_clampTo (h : r.clampTo width height = some clip) :
    clip.pixels = r.pixels width height := by
  obtain ⟨hwidth, hheight⟩ := area_of_clampTo h
  obtain ⟨-, rfl⟩ := clampTo_eq_some_iff.mp h
  dsimp only at hwidth hheight
  -- A size is a difference of edges, which is exact where it is not zero.
  have hright : (clampEdge r.left width : Int)
      + (clampEdge r.right width - clampEdge r.left width : Nat) = clampEdge r.right width := by
    omega
  have hbottom : (clampEdge r.top height : Int)
      + (clampEdge r.bottom height - clampEdge r.top height : Nat)
      = clampEdge r.bottom height := by
    omega
  rw [Clip.pixels, pixels, onAxis_eq_Ico, onAxis_eq_Ico, hright, hbottom]

theorem within_of_clampTo (h : r.clampTo width height = some clip) :
    clip.within width height = clip :=
  Clip.within_eq_self (clampTo_bounds h).1 (clampTo_bounds h).2

end ScissorRect

/-! ## The same in words -/

/-- Subtraction that stops at zero. -/
def monus (a b : UInt32) : UInt32 := if b ≤ a then a - b else 0

/-- Subtraction, where it does not wrap. -/
def minus? (a b : UInt32) : Option UInt32 := if b ≤ a then some (a - b) else none

/-- A clip of words. -/
structure ClipWords where
  x : UInt32
  y : UInt32
  width : UInt32
  height : UInt32
deriving DecidableEq

namespace ClipWords

def toClip (c : ClipWords) : Clip := ⟨c.x.toNat, c.y.toNat, c.width.toNat, c.height.toNat⟩

theorem toClip_inj {c c' : ClipWords} (h : c.toClip = c'.toClip) : c = c' := by
  obtain ⟨hx, hy, hwidth, hheight⟩ := Clip.mk.inj h
  rw [ClipWords.mk.injEq]
  exact ⟨UInt32.toNat_inj.mp hx, UInt32.toNat_inj.mp hy, UInt32.toNat_inj.mp hwidth,
    UInt32.toNat_inj.mp hheight⟩

/-- The clip cut down to a target, unless what is left of the target behind
its origin cannot be subtracted. -/
def within (c : ClipWords) (width height : UInt32) : Option ClipWords := do
  let x := min c.x width
  let y := min c.y height
  let right ← minus? width x
  let below ← minus? height y
  return ⟨x, y, min c.width right, min c.height below⟩

end ClipWords

namespace ScissorRect

def clampEdgeWord (edge : Int32) (limit : UInt32) : UInt32 := min (max edge 0).toUInt32 limit

def clampWords (r : ScissorRect) (width height : UInt32) : Option ClipWords :=
  let x := clampEdgeWord r.left width
  let y := clampEdgeWord r.top height
  let w := monus (clampEdgeWord r.right width) x
  let h := monus (clampEdgeWord r.bottom height) y
  if w = 0 ∨ h = 0 then none else some ⟨x, y, w, h⟩

end ScissorRect

section Words

theorem toNat_min (a b : UInt32) : (min a b).toNat = min a.toNat b.toNat := by
  show (if a ≤ b then a else b).toNat = _
  split
  · next hle => rw [Nat.min_eq_left (UInt32.le_iff_toNat_le.mp hle)]
  · next hle =>
      rw [UInt32.le_iff_toNat_le, Nat.not_le] at hle
      rw [Nat.min_eq_right (Nat.le_of_lt hle)]

theorem toNat_monus (a b : UInt32) : (monus a b).toNat = a.toNat - b.toNat := by
  unfold monus
  split
  · next hle => exact UInt32.toNat_sub_of_le _ _ hle
  · next hle =>
      rw [UInt32.le_iff_toNat_le, Nat.not_le] at hle
      exact (Nat.sub_eq_zero_of_le (Nat.le_of_lt hle)).symm

theorem minus?_of_le {a b : UInt32} (hle : b ≤ a) : minus? a b = some (monus a b) := by
  rw [minus?, monus, if_pos hle, if_pos hle]

/-- A negative edge is moved to zero before it is cast, and a cast of any other
keeps its value. -/
theorem toNat_clampEdgeWord (edge : Int32) (limit : UInt32) :
    (ScissorRect.clampEdgeWord edge limit).toNat = ScissorRect.clampEdge edge limit.toNat := by
  have hmoved : (max edge 0).toUInt32.toNat = edge.toInt.toNat := by
    show (if edge ≤ 0 then 0 else edge).toUInt32.toNat = _
    split
    · next hle =>
        rw [Int32.le_iff_toInt_le, Int32.toInt_zero] at hle
        exact (Int.toNat_of_nonpos hle).symm
    · next hle =>
        rw [Int32.le_iff_toInt_le, Int32.toInt_zero, Int.not_le] at hle
        exact Int32.toNat_toUInt32_of_le (Int32.le_iff_toInt_le.mpr (Int.le_of_lt hle))
  rw [ScissorRect.clampEdgeWord, ScissorRect.clampEdge, toNat_min, hmoved]

theorem toClip_clampWords (r : ScissorRect) (width height : UInt32) :
    (r.clampWords width height).map ClipWords.toClip = r.clampTo width.toNat height.toNat := by
  have hzero : ∀ a : UInt32, a = 0 ↔ a.toNat = 0 := fun a => UInt32.toNat_inj.symm
  simp only [ScissorRect.clampWords, ScissorRect.clampTo, hzero,
    apply_ite (Option.map ClipWords.toClip), Option.map_none, Option.map_some, ClipWords.toClip,
    toNat_monus, toNat_clampEdgeWord]

/-- What is left of the target behind the origin of a clip never wraps. -/
theorem toClip_within (c : ClipWords) (width height : UInt32) :
    ∃ c', c.within width height = some c'
      ∧ c'.toClip = c.toClip.within width.toNat height.toNat := by
  have hle : ∀ a b : UInt32, min a b ≤ b := by
    intro a b
    rw [UInt32.le_iff_toNat_le, toNat_min]
    exact Nat.min_le_right _ _
  have hwithin : c.within width height
      = some ⟨min c.x width, min c.y height, min c.width (monus width (min c.x width)),
        min c.height (monus height (min c.y height))⟩ := by
    rw [ClipWords.within, minus?_of_le (hle _ _), minus?_of_le (hle _ _)]
    rfl
  refine ⟨_, hwithin, ?_⟩
  simp only [ClipWords.toClip, Clip.within, toNat_min, toNat_monus]

end Words

namespace ScissorRect

/-- **Clipping is exact.** A rectangle with edges anywhere and in any order
has a clip on a target just if some pixel of the target lies in it. The clip
then has an area, lies on the target, and its pixels are those of the target
that lie in the rectangle. A pass that cuts it down to the target once more
sets it as it is. In words of 32 bits, where edges are cast and sizes
subtracted, all of this comes out the same, and nothing wraps. -/
theorem clipping_exact (r : ScissorRect) (width height : UInt32) :
    ((r.clampTo width.toNat height.toNat).isSome = true
        ↔ (r.pixels width.toNat height.toNat).Nonempty)
      ∧ (∀ clip, r.clampTo width.toNat height.toNat = some clip →
        clip.pixels = r.pixels width.toNat height.toNat
          ∧ 0 < clip.width ∧ 0 < clip.height
          ∧ clip.x + clip.width ≤ width.toNat ∧ clip.y + clip.height ≤ height.toNat
          ∧ ∀ program, SpritePass.replayOp program width.toNat height.toNat (.scissor (some clip))
            = .setScissorRect clip)
      ∧ (r.clampWords width height).map ClipWords.toClip = r.clampTo width.toNat height.toNat
      ∧ ∀ c, r.clampWords width height = some c → c.within width height = some c := by
  refine ⟨isSome_clampTo_iff, ?_, toClip_clampWords r width height, ?_⟩
  · intro clip h
    obtain ⟨hwidth, hheight⟩ := area_of_clampTo h
    obtain ⟨hright, hbottom⟩ := clampTo_bounds h
    refine ⟨pixels_of_clampTo h, hwidth, hheight, hright, hbottom, ?_⟩
    intro program
    rw [SpritePass.replayOp, within_of_clampTo h]
  · intro c h
    have hclip : r.clampTo width.toNat height.toNat = some c.toClip := by
      rw [← toClip_clampWords, h]
      rfl
    obtain ⟨c', hc', hsame⟩ := toClip_within c width height
    rw [within_of_clampTo hclip] at hsame
    rw [hc', ClipWords.toClip_inj hsame]

/-- Edges at both ends of the signed words, on a target wider than they reach,
and edges in the wrong order. -/
theorem clipping_exact_sample :
    (⟨Int32.minValue, 5, Int32.maxValue, 50⟩ : ScissorRect).clampTo 4000000000 480
        = some ⟨0, 5, 2147483647, 45⟩
      ∧ (⟨0, 5, 2147483647, 45⟩ : Clip).pixels
        = (⟨Int32.minValue, 5, Int32.maxValue, 50⟩ : ScissorRect).pixels 4000000000 480
      ∧ ¬ ((⟨100, 0, 50, 480⟩ : ScissorRect).pixels 640 480).Nonempty := by
  have hclip : (⟨Int32.minValue, 5, Int32.maxValue, 50⟩ : ScissorRect).clampTo 4000000000 480
      = some ⟨0, 5, 2147483647, 45⟩ := by decide
  obtain ⟨-, hexact, -, -⟩ :=
    clipping_exact ⟨Int32.minValue, 5, Int32.maxValue, 50⟩ 4000000000 480
  refine ⟨hclip, (hexact _ hclip).1, ?_⟩
  intro hpixel
  have hsome := (clipping_exact ⟨100, 0, 50, 480⟩ 640 480).1.mpr hpixel
  exact absurd hsome (by decide)

end ScissorRect

end SpriteRenderer

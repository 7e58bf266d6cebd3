import Mathlib.Algebra.Order.Ring.Int
import SpriteRenderer.Projection

/-!
# Two extents of one viewport

Clips are cut to `Viewport.extent`, where a size that is negative or not a
number counts as nothing; a render pass has the `Viewport.passExtent`,
where such a size counts as one pixel. The second is never smaller
(`extent_le_passExtent`), for any pair of bit patterns, so a clip that was
cut to the first needs no cutting to the second.

The only float in between that needs a look is one that is not above one:
its integer part is at most one (`toUInt32_le_one`). With a significand
below `2 ^ 24` and an exponent of at most `-23` this is a fact about
shifting a natural number to the right.
-/

namespace SpriteRenderer

open Float.Model (UnpackedFloat Format)

namespace Binary32

/-! ## Integer parts -/

theorem repeat_shiftRightOne_mantissa (em : UnpackedFloat.ExtendedMantissa) (k : Nat) :
    (k.repeat UnpackedFloat.ExtendedMantissa.shiftRightOne em).mantissa = em.mantissa / 2 ^ k := by
  induction k with
  | zero => simp [Nat.repeat]
  | succ k ih =>
      simp only [Nat.repeat, UnpackedFloat.ExtendedMantissa.shiftRightOne, ih]
      rw [Nat.div_div_eq_div_mul, Nat.pow_succ]

/-- Digits below the units place are cut off. -/
theorem roundToInt_of_nonpos {sign : UnpackedFloat.Sign} {m : Nat} {e : Int} (he : e ≤ 0) :
    UnpackedFloat.roundToInt sign m e = sign.apply (m / 2 ^ (-e).toNat : Nat) := by
  have hshift : (e - 0).toNat = 0 := by omega
  have hamount : (0 - (e - ((0 : Nat) : Int))).toNat = (-e).toNat := by omega
  simp only [UnpackedFloat.roundToInt, UnpackedFloat.decreaseExponent,
    UnpackedFloat.shiftToExponent, hshift, hamount, Nat.shiftLeft_zero]
  exact congrArg (fun n : Nat => sign.apply n) (repeat_shiftRightOne_mantissa _ _)

theorem mantissa_lt_of_unpack {b : BitVec 32} {sign : UnpackedFloat.Sign} {m : Nat} {e : Int}
    {hm : 0 < m} (h : UnpackedFloat.unpack .binary32 b = .finite sign m e hm) : m < 2 ^ 24 := by
  unfold UnpackedFloat.unpack at h
  dsimp only at h
  by_cases hlast : @UnpackedFloat.unpackExponent .binary32 b = -1#_
  · rw [if_pos hlast] at h
    by_cases hzero : @UnpackedFloat.unpackMantissa .binary32 b = 0#_
    · rw [if_pos hzero] at h
      cases h
    · rw [if_neg hzero] at h
      cases h
  rw [if_neg hlast] at h
  by_cases hfirst : @UnpackedFloat.unpackExponent .binary32 b = 0#_
  · rw [if_pos hfirst] at h
    by_cases hzero : @UnpackedFloat.unpackMantissa .binary32 b = 0#_
    · rw [dif_pos hzero] at h
      cases h
    · rw [dif_neg hzero] at h
      obtain ⟨-, rfl, -⟩ := UnpackedFloat.finite.inj h
      exact Nat.lt_trans (BitVec.isLt _) (by decide)
  · rw [if_neg hfirst] at h
    obtain ⟨-, rfl, -⟩ := UnpackedFloat.finite.inj h
    exact BitVec.isLt _

/-- One, taken apart. -/
def oneUnpacked : UnpackedFloat := .finite .positive (2 ^ 23) (-23) (by decide)

theorem toInt_finite (sign : UnpackedFloat.Sign) (m : Nat) (e : Int) (hm : 0 < m) (n : Int) :
    (UnpackedFloat.finite sign m e hm).toInt 0 n = UnpackedFloat.roundToInt sign m e :=
  rfl

theorem toInt_negative_le (m : Nat) (e : Int) (hm : 0 < m) (n : Int) :
    (UnpackedFloat.finite .negative m e hm).toInt 0 n ≤ 0 := by
  rw [toInt_finite]
  simp only [UnpackedFloat.roundToInt, UnpackedFloat.Sign.apply]
  omega

theorem toInt_positive_le_one {m : Nat} {e : Int} {hm : 0 < m} (hm24 : m < 2 ^ 24)
    (hle : oneUnpacked.lt (.finite .positive m e hm) = false) (n : Int) :
    (UnpackedFloat.finite .positive m e hm).toInt 0 n ≤ 1 := by
  have hcompare : ((compare (-23) e).then (compare (2 ^ 23) m)) ≠ .lt := by
    intro hlt
    have hcompared : oneUnpacked.compare (.finite .positive m e hm) = some .lt :=
      congrArg some hlt
    rw [UnpackedFloat.lt, hcompared] at hle
    cases hle
  rw [toInt_finite]
  rcases Int.lt_trichotomy e (-23) with hlt | rfl | hgt
  · -- The significand is shifted out altogether.
    have hpow : 2 ^ 24 ≤ 2 ^ (-e).toNat := Nat.pow_le_pow_right (by decide) (by omega)
    have hzero : m / 2 ^ (-e).toNat = 0 := Nat.div_eq_of_lt (Nat.lt_of_lt_of_le hm24 hpow)
    rw [roundToInt_of_nonpos (show e ≤ 0 by omega), hzero]
    decide
  · have hm23 : m ≤ 2 ^ 23 := by
      have hnot : compare (2 ^ 23) m ≠ .lt := by simpa using hcompare
      exact Nat.not_lt.mp fun hlt => hnot (Nat.compare_eq_lt.mpr hlt)
    have hone : m / 2 ^ 23 ≤ 1 := Nat.div_le_of_le_mul (by omega)
    rw [roundToInt_of_nonpos (show (-23 : Int) ≤ 0 by decide)]
    exact Int.ofNat_le.mpr hone
  · have hlt : compare (-23) e = .lt := Int.compare_eq_lt.mpr hgt
    exact absurd (by simp [hlt]) hcompare

/-- A float that is not above one has an integer part of at most one. -/
theorem toInt_le_one {b : BitVec 32}
    (hle : oneUnpacked.lt (UnpackedFloat.unpack .binary32 b) = false) (n : Int) :
    (UnpackedFloat.unpack .binary32 b).toInt 0 n ≤ 1 := by
  have hmantissa := @mantissa_lt_of_unpack b
  revert hle hmantissa
  generalize UnpackedFloat.unpack .binary32 b = u
  intro hle hmantissa
  cases u with
  | notANumber => exact Int.zero_le_ofNat 1
  | zero sign => exact Int.zero_le_ofNat 1
  | infinity sign =>
      cases sign with
      | negative => exact Int.zero_le_ofNat 1
      | positive => cases hle
  | finite sign m e hm =>
      cases sign with
      | negative => exact Int.le_trans (toInt_negative_le m e hm n) (Int.zero_le_ofNat 1)
      | positive => exact toInt_positive_le_one (hmantissa rfl) hle n

theorem one_lt_eq (x : Binary32) :
    one.lt x = oneUnpacked.lt x.toFloat32.toModel.unpack := by
  have hone : one.toFloat32.toModel.unpack = oneUnpacked := by rfl
  show decide (decide (Float32.Model.lt one.toFloat32.toModel x.toFloat32.toModel = true) = true) = _
  simp only [Float32.Model.lt, hone, Bool.decide_eq_true]

theorem toUInt32_le_one {x : Binary32} (h : one.lt x = false) : x.toUInt32.toNat ≤ 1 := by
  rw [one_lt_eq] at h
  have hint : (x.toFloat32.toModel.unpack.toInt 0 (UInt32.size - 1)).toNat ≤ 1 :=
    Int.toNat_le.mpr (toInt_le_one h (UInt32.size - 1))
  show (UInt32.ofNatClamp (x.toFloat32.toModel.unpack.toInt 0 (UInt32.size - 1)).toNat).toNat ≤ 1
  rw [UInt32.ofNatClamp, dif_pos (Nat.lt_of_le_of_lt hint (by decide))]
  exact hint

/-! ## Sizes -/

theorem toUInt32_atLeast_le (x : Binary32) :
    (atLeast zero x).toUInt32.toNat ≤ (atLeast one x).toUInt32.toNat := by
  have hzero : zero.toUInt32.toNat = 0 := by decide
  have hone : one.toUInt32.toNat = 1 := by decide
  unfold atLeast
  split
  · split
    · exact Nat.le_refl _
    · next h =>
        rw [hone]
        exact toUInt32_le_one (Bool.not_eq_true _ ▸ h)
  · rw [hzero]
    exact Nat.zero_le _

end Binary32

namespace Viewport

/-- A clip fits the pass if it fits the target. -/
theorem extent_le_passExtent (v : Viewport) :
    v.extent.1 ≤ v.passExtent.1 ∧ v.extent.2 ≤ v.passExtent.2 :=
  ⟨Binary32.toUInt32_atLeast_le v.width, Binary32.toUInt32_atLeast_le v.height⟩

end Viewport

end SpriteRenderer

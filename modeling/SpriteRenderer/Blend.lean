/-!
# Blending

A batch asks for a blend mode by an integer code. Only two codes are known;
every other one is kept as it came and draws like the normal mode, so there
are just two blend functions a device has to offer.
-/

namespace SpriteRenderer

/-- The blend mode of a batch. -/
inductive BlendMode where
  | normal
  | add
  /-- A code with no mode of its own. -/
  | other (code : Int32)
deriving DecidableEq

/-- How a fragment is combined with what is already on the target. -/
inductive BlendFunc where
  /-- `source * alpha + target * (1 - alpha)` -/
  | over
  /-- `source * alpha + target` -/
  | additive
deriving DecidableEq

/-- The source and target factors, as they are listed. -/
def BlendFunc.label : BlendFunc → String
  | .over => "SrcAlphaOneMinusSrcAlpha"
  | .additive => "SrcAlphaOne"

namespace BlendMode

def ofCode (code : Int32) : BlendMode :=
  if code = 0 then .normal else if code = 1 then .add else .other code

def code : BlendMode → Int32
  | .normal => 0
  | .add => 1
  | .other code => code

/-- The blend function a mode draws with. -/
def func : BlendMode → BlendFunc
  | .normal => .over
  | .add => .additive
  | .other _ => .over

/-- A mode that its own code reads back as. -/
def Canonical (m : BlendMode) : Prop := ofCode m.code = m

theorem code_ofCode (c : Int32) : (ofCode c).code = c := by
  unfold ofCode
  split
  · next h => exact h.symm
  · split
    · next h => exact h.symm
    · rfl

/-- The codes of the known modes are theirs alone. -/
theorem canonical_iff {m : BlendMode} :
    m.Canonical ↔ m ≠ .other 0 ∧ m ≠ .other 1 := by
  cases m with
  | normal | add => simp [Canonical, ofCode, code]
  | other c =>
      by_cases hnormal : c = 0
      · simp [hnormal, Canonical, ofCode, code]
      · by_cases hadd : c = 1
        · simp [hadd, Canonical, ofCode, code]
        · simp [hnormal, hadd, Canonical, ofCode, code]

end BlendMode

end SpriteRenderer

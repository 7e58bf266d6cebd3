import SpriteRenderer.Color

/-!
# What the sprite shader computes

The fixed shader program in numbers: the vertex stage moves a colour offset
from `[0, 1]` to `[-1, 1]`, the fragment stage divides a texel by its alpha,
tints it, adds the offset, and discards what has no alpha before or after.
-/

namespace SpriteRenderer

/-- The vertex stage's view of a colour offset. -/
def remapOffset (offset : Rgba Binary32) : Rgba Binary32 :=
  offset.map fun c => (c - .half) * .two

/-- The fragment stage for one sample; `none` is a discarded fragment. A
comparison with a NaN discards nothing. -/
def shadeFragment (texel color offset : Rgba Binary32) : Option (Rgba Binary32) :=
  let alpha := texel.alpha
  if alpha.le .zero then none
  else
    let straight : Rgba Binary32 :=
      ⟨texel.red / alpha, texel.green / alpha, texel.blue / alpha, alpha⟩
    let out := (straight.zipWith (· * ·) color).zipWith (· + ·) offset
    if out.alpha.le .zero then none else some out

end SpriteRenderer

/-!
# Blank characters

The characters of the Unicode property White_Space (version 15.1), as ranges
of code points. Texts are trimmed of them at both ends.
-/

namespace SpriteRenderer

namespace Blank

/-- Closed ranges of code points, ascending. -/
def ranges : List (Nat × Nat) :=
  [(0x09, 0x0d), (0x20, 0x20), (0x85, 0x85), (0xa0, 0xa0), (0x1680, 0x1680), (0x2000, 0x200a),
    (0x2028, 0x2029), (0x202f, 0x202f), (0x205f, 0x205f), (0x3000, 0x3000)]

def isBlank (c : Char) : Bool :=
  ranges.any fun (first, last) => decide (first ≤ c.toNat ∧ c.toNat ≤ last)

example : (ranges.map fun (first, last) => last + 1 - first).sum = 25 := by decide

/-- A zero-width space has no width, but it is not blank. -/
example : isBlank (Char.ofNat 0x200b) = false := by decide

/-- Everything that core takes for whitespace is blank. -/
theorem isBlank_of_isWhitespace {c : Char} (h : c.isWhitespace = true) : isBlank c = true := by
  simp only [Char.isWhitespace, Bool.or_eq_true, decide_eq_true_eq] at h
  rcases h with ((h | h) | h) | h <;> subst h <;> decide

/-- Drops blanks at both ends. -/
def trim (cs : List Char) : List Char :=
  ((cs.dropWhile isBlank).reverse.dropWhile isBlank).reverse

end Blank

end SpriteRenderer

/-!
# Faults

Two kinds of failure are kept apart in this library. A *render error* is an
answer: the caller learns what was wrong with its frame and goes on. A
*fault* ends the whole computation: a fixed-width counter left its range, a
divisor was zero, a table was asked for that no handle could address, or a
range of a buffer that holds nothing. A
faulting computation has no answer and leaves no state behind, so faults
travel in `Except Fault` around everything else.
-/

namespace SpriteRenderer

/-- Why a computation stopped without an answer. -/
inductive Fault where
  /-- A sum or product left the range of its fixed-width integer. -/
  | overflow
  /-- A division by zero. -/
  | zeroDivisor
  /-- A range of a buffer that holds nothing. -/
  | emptyBuffer
  /-- A texture pool with more slots than there are handles. -/
  | capacityBeyondHandles (capacity : Nat)
  /-- A frame clock whose shortest step is longer than its longest. -/
  | clampsOutOfOrder
deriving DecidableEq

/-- The text a fault reports; only an unusable pool size says anything. -/
def Fault.message? : Fault → Option String
  | .capacityBeyondHandles capacity =>
      some s!"texture capacity {capacity} exceeds handle space"
  | _ => none

/-- `n`, provided that it fits into an unsigned integer of `width` bits. -/
def fitUnsigned (width n : Nat) : Except Fault Nat :=
  if n < Nat.pow 2 width then .ok n else .error .overflow

theorem fitUnsigned_eq_ok_iff {width n m : Nat} :
    fitUnsigned width n = .ok m ↔ n < Nat.pow 2 width ∧ m = n := by
  unfold fitUnsigned
  split
  · next h => simp only [h, true_and, Except.ok.injEq, eq_comm]
  · next h => simp only [h, false_and, reduceCtorEq]

theorem fitUnsigned_eq_error_iff {width n : Nat} {fault : Fault} :
    fitUnsigned width n = .error fault ↔ Nat.pow 2 width ≤ n ∧ fault = .overflow := by
  unfold fitUnsigned
  split
  · next h => simp only [Nat.not_le.mpr h, false_and, reduceCtorEq]
  · next h => simp only [Nat.not_lt.mp h, true_and, Except.error.injEq, eq_comm]

end SpriteRenderer

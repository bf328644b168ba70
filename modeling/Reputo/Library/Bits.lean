import Mathlib.Data.Nat.Bitwise

/-!
# Bits of a number

Masks are numbers read bit by bit: what a test against a single bit says, and what a union of
masks holds.
-/

namespace Reputo.Library.Bits

universe u

/-- A test against one bit. -/
theorem and_one_shiftLeft_eq_zero (mask bit : Nat) :
    mask &&& 1 <<< bit = 0 ↔ mask.testBit bit = false := by
  rw [Nat.one_shiftLeft, Nat.and_two_pow]
  cases set : mask.testBit bit with
  | false => simp
  | true => simp

/-- A bit of a union of masks is a bit of what the union starts from, or of one of the masks. -/
theorem testBit_foldl_or {α : Type u} (mask : α → Nat) (bit : Nat) (values : List α)
    (start : Nat) :
    (values.foldl (fun union value => union ||| mask value) start).testBit bit = true ↔
      start.testBit bit = true ∨ ∃ value ∈ values, (mask value).testBit bit = true := by
  induction values generalizing start with
  | nil => simp
  | cons value values ih =>
      rw [List.foldl_cons, ih (start ||| mask value), Nat.testBit_or, Bool.or_eq_true, or_assoc]
      simp only [List.mem_cons, exists_eq_or_imp]

end Reputo.Library.Bits

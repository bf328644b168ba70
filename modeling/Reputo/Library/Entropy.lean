import Mathlib.Analysis.Convex.Jensen
import Mathlib.Analysis.Convex.StdSimplex
import Mathlib.Analysis.SpecialFunctions.Log.Base
import Mathlib.Analysis.SpecialFunctions.Log.NegMulLog

/-!
# Entropy

How evenly a whole is shared among finitely many parts, as the expected logarithm of the shares.
It lies between the entropy of a whole that is one part and that of equal parts, and reaches
either end only there.
-/

namespace Reputo.Library

open Finset Real

variable {ι : Type*} [Fintype ι]

/-- The entropy of the shares. -/
noncomputable def entropy (shares : ι → ℝ) : ℝ := ∑ part, negMulLog (shares part)

variable {shares : ι → ℝ}

theorem share_le_one (whole : shares ∈ stdSimplex ℝ ι) (part : ι) : shares part ≤ 1 := by
  rw [← whole.2]
  exact single_le_sum (fun other _ => whole.1 other) (mem_univ part)

theorem entropy_nonneg (whole : shares ∈ stdSimplex ℝ ι) : 0 ≤ entropy shares :=
  sum_nonneg fun part _ => negMulLog_nonneg (whole.1 part) (share_le_one whole part)

theorem negMulLog_eq_zero_iff {share : ℝ} (nonneg : 0 ≤ share) :
    negMulLog share = 0 ↔ share = 0 ∨ share = 1 := by
  rw [negMulLog, neg_mul, neg_eq_zero, mul_eq_zero, log_eq_zero]
  constructor
  · rintro (zero | zero | one | minus)
    · exact Or.inl zero
    · exact Or.inl zero
    · exact Or.inr one
    · rw [minus] at nonneg
      exact absurd nonneg (by norm_num)
  · rintro (zero | one)
    · exact Or.inl zero
    · exact Or.inr (Or.inr (Or.inl one))

/-- Where one part is the whole, the others are nothing. -/
theorem share_eq_zero_of_ne (whole : shares ∈ stdSimplex ℝ ι) {part other : ι}
    (one : shares part = 1) (different : other ≠ part) : shares other = 0 := by
  classical
  have rest : ∑ third ∈ univ.erase part, shares third = 0 := by
    have sum := add_sum_erase univ shares (mem_univ part)
    rw [whole.2, one] at sum
    linarith
  exact (sum_eq_zero_iff_of_nonneg fun third _ => whole.1 third).mp rest other
    (mem_erase.mpr ⟨different, mem_univ other⟩)

/-- There is no entropy exactly if one part is the whole. -/
theorem entropy_eq_zero_iff (whole : shares ∈ stdSimplex ℝ ι) :
    entropy shares = 0 ↔ ∃ part, shares part = 1 := by
  rw [entropy, sum_eq_zero_iff_of_nonneg fun part _ =>
    negMulLog_nonneg (whole.1 part) (share_le_one whole part)]
  constructor
  · intro zero
    by_contra none
    have empty : ∀ part ∈ univ, shares part = 0 := fun part member =>
      ((negMulLog_eq_zero_iff (whole.1 part)).mp (zero part member)).resolve_right fun one =>
        none ⟨part, one⟩
    have nothing := sum_eq_zero empty
    rw [whole.2] at nothing
    exact one_ne_zero nothing
  · rintro ⟨part, one⟩ other _
    by_cases same : other = part
    · rw [same, one, negMulLog_one]
    · rw [share_eq_zero_of_ne whole one same, negMulLog_zero]

/-- The entropy of equal parts, as the share of every part in it. -/
theorem negMulLog_inv_card : negMulLog (Fintype.card ι : ℝ)⁻¹ =
    (Fintype.card ι : ℝ)⁻¹ * log (Fintype.card ι) := by
  rw [negMulLog, log_inv, neg_mul_neg]

theorem mean_shares (whole : shares ∈ stdSimplex ℝ ι) :
    ∑ part, (Fintype.card ι : ℝ)⁻¹ • shares part = (Fintype.card ι : ℝ)⁻¹ := by
  rw [← smul_sum, whole.2, smul_eq_mul, mul_one]

section Parts

variable [Nonempty ι]

theorem sum_inv_card : ∑ _part : ι, (Fintype.card ι : ℝ)⁻¹ = 1 := by
  rw [sum_const, card_univ, nsmul_eq_mul,
    mul_inv_cancel₀ (Nat.cast_ne_zero.mpr Fintype.card_ne_zero)]

/-- The entropy is at most that of equal parts. -/
theorem entropy_le_log_card (whole : shares ∈ stdSimplex ℝ ι) :
    entropy shares ≤ log (Fintype.card ι) := by
  have positive : (0 : ℝ) < Fintype.card ι := Nat.cast_pos.mpr Fintype.card_pos
  have jensen := concaveOn_negMulLog.le_map_sum (t := univ)
    (fun part _ => (inv_pos.mpr positive).le) sum_inv_card fun part _ => whole.1 part
  rw [mean_shares whole, negMulLog_inv_card, ← smul_sum, smul_eq_mul] at jensen
  exact le_of_mul_le_mul_left jensen (inv_pos.mpr positive)

/-- The entropy is that of equal parts only for equal parts. -/
theorem entropy_eq_log_card_iff (whole : shares ∈ stdSimplex ℝ ι) :
    entropy shares = log (Fintype.card ι) ↔ ∀ part, shares part = (Fintype.card ι : ℝ)⁻¹ := by
  have positive : (0 : ℝ) < Fintype.card ι := Nat.cast_pos.mpr Fintype.card_pos
  have jensen := strictConcaveOn_negMulLog.map_sum_eq_iff (t := univ)
    (fun part _ => inv_pos.mpr positive) sum_inv_card fun part _ => whole.1 part
  rw [mean_shares whole, negMulLog_inv_card, ← smul_sum, smul_eq_mul,
    mul_right_inj' (inv_pos.mpr positive).ne'] at jensen
  rw [eq_comm]
  exact jensen.trans ⟨fun same part => same part (mem_univ part), fun same part _ => same part⟩

end Parts

end Reputo.Library

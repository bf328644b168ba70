import Mathlib.Tactic.NormNum
import Reputo.ProposalEngagement.Pipeline

/-!
# Time weights as weights

The weight of a proposal lies between zero and one, and with it what it earns and costs, unless
the proposal is dated after the computation.
-/

namespace Reputo.ProposalEngagement

open Reputo.Library Reputo.Deepfunding

/-- Parameters in the ranges that the definitions declare. -/
structure DeclaredTimeWeightParams extends TimeWeightParams where
  window_ge : 1 ≤ engagementWindowMonths
  window_le : engagementWindowMonths ≤ 72
  rate_ge : 0 ≤ monthlyDecayRatePercent
  rate_le : monthlyDecayRatePercent ≤ 100

/-- A number between zero and one. -/
def InUnit (value : Number) : Prop := ∃ exactly, value = .real exactly ∧ 0 ≤ exactly ∧ exactly ≤ 1

/-- The time weight of an instant is a weight. -/
structure IsWeight (params : TimeWeightParams) (createdAt now : ℚ) : Prop where
  bounded : InUnit (calculateTimeWeight (.real createdAt) (.real now) params).tw
  antitone : ∀ earlier ≤ createdAt, ∃ weight lower,
    (calculateTimeWeight (.real createdAt) (.real now) params).tw = .real weight ∧
      (calculateTimeWeight (.real earlier) (.real now) params).tw = .real lower ∧ lower ≤ weight
  zero : (calculateTimeWeight (.real createdAt) (.real now) params).tw = 0 ↔
    (calculateTimeWeight (.real createdAt) (.real now) params).isWithinWindow = false
  scores : ∀ (input : ProposalScoreInput) (norm : Number),
    input.timeWeight = calculateTimeWeight (.real createdAt) (.real now) params →
      input.timeWeight.isWithinWindow = true → input.communityScore.norm = some norm →
        InUnit norm → InUnit (computeProposalScore input).proposalReward ∧
          InUnit (computeProposalScore input).proposalPenalty

theorem inUnit_zero : InUnit 0 := ⟨0, rfl, le_refl 0, zero_le_one⟩

theorem InUnit.mul {left right : Number} (leftUnit : InUnit left) (rightUnit : InUnit right) :
    InUnit (left * right) := by
  rcases leftUnit with ⟨left, leftSame, leftNonneg, leftLe⟩
  rcases rightUnit with ⟨right, rightSame, rightNonneg, rightLe⟩
  rw [leftSame, rightSame]
  exact ⟨left * right, rfl, mul_nonneg leftNonneg rightNonneg,
    mul_le_one₀ leftLe rightNonneg rightLe⟩

theorem InUnit.one_sub {value : Number} (inUnit : InUnit value) : InUnit (.real 1 - value) := by
  rcases inUnit with ⟨exactly, same, nonneg, atMost⟩
  rw [same]
  exact ⟨1 - exactly, rfl, sub_nonneg.mpr atMost, sub_le_self 1 nonneg⟩

/-- A weight between zero and one keeps rewards and penalties there. -/
theorem computeProposalScore_inUnit {input : ProposalScoreInput} {norm : Number}
    (rated : input.communityScore.norm = some norm) (normUnit : InUnit norm)
    (weightUnit : InUnit input.timeWeight.tw) :
    InUnit (computeProposalScore input).proposalReward ∧
      InUnit (computeProposalScore input).proposalPenalty := by
  rw [computeProposalScore]
  split
  · exact ⟨inUnit_zero, inUnit_zero⟩
  · rw [rated]
    constructor
    · simp only
      split
      · exact weightUnit.mul normUnit
      · exact inUnit_zero
    · simp only
      split
      · exact weightUnit.mul normUnit.one_sub
      · exact inUnit_zero

/-- The time weight is a weight exactly if the instant has come, or nothing decays. -/
theorem calculateTimeWeight_isWeight_iff (declared : DeclaredTimeWeightParams)
    (createdAt now : ℚ) :
    IsWeight declared.toTimeWeightParams createdAt now ↔
      createdAt ≤ now ∨ declared.monthlyDecayRatePercent = 0 := by
  constructor
  · intro weight
    by_contra neither
    rcases not_or.mp neither with ⟨future, decays⟩
    have unborn : ageAt createdAt now < 0 :=
      div_neg_of_neg_of_pos (by linarith) MONTH_MS_pos
    rcases weight.bounded with ⟨exactly, same, _, atMost⟩
    rw [calculateTimeWeight_real] at same
    have more := one_lt_weightAt (le_trans zero_le_one declared.window_ge)
      (lt_of_le_of_ne declared.rate_ge (Ne.symm decays)) unborn
    cases same
    exact absurd atMost (not_le.mpr more)
  · intro condition
    have born : 0 ≤ ageAt createdAt now ∨ declared.monthlyDecayRatePercent = 0 :=
      condition.imp_left fun past => div_nonneg (sub_nonneg.mpr past) MONTH_MS_pos.le
    have unit : InUnit (calculateTimeWeight (.real createdAt) (.real now)
        declared.toTimeWeightParams).tw := by
      rw [calculateTimeWeight_real]
      exact ⟨_, rfl, weightAt_nonneg _, weightAt_le_one declared.rate_ge born⟩
    exact {
      bounded := unit
      antitone := by
        intro earlier before
        rw [calculateTimeWeight_real, calculateTimeWeight_real]
        refine ⟨_, _, rfl, rfl, weightAt_antitone declared.rate_ge ?_⟩
        exact div_le_div_of_nonneg_right (sub_le_sub_left before now) MONTH_MS_pos.le
      zero := by
        rw [calculateTimeWeight_real, decide_eq_false_iff_not, not_lt]
        constructor
        · exact fun zero => (Number.real.inj zero).le
        · intro nonpos
          exact congrArg Number.real (le_antisymm nonpos (weightAt_nonneg _))
      scores := by
        intro input norm weighed _ rated normUnit
        refine computeProposalScore_inUnit rated normUnit ?_
        rw [weighed]
        exact unit }

/-- A proposal that is dated a day ahead weighs more than one. -/
theorem future_outweighs :
    ¬∀ (declared : DeclaredTimeWeightParams) (createdAt now : ℚ),
      IsWeight declared.toTimeWeightParams createdAt now := by
  intro weights
  rcases (weights ⟨⟨12, 10⟩, by norm_num, by norm_num, by norm_num, by norm_num⟩ 86400000
    0).bounded with ⟨exactly, same, _, atMost⟩
  have weight : (calculateTimeWeight (.real 86400000) (.real 0) ⟨12, 10⟩).tw =
      .real (11 / 10) := by decide +kernel
  cases weight.symm.trans same
  exact absurd atMost (by norm_num)

end Reputo.ProposalEngagement

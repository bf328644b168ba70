import Mathlib.Tactic.Linarith
import Mathlib.Tactic.Positivity
import Reputo.Deepfunding.Mirror
import Reputo.Library.Number
import Reputo.Library.Query

/-!
# Time weights of comments and proposals

Both algorithms over the portal have the same time weight: it loses a constant share with every
whole month, and is zero outside the window.
-/

namespace Reputo.Deepfunding

open Reputo.Library

/-! ## The weight -/

def DECAY_BUCKET_SIZE_MONTHS : ℚ := 1

/-- `1000 * 60 * 60 * 24 * 30.44`. -/
def MONTH_MS : ℚ := 1000 * 60 * 60 * 24 * (3044 / 100)

structure TimeWeightParams where
  engagementWindowMonths : ℚ
  monthlyDecayRatePercent : ℚ
  deriving DecidableEq, Repr

structure TimeWeightResult where
  tw : Number
  ageMonths : Number
  bucketIndex : Number
  isValid : Bool
  isWithinWindow : Bool
  deriving DecidableEq, Repr

/-- The weight of what was created at an instant, which is none for a date that is none. -/
def calculateTimeWeight (createdAt now : Number) (params : TimeWeightParams) : TimeWeightResult :=
  let ageMonths := (now - createdAt) / .real MONTH_MS
  let bucketIndex := (ageMonths / .real DECAY_BUCKET_SIZE_MONTHS).floor
  if ageMonths.ge (.real params.engagementWindowMonths) then
    ⟨0, ageMonths, bucketIndex, true, false⟩
  else
    let tw := Number.max 0
      (.real 1 - bucketIndex * (.real params.monthlyDecayRatePercent / .real 100))
    ⟨tw, ageMonths, bucketIndex, true, tw.gt 0⟩

/-- What the runtime makes of the texts in the database: the instants of dates in milliseconds,
the numbers that texts begin with, the lists of members in JSON, and the order of texts. -/
structure ScoreRuntime where
  parseDate : String → Number
  parseFloat : String → Number
  parseTeamMembers : String → Option (List Int)
  localeCompare : RowOrder String

def computeTimeWeightFromString (js : ScoreRuntime) (createdAtStr : String) (now : ℚ)
    (params : TimeWeightParams) : TimeWeightResult :=
  calculateTimeWeight (js.parseDate createdAtStr) (.real now) params

/-! ## What the weight is -/

/-- The age of what was created at an instant, in months. -/
def ageAt (createdAt now : ℚ) : ℚ := (now - createdAt) / MONTH_MS

/-- The weight at an age. -/
def weightAt (params : TimeWeightParams) (ageMonths : ℚ) : ℚ :=
  if params.engagementWindowMonths ≤ ageMonths then 0
  else max 0 (1 - ⌊ageMonths⌋ * (params.monthlyDecayRatePercent / 100))

theorem MONTH_MS_pos : 0 < MONTH_MS := by norm_num [MONTH_MS]

section Weight

variable {params : TimeWeightParams}

theorem calculateTimeWeight_real (params : TimeWeightParams) (createdAt now : ℚ) :
    calculateTimeWeight (.real createdAt) (.real now) params =
      ⟨.real (weightAt params (ageAt createdAt now)), .real (ageAt createdAt now),
        .real ⌊ageAt createdAt now⌋, true, decide (0 < weightAt params (ageAt createdAt now))⟩ := by
  have age : (Number.real now - .real createdAt) / .real MONTH_MS =
      .real (ageAt createdAt now) := rfl
  have bucket : Number.real (ageAt createdAt now) / .real DECAY_BUCKET_SIZE_MONTHS =
      .real (ageAt createdAt now) := congrArg Number.real (div_one _)
  simp only [calculateTimeWeight, age, bucket, Number.ge]
  by_cases outside : params.engagementWindowMonths ≤ ageAt createdAt now
  · have zero : weightAt params (ageAt createdAt now) = 0 := if_pos outside
    simp only [outside, decide_true, if_true, zero, lt_self_iff_false, decide_false]
    rfl
  · have weight : weightAt params (ageAt createdAt now) = _ := if_neg outside
    simp only [outside, decide_false, Bool.false_eq_true, if_false, weight]
    rfl

theorem weightAt_nonneg (ageMonths : ℚ) : 0 ≤ weightAt params ageMonths := by
  rw [weightAt]
  split
  · exact le_refl 0
  · exact le_max_left 0 _

/-- What is older weighs no more. -/
theorem weightAt_antitone (rate : 0 ≤ params.monthlyDecayRatePercent) {younger older : ℚ}
    (ages : younger ≤ older) : weightAt params older ≤ weightAt params younger := by
  by_cases outside : params.engagementWindowMonths ≤ older
  · rw [weightAt, if_pos outside]
    exact weightAt_nonneg younger
  · have inside : ¬params.engagementWindowMonths ≤ younger := fun late =>
      outside (late.trans ages)
    rw [weightAt, weightAt, if_neg outside, if_neg inside]
    have buckets : (⌊younger⌋ : ℚ) ≤ ⌊older⌋ := by exact_mod_cast Int.floor_le_floor ages
    have share : 0 ≤ params.monthlyDecayRatePercent / 100 := by positivity
    exact max_le_max (le_refl 0) (sub_le_sub_left (mul_le_mul_of_nonneg_right buckets share) 1)

theorem weightAt_le_one (rate : 0 ≤ params.monthlyDecayRatePercent) {ageMonths : ℚ}
    (born : 0 ≤ ageMonths ∨ params.monthlyDecayRatePercent = 0) : weightAt params ageMonths ≤ 1 := by
  rw [weightAt]
  split
  · exact zero_le_one
  · refine max_le zero_le_one (sub_le_self 1 ?_)
    rcases born with born | constant
    · have bucket : (0 : ℚ) ≤ ⌊ageMonths⌋ := by exact_mod_cast Int.floor_nonneg.mpr born
      positivity
    · rw [constant, zero_div, mul_zero]

/-- What is not created yet weighs more than one. -/
theorem one_lt_weightAt (window : 0 ≤ params.engagementWindowMonths)
    (rate : 0 < params.monthlyDecayRatePercent) {ageMonths : ℚ} (unborn : ageMonths < 0) :
    1 < weightAt params ageMonths := by
  have bucket : (⌊ageMonths⌋ : ℚ) ≤ -1 := by
    have below : ⌊ageMonths⌋ < 0 := Int.floor_lt.mpr (by exact_mod_cast unborn)
    exact_mod_cast Int.le_sub_one_of_lt below
  have share : 0 < params.monthlyDecayRatePercent / 100 := by positivity
  rw [weightAt, if_neg (by linarith)]
  refine lt_max_of_lt_right ?_
  nlinarith

end Weight

end Reputo.Deepfunding

import Mathlib.Order.Bounds.Basic
import Mathlib.Tactic.Linarith
import Mathlib.Tactic.NormNum
import Reputo.CustomScore.EvaluationPlan
import Reputo.Library.WeightedMean

/-!
# The encrypted score as a weighted mean

Over exact rationals every plan can be built, and what it computes is the weighted mean of the
normalized scores of the children.
-/

namespace Reputo.CustomScore

open Reputo.Library

/-! ## Scores -/

/-- The sum of the contributions of the affine children. -/
def EncryptedEvaluationPlan.score (plan : EncryptedEvaluationPlan Rat) (scores : String → Rat) :
    Rat :=
  (plan.children.map fun child => match child.contribution with
    | .affine coefficient shift => coefficient * (scores child.key - shift)
    | .zero => 0).sum

namespace EncryptedCustomScoreChild

/-- A score on the target range; zero for a child with equal bounds. -/
def normalized (child : EncryptedCustomScoreChild Rat) (score : Rat) : Rat :=
  if child.observation.min < child.observation.max then
    100 * (score - child.observation.min) / (child.observation.max - child.observation.min)
  else 0

/-- The score lies in the observed bounds. -/
def Bounds (child : EncryptedCustomScoreChild Rat) (score : Rat) : Prop :=
  child.observation.min ≤ score ∧ score ≤ child.observation.max

end EncryptedCustomScoreChild

/-- The weighted mean of the normalized scores. -/
def customScore (children : List (EncryptedCustomScoreChild Rat)) (scores : String → Rat) : Rat :=
  weightedMean (·.weight) (fun child => child.normalized (scores child.key)) children

/-- What the callers promise of the children. -/
structure Plannable (children : List (EncryptedCustomScoreChild Rat)) : Prop where
  nonempty : children ≠ []
  named : ∀ child ∈ children, JsText.trim child.key ≠ ""
  distinct : (children.map (·.key)).Nodup
  positive : ∀ child ∈ children, 0 < child.weight
  observed : ∀ child ∈ children, ∃ rows message result,
    submitChildRows child.key rows message = .ok result ∧ result.observation = child.observation

/-! ## Observed bounds -/

/-- The bounds are those of the scores. -/
def ObservedMinMaxObserver.Observes (observer : ObservedMinMaxObserver Rat)
    (scores : Set Rat) : Prop :=
  match observer.min, observer.max with
  | none, none => scores = ∅
  | some min, some max => IsLeast scores min ∧ IsGreatest scores max
  | _, _ => False

theorem ObservedMinMaxObserver.Observes.accept {observer : ObservedMinMaxObserver Rat}
    {scores : Set Rat} (observes : observer.Observes scores) (score : Rat) :
    (observer.accept score).Observes (insert score scores) := by
  rcases observer with ⟨min, max⟩
  cases min with
  | none =>
      cases max with
      | none =>
          have empty : scores = ∅ := observes
          rw [empty]
          exact ⟨by simp, by simp⟩
      | some max => exact observes.elim
  | some min =>
      cases max with
      | none => exact observes.elim
      | some max =>
          have least := observes.1.insert score
          have greatest := observes.2.insert score
          rw [max_comm] at greatest
          simp only [Observes, ObservedMinMaxObserver.accept, jsNumber_lt, decide_eq_true_eq,
            ← apply_ite some, ← min_def_lt, ← max_def_lt]
          exact ⟨least, greatest⟩

theorem ObservedMinMaxObserver.Observes.foldl {observer : ObservedMinMaxObserver Rat}
    {scores : Set Rat} (observes : observer.Observes scores) (rows : List (RawScoreRow Rat)) :
    (rows.foldl (fun observer row => observer.accept row.score) observer).Observes
      (scores ∪ {score | ∃ row ∈ rows, row.score = score}) := by
  induction rows generalizing observer scores with
  | nil => simpa using observes
  | cons row rest ih =>
      have all := ih (observes.accept row.score)
      have same : insert row.score scores ∪ {score | ∃ row ∈ rest, row.score = score} =
          scores ∪ {score | ∃ other ∈ row :: rest, other.score = score} := by
        ext score
        simp [or_assoc, or_left_comm, eq_comm]
      rwa [same] at all

/-- The observation of a child is that of its accepted rows. -/
theorem submitChildRows_observation {childKey : String} {rows : List (RawScoreRow Rat)}
    {message : String → Option String} {result : CustomRawScoresChildResult Rat}
    (submitted : submitChildRows childKey rows message = .ok result) :
    result.observation.method = "observed_min_max" ∧
      IsLeast {score | ∃ row ∈ rows, message row.did = some "OK" ∧ row.score = score}
        result.observation.min ∧
      IsGreatest {score | ∃ row ∈ rows, message row.did = some "OK" ∧ row.score = score}
        result.observation.max := by
  have observes : ({} : ObservedMinMaxObserver Rat).Observes ∅ := rfl
  have all := observes.foldl (rows.filter fun row => message row.did = some "OK")
  rw [submitChildRows] at submitted
  simp only [ObservedMinMaxObserver.finish] at submitted
  simp only [Set.empty_union, List.mem_filter, decide_eq_true_eq, and_assoc] at all
  split at submitted
  · cases submitted
  · rename_i observation finished
    cases submitted
    split at finished
    · rename_i low high
      cases finished
      rw [ObservedMinMaxObserver.Observes, low, high] at all
      exact ⟨rfl, all⟩
    · cases finished

/-! ## The plan -/

namespace EncryptedCustomScoreChild

def normalization (child : EncryptedCustomScoreChild Rat) : ChildNormalization Rat :=
  if child.observation.min < child.observation.max then
    .affine (100 / (child.observation.max - child.observation.min)) child.observation.min
  else .constantZero

def weighting (child : EncryptedCustomScoreChild Rat) : ChildWeighting Rat :=
  if child.observation.min < child.observation.max then
    .affine (100 / (child.observation.max - child.observation.min) * child.weight)
      child.observation.min
  else .zero

def contribution (child : EncryptedCustomScoreChild Rat) (totalWeight : Rat) :
    ChildContribution Rat :=
  if child.observation.min < child.observation.max then
    .affine (100 / (child.observation.max - child.observation.min) * child.weight / totalWeight)
      child.observation.min
  else .zero

end EncryptedCustomScoreChild

/-- The plan of children that are promised. -/
def plannedScore (children : List (EncryptedCustomScoreChild Rat)) :
    EncryptedEvaluationPlan Rat where
  method := "observed_min_max"
  totalWeight := (children.map (·.weight)).sum
  children := children.map fun child =>
    ⟨child.key, child.weight, child.observation,
      child.contribution (children.map (·.weight)).sum⟩
  zeroFallback := (children.find? fun child =>
    ¬ child.observation.min < child.observation.max).map fun child =>
      ⟨child.key, child.observation.min⟩

variable {children : List (EncryptedCustomScoreChild Rat)}

theorem totalChildWeight_eq : totalChildWeight children = (children.map (·.weight)).sum := by
  rw [totalChildWeight, List.sum_eq_foldl, List.foldl_map]
  rfl

theorem validateChildrenFrom_eq {seen : List String}
    (named : ∀ child ∈ children, JsText.trim child.key ≠ "")
    (distinct : (children.map (·.key)).Nodup) (fresh : ∀ child ∈ children, child.key ∉ seen) :
    validateChildrenFrom seen children = .ok () := by
  induction children generalizing seen with
  | nil => rfl
  | cons child rest ih =>
      rw [List.map_cons, List.nodup_cons] at distinct
      rw [validateChildrenFrom, if_neg (named child List.mem_cons_self),
        if_neg (fresh child List.mem_cons_self)]
      apply ih (fun other member => named other (List.mem_cons_of_mem _ member)) distinct.2
      intro other member known
      rcases List.mem_cons.mp known with same | earlier
      · exact distinct.1 (same ▸ List.mem_map_of_mem member)
      · exact fresh other (List.mem_cons_of_mem _ member) earlier

namespace Plannable

theorem method_eq (plannable : Plannable children) {child : EncryptedCustomScoreChild Rat}
    (member : child ∈ children) : child.observation.method = "observed_min_max" := by
  rcases plannable.observed child member with ⟨rows, message, result, submitted, same⟩
  rw [← same]
  exact (submitChildRows_observation submitted).1

/-- The least accepted score is at most the greatest. -/
theorem min_le_max (plannable : Plannable children) {child : EncryptedCustomScoreChild Rat}
    (member : child ∈ children) : child.observation.min ≤ child.observation.max := by
  rcases plannable.observed child member with ⟨rows, message, result, submitted, same⟩
  rcases submitChildRows_observation submitted with ⟨_, least, greatest⟩
  rw [← same]
  exact greatest.2 least.1

theorem total_pos (plannable : Plannable children) : 0 < (children.map (·.weight)).sum :=
  sum_weight_pos plannable.nonempty plannable.positive

theorem perm (plannable : Plannable children) {others : List (EncryptedCustomScoreChild Rat)}
    (same : children.Perm others) : Plannable others where
  nonempty := fun empty => plannable.nonempty (List.perm_nil.mp (empty ▸ same))
  named := fun child member => plannable.named child (same.mem_iff.mpr member)
  distinct := (same.map _).nodup_iff.mp plannable.distinct
  positive := fun child member => plannable.positive child (same.mem_iff.mpr member)
  observed := fun child member => plannable.observed child (same.mem_iff.mpr member)

theorem observedMinMaxStrategy_eq (plannable : Plannable children)
    {child : EncryptedCustomScoreChild Rat} (member : child ∈ children) :
    observedMinMaxStrategy child = .ok child.normalization := by
  rw [observedMinMaxStrategy, EncryptedCustomScoreChild.normalization]
  have method := plannable.method_eq member
  have ordered := plannable.min_le_max member
  rcases child with ⟨key, weight, name, min, max⟩
  dsimp only at method ordered ⊢
  rcases ordered.eq_or_lt with equal | less
  · simp [method, equal]
  · simp [method, less, less.ne, less.le, CUSTOM_SCORE_TARGET_RANGE.min,
      CUSTOM_SCORE_TARGET_RANGE.max]

theorem buildNormalizationPlan_eq (plannable : Plannable children) :
    buildNormalizationPlan "observed_min_max" children =
      .ok (children.map (·.normalization)) := by
  have some : ¬ children.length = 0 := fun none =>
    plannable.nonempty (List.eq_nil_of_length_eq_zero none)
  have valid : validateChildren children = .ok () := by
    rw [validateChildren, if_neg some]
    exact validateChildrenFrom_eq plannable.named plannable.distinct
      fun _ _ => List.not_mem_nil
  rw [buildNormalizationPlan, valid, resolveNormalizationStrategy, if_pos rfl]
  exact Result.mapM_eq_ok_map fun child member => plannable.observedMinMaxStrategy_eq member

theorem applyChildWeights_eq (plannable : Plannable children) :
    applyChildWeights children (children.map (·.normalization)) =
      .ok (children.map (·.weighting)) := by
  have weighted : ∀ child ∈ children,
      applyChildWeight child child.normalization = .ok child.weighting := by
    intro child member
    have positive := plannable.positive child member
    rw [EncryptedCustomScoreChild.normalization, EncryptedCustomScoreChild.weighting]
    by_cases less : child.observation.min < child.observation.max
    · simp [applyChildWeight, less, positive]
    · simp [applyChildWeight, less, positive]
  rw [applyChildWeights, ← List.map_prod_left_eq_zip, List.mapM_map]
  exact Result.mapM_eq_ok_map weighted

theorem buildAggregationPlan_eq (plannable : Plannable children) :
    buildAggregationPlan children (children.map (·.weighting)) =
      .ok ((children.map (·.weight)).sum,
        children.map (·.contribution (children.map (·.weight)).sum)) := by
  have total := plannable.total_pos
  have aggregated : ∀ child ∈ children,
      aggregateWeighting (children.map (·.weight)).sum child child.weighting =
        .ok (child.contribution (children.map (·.weight)).sum) := by
    intro child member
    have positive := plannable.positive child member
    rw [EncryptedCustomScoreChild.weighting, EncryptedCustomScoreChild.contribution]
    by_cases less : child.observation.min < child.observation.max
    · have span := sub_ne_zero.mpr less.ne'
      simp [aggregateWeighting, less, span, positive.ne', total.ne']
    · simp [aggregateWeighting, less]
  have all := Result.mapM_eq_ok_map aggregated
  rw [buildAggregationPlan, totalChildWeight_eq, ← List.map_prod_left_eq_zip, List.mapM_map]
  simp only [jsNumber_isFinite, jsNumber_lt, jsNumber_zero, total, decide_true, Bool.not_true,
    Bool.false_eq_true, if_false]
  dsimp only [Function.comp_def]
  rw [all]
  rfl

/-- The plan is built without error. -/
theorem buildEncryptedEvaluationPlan_eq (plannable : Plannable children) :
    buildEncryptedEvaluationPlan "observed_min_max" children = .ok (plannedScore children) := by
  have fallback : selectZeroFallback children (children.map (·.normalization)) =
      (plannedScore children).zeroFallback := by
    rw [selectZeroFallback, ← List.map_prod_left_eq_zip, List.find?_map, Option.map_map,
      plannedScore]
    congr 2
    funext child
    by_cases less : child.observation.min < child.observation.max <;>
      simp [EncryptedCustomScoreChild.normalization, less]
  have unreachable : ((children.map
      (·.contribution (children.map (·.weight)).sum)).all (· = .zero) &&
        (plannedScore children).zeroFallback.isNone) = false := by
    cases found : (plannedScore children).zeroFallback with
    | some fallback => simp
    | none =>
        have affine : ∀ child ∈ children, child.observation.min < child.observation.max := by
          simpa [plannedScore] using found
        rcases List.exists_mem_of_ne_nil _ plannable.nonempty with ⟨child, member⟩
        have contributes : child.contribution (children.map (·.weight)).sum ≠ .zero := by
          simp [EncryptedCustomScoreChild.contribution, affine child member]
        simp only [Option.isNone_none, Bool.and_true, List.all_eq_false]
        exact ⟨_, List.mem_map_of_mem member, by simpa using contributes⟩
  rw [buildEncryptedEvaluationPlan]
  refine Result.bind_eq_ok.mpr ⟨_, plannable.buildNormalizationPlan_eq, ?_⟩
  refine Result.bind_eq_ok.mpr ⟨_, plannable.applyChildWeights_eq, ?_⟩
  refine Result.bind_eq_ok.mpr ⟨_, plannable.buildAggregationPlan_eq, ?_⟩
  dsimp only
  rw [fallback, unreachable, ← List.map_prod_left_eq_zip, List.map_map]
  rfl

end Plannable

/-! ## Its score -/

namespace EncryptedCustomScoreChild

variable {child : EncryptedCustomScoreChild Rat}

theorem normalized_mono {score higher : Rat} (grows : score ≤ higher) :
    child.normalized score ≤ child.normalized higher := by
  rw [normalized, normalized]
  split
  · rename_i less
    apply div_le_div_of_nonneg_right _ (sub_pos.mpr less).le
    linarith
  · exact le_rfl

/-- Observed scores fall into the target range. -/
theorem normalized_mem_range {score : Rat} (bounds : child.Bounds score) :
    0 ≤ child.normalized score ∧ child.normalized score ≤ 100 := by
  rcases bounds with ⟨above, below⟩
  rw [normalized]
  split
  · rename_i less
    have span := sub_pos.mpr less
    constructor
    · apply div_nonneg _ span.le
      linarith
    · rw [div_le_iff₀ span]
      linarith
  · exact ⟨le_rfl, by norm_num⟩

end EncryptedCustomScoreChild

theorem plannedScore_score (children : List (EncryptedCustomScoreChild Rat))
    (scores : String → Rat) :
    (plannedScore children).score scores = customScore children scores := by
  rw [customScore, weightedMean_eq_sum, EncryptedEvaluationPlan.score, plannedScore, List.map_map]
  congr 2
  funext child
  dsimp only [Function.comp_apply, EncryptedCustomScoreChild.contribution,
    EncryptedCustomScoreChild.normalized]
  by_cases less : child.observation.min < child.observation.max
  · rw [if_pos less, if_pos less]
    ring
  · rw [if_neg less, if_neg less, mul_zero]

theorem score_eq_active (plan : EncryptedEvaluationPlan Rat) (scores : String → Rat) :
    plan.score scores = (plan.activeChildren.map fun (key, coefficient, shift) =>
      coefficient * (scores key - shift)).sum := by
  rw [EncryptedEvaluationPlan.score, EncryptedEvaluationPlan.activeChildren]
  induction plan.children with
  | nil => rfl
  | cons child rest ih =>
      rw [List.map_cons, List.sum_cons, ih]
      cases contribution : child.contribution <;> simp [contribution]

theorem addContribution_eq (scores : String → Rat) (accumulator : Option Rat)
    (child : String × Rat × Rat) :
    addContribution scores accumulator child =
      some (accumulator.getD 0 + child.2.1 * (scores child.1 - child.2.2)) := by
  rcases child with ⟨key, coefficient, shift⟩
  by_cases zero : shift = 0 <;> cases accumulator <;>
    simp [addContribution, zero, mul_comm coefficient]

theorem foldl_addContribution (scores : String → Rat) (active : List (String × Rat × Rat))
    (sum : Rat) :
    active.foldl (addContribution scores) (some sum) =
      some (sum + (active.map fun (key, coefficient, shift) =>
        coefficient * (scores key - shift)).sum) := by
  induction active generalizing sum with
  | nil => simp
  | cons child rest ih => simp [addContribution_eq, ih, add_assoc]

/-- The evaluator sums the contributions. -/
theorem evaluateAffineChildren_eq (did : String) {active : List (String × Rat × Rat)}
    (some : active ≠ []) (scores : String → Rat) :
    evaluateAffineChildren did active scores =
      .ok (active.map fun (key, coefficient, shift) => coefficient * (scores key - shift)).sum := by
  cases active with
  | nil => exact absurd rfl some
  | cons child rest =>
      simp [evaluateAffineChildren, addContribution_eq, foldl_addContribution, Result.ofOption]

/-- Where no child is affine, the fallback is a child whose score is known. -/
theorem Plannable.exists_fallback (plannable : Plannable children)
    (none : (plannedScore children).activeChildren = []) :
    ∃ child ∈ children, child.observation.min = child.observation.max ∧
      (plannedScore children).zeroFallback = some ⟨child.key, child.observation.min⟩ := by
  cases children with
  | nil => exact absurd rfl plannable.nonempty
  | cons child rest =>
      have flat : ¬ child.observation.min < child.observation.max := by
        intro less
        simp [EncryptedEvaluationPlan.activeChildren, plannedScore,
          EncryptedCustomScoreChild.contribution, less] at none
      have equal := le_antisymm (plannable.min_le_max List.mem_cons_self) (not_lt.mp flat)
      exact ⟨child, List.mem_cons_self, equal, by simp [plannedScore, equal]⟩

/-- The evaluator computes the score of every user within the bounds. -/
theorem Plannable.evaluateUser_eq (plannable : Plannable children) (did : String)
    {scores : String → Rat} (bounds : ∀ child ∈ children, child.Bounds (scores child.key)) :
    (plannedScore children).evaluateUser did scores = .ok (customScore children scores) := by
  rw [← plannedScore_score, score_eq_active, EncryptedEvaluationPlan.evaluateUser]
  split
  · rename_i some
    exact evaluateAffineChildren_eq did (List.ne_nil_of_length_pos some) scores
  · rename_i none
    have empty := List.eq_nil_of_length_eq_zero (Nat.eq_zero_of_not_pos none)
    rcases plannable.exists_fallback empty with ⟨child, member, equal, fallback⟩
    have known : scores child.key = child.observation.min :=
      le_antisymm ((bounds child member).2.trans equal.ge) (bounds child member).1
    rw [empty, fallback, deriveEncryptedZero, known]
    by_cases zero : child.observation.min = 0 <;> simp [zero]

/-! ## Main result -/

/-- The child with another weight. -/
def EncryptedCustomScoreChild.scale (factor : Rat) (child : EncryptedCustomScoreChild Rat) :
    EncryptedCustomScoreChild Rat :=
  { child with weight := factor * child.weight }

theorem Plannable.scale (plannable : Plannable children) {factor : Rat} (positive : 0 < factor) :
    Plannable (children.map (·.scale factor)) where
  nonempty := by simpa using plannable.nonempty
  named := by simpa [EncryptedCustomScoreChild.scale] using plannable.named
  distinct := by
    simpa [EncryptedCustomScoreChild.scale, Function.comp_def] using plannable.distinct
  positive := by
    simpa [EncryptedCustomScoreChild.scale] using
      fun child member => mul_pos positive (plannable.positive child member)
  observed := by simpa [EncryptedCustomScoreChild.scale] using plannable.observed

theorem customScore_scale (children : List (EncryptedCustomScoreChild Rat))
    (scores : String → Rat) {factor : Rat} (positive : 0 < factor) :
    customScore (children.map (·.scale factor)) scores = customScore children scores := by
  rw [customScore, weightedMean_map]
  exact weightedMean_scale _ _ children positive.ne'

/-- The plan of promised children is built, and its score is the weighted mean of the normalized
scores: on the target range for observed scores, monotone, independent of the order of the
children and of a common factor of the weights.  Where no child contributes there is a fallback
whose score is known. -/
theorem score_weightedMean (plannable : Plannable children) :
    ∃ plan, buildEncryptedEvaluationPlan "observed_min_max" children = .ok plan ∧
      (∀ scores : String → Rat, (∀ child ∈ children, child.Bounds (scores child.key)) →
        plan.score scores = customScore children scores ∧
          0 ≤ plan.score scores ∧ plan.score scores ≤ 100 ∧
          ∀ did, plan.evaluateUser did scores = .ok (plan.score scores)) ∧
      (∀ scores higher : String → Rat, (∀ child ∈ children, scores child.key ≤ higher child.key) →
        plan.score scores ≤ plan.score higher) ∧
      (∀ others, children.Perm others → ∃ permuted,
        buildEncryptedEvaluationPlan "observed_min_max" others = .ok permuted ∧
          ∀ scores, permuted.score scores = plan.score scores) ∧
      (∀ factor > 0, ∃ scaled,
        buildEncryptedEvaluationPlan "observed_min_max" (children.map (·.scale factor)) =
            .ok scaled ∧
          ∀ scores, scaled.score scores = plan.score scores) ∧
      (plan.activeChildren = [] → ∃ child ∈ children,
        child.observation.min = child.observation.max ∧
          plan.zeroFallback = some ⟨child.key, child.observation.min⟩) := by
  refine ⟨_, plannable.buildEncryptedEvaluationPlan_eq, ?_, ?_, ?_, ?_, ?_⟩
  · intro scores bounds
    have range := weightedMean_mem_bounds plannable.nonempty plannable.positive
      fun child member => child.normalized_mem_range (bounds child member)
    rw [plannedScore_score]
    exact ⟨rfl, range.1, range.2, fun did => plannable.evaluateUser_eq did bounds⟩
  · intro scores higher grows
    rw [plannedScore_score, plannedScore_score]
    apply weightedMean_mono plannable.positive
    exact fun child member => child.normalized_mono (grows child member)
  · intro others same
    refine ⟨_, (plannable.perm same).buildEncryptedEvaluationPlan_eq, fun scores => ?_⟩
    rw [plannedScore_score, plannedScore_score]
    exact (weightedMean_perm _ _ same).symm
  · intro factor positive
    refine ⟨_, (plannable.scale positive).buildEncryptedEvaluationPlan_eq, fun scores => ?_⟩
    rw [plannedScore_score, plannedScore_score, customScore_scale children scores positive]
  · exact plannable.exists_fallback

private def sampleChildren : List (EncryptedCustomScoreChild Rat) :=
  [⟨"voting_engagement", 1, ⟨"observed_min_max", 0, 10⟩⟩,
    ⟨"github_engagement", 3, ⟨"observed_min_max", 5, 5⟩⟩]

private theorem sampleChildren_plannable : Plannable sampleChildren where
  nonempty := List.cons_ne_nil _ _
  named := by decide
  distinct := by decide
  positive := by decide
  observed := by
    intro child member
    rcases List.mem_cons.mp member with rfl | member
    · exact ⟨[⟨"did:a", 0⟩, ⟨"did:b", 10⟩, ⟨"did:c", 20⟩],
        fun did => if did = "did:c" then some EXPECTED_DROP_MESSAGE else some "OK", _, rfl, rfl⟩
    · rcases List.mem_cons.mp member with rfl | none
      · exact ⟨[⟨"did:a", 5⟩, ⟨"did:b", 5⟩], fun _ => some "OK", _, rfl, rfl⟩
      · exact absurd none List.not_mem_nil

/-- A voting score of ten among zero to ten and a constant other score of threefold weight. -/
theorem score_weightedMean_sample :
    ∃ plan, buildEncryptedEvaluationPlan "observed_min_max" sampleChildren = .ok plan ∧
      plan.score (fun key => if key = "voting_engagement" then 10 else 5) = 25 := by
  rcases score_weightedMean sampleChildren_plannable with ⟨plan, built, computes, _⟩
  have bounds : ∀ child ∈ sampleChildren,
      child.Bounds (if child.key = "voting_engagement" then 10 else 5) := by
    simp [sampleChildren, EncryptedCustomScoreChild.Bounds]
  refine ⟨plan, built, (computes _ bounds).1.trans ?_⟩
  norm_num [customScore, weightedMean, sampleChildren, EncryptedCustomScoreChild.normalized]

end Reputo.CustomScore

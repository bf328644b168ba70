import Mathlib.Tactic.NormNum
import Reputo.ProposalEngagement.TimeWeights

/-!
# What a bad review does

Reviews are aggregated whatever their ratings are.  A rating that is no number makes every owner
of the proposal score none; others count although they should not.
-/

namespace Reputo.ProposalEngagement

open Reputo.Library Reputo.Deepfunding

/-- A review of the community with a number above zero for a rating. -/
def isValidRating (js : ScoreRuntime) (review : ReviewRecord) : Bool :=
  review.reviewType = "community" && (js.parseFloat review.overallRating).gt 0

/-- The reviews of the community about a proposal. -/
def reviewsOf (reviews : List ReviewRecord) (proposalId : Int) : List ReviewRecord :=
  reviews.filter fun review => ratedProposal review = some proposalId

section Reviews

variable (js : ScoreRuntime) (inputs : ProposalEngagementParams) (now : ℚ)
  (proposals : List ProposalRecord) (reviews : List ReviewRecord) (users : List UserRecord)

/-- What the community made of a proposal counts for some identity. -/
def Counts (proposal : ProposalRecord) : Prop :=
  proposal.roundId ∈ SUPPORTED_ROUND_IDS ∧
    (computeTimeWeightFromString js proposal.createdAt now inputs.timeWeight).isWithinWindow = true ∧
    (classifyProposal proposal).classification ≠ .other ∧
    ∃ teamMembers, js.parseTeamMembers proposal.teamMembers = some teamMembers ∧
      proposalDids (userIdToDid users) (buildProposalOwners proposal teamMembers) ≠ []

/-- Scores are numbers that come from valid ratings only, and norms lie between zero and one. -/
structure Unpoisoned : Prop where
  finite : ∀ rows, computeProposalEngagement js inputs now proposals reviews users = some rows →
    ∀ row ∈ rows, row.proposal_engagement.isFinite = true
  rated : ∀ proposal ∈ proposals, Counts js inputs now users proposal →
    (aggregateCommunityRatings js reviews).get? proposal.id =
      (aggregateCommunityRatings js (reviews.filter (isValidRating js))).get? proposal.id
  norms : ∀ proposal ∈ proposals,
    ∀ norm ∈ (computeCommunityScore proposal.id (aggregateCommunityRatings js reviews)).norm,
      InUnit norm

/-- Ratings are numbers that average between zero and five. -/
def AverageRight (proposalId : Int) : Prop :=
  ∃ values : List ℚ,
    (reviewsOf reviews proposalId).map (fun review => js.parseFloat review.overallRating) =
      values.map .real ∧ 0 ≤ values.sum ∧ values.sum ≤ 5 * values.length

end Reviews

/-! ## Aggregated ratings -/

section Aggregate

variable {js : ScoreRuntime} {reviews : List ReviewRecord}

/-- The statistics of ratings, if there are any. -/
def statsOf : List Number → Option CommunityRatingStats
  | [] => none
  | rating :: rest => some ⟨(rating :: rest).foldl (· + ·) 0, (rating :: rest).length⟩

theorem statsOf_concat (ratings : List Number) (rating : Number) :
    statsOf (ratings ++ [rating]) =
      some ⟨((statsOf ratings).getD ⟨0, 0⟩).sum + rating,
        ((statsOf ratings).getD ⟨0, 0⟩).count + 1⟩ := by
  cases ratings with
  | nil => rfl
  | cons first rest =>
      simp only [statsOf, List.cons_append, Option.getD_some, List.foldl_cons, List.foldl_append,
        List.foldl_nil, List.length_cons, List.length_append, List.length_nil]

theorem get?_aggregate (js : ScoreRuntime) (reviews : List ReviewRecord) (proposalId : Int) :
    (aggregateCommunityRatings js reviews).get? proposalId =
      statsOf ((reviewsOf reviews proposalId).map fun review =>
        js.parseFloat review.overallRating) := by
  induction reviews using List.reverseRecOn with
  | nil => rfl
  | append_singleton reviews review ih =>
      have step : aggregateCommunityRatings js (reviews ++ [review]) =
          addRating js (aggregateCommunityRatings js reviews) review := by
        simp only [aggregateCommunityRatings, List.foldl_append, List.foldl_cons, List.foldl_nil]
      rw [step, addRating, reviewsOf, List.filter_append, List.map_append]
      cases rated : ratedProposal review with
      | none =>
          have other : [review].filter (fun review => ratedProposal review = some proposalId) = [] := by
            simp [rated]
          rw [other, List.map_nil, List.append_nil]
          exact ih
      | some other =>
          by_cases same : other = proposalId
          · have own : [review].filter (fun review => ratedProposal review = some proposalId) =
                [review] := by simp [rated, same]
            rw [own, List.map_cons, List.map_nil, statsOf_concat]
            simp only [OrderedMap.upsert, same, OrderedMap.get?_set_self, ih]
            rfl
          · have absent : [review].filter (fun review => ratedProposal review = some proposalId) =
                [] := by simp [rated, same]
            rw [absent, List.map_nil, List.append_nil]
            simp only [OrderedMap.upsert, OrderedMap.get?_set_of_ne _ _ (Ne.symm same)]
            exact ih

theorem reviewsOf_filter (reviews : List ReviewRecord) (proposalId : Int) (keep : ReviewRecord → Bool) :
    reviewsOf (reviews.filter keep) proposalId = (reviewsOf reviews proposalId).filter keep := by
  rw [reviewsOf, reviewsOf, List.filter_filter, List.filter_filter]
  exact List.filter_congr fun review _ => Bool.and_comm _ _

theorem statsOf_count {ratings : List Number} :
    ((statsOf ratings).map (·.count)).getD 0 = ratings.length := by
  cases ratings <;> rfl

/-- Statistics come from valid ratings only if all ratings are valid. -/
theorem get?_aggregate_filter_iff {proposalId : Int} :
    (aggregateCommunityRatings js reviews).get? proposalId =
        (aggregateCommunityRatings js (reviews.filter (isValidRating js))).get? proposalId ↔
      ∀ review ∈ reviewsOf reviews proposalId, isValidRating js review = true := by
  rw [get?_aggregate, get?_aggregate, reviewsOf_filter]
  constructor
  · intro same
    have counts := congrArg (fun stats => (stats.map (·.count)).getD 0) same
    simp only [statsOf_count, List.length_map] at counts
    exact List.length_filter_eq_length_iff.mp counts.symm
  · intro valid
    rw [List.filter_eq_self.mpr valid]

theorem sum_ratings (values : List ℚ) (start : ℚ) :
    (values.map Number.real).foldl (· + ·) (.real start) = .real (start + values.sum) := by
  induction values generalizing start with
  | nil => simp
  | cons value rest ih =>
      rw [List.map_cons, List.foldl_cons, Number.real_add, ih, List.sum_cons, add_assoc]

/-- A sum is a number only if all its parts are. -/
theorem exists_values {ratings : List Number} {start : Number}
    (finite : (ratings.foldl (· + ·) start).isFinite = true) :
    ∃ values : List ℚ, ratings = values.map .real := by
  induction ratings generalizing start with
  | nil => exact ⟨[], rfl⟩
  | cons rating rest ih =>
      rcases ih finite with ⟨values, same⟩
      cases rating with
      | nan =>
          rw [List.foldl_cons, Number.add_nan, same] at finite
          have stays : ∀ values : List ℚ,
              (values.map Number.real).foldl (· + ·) .nan = Number.nan := by
            intro values
            induction values with
            | nil => rfl
            | cons value rest ih => exact ih
          rw [stays] at finite
          cases finite
      | real value => exact ⟨value :: values, by rw [same]; rfl⟩

/-- A mean of ratings is a norm if the ratings are numbers that average between zero and five. -/
theorem inUnit_mean_iff {ratings : List Number} (rated : ratings ≠ []) :
    InUnit (ratings.foldl (· + ·) 0 / .real ratings.length / .real 5) ↔
      ∃ values : List ℚ, ratings = values.map .real ∧ 0 ≤ values.sum ∧
        values.sum ≤ 5 * values.length := by
  have mean : ∀ values : List ℚ, (values.map Number.real).foldl (· + ·) 0 /
      .real (values.map Number.real).length / .real 5 =
        .real (values.sum / values.length / 5) := by
    intro values
    have total := sum_ratings values 0
    rw [zero_add] at total
    rw [show (0 : Number) = .real 0 from rfl, total, List.length_map]
    rfl
  have norm_iff : ∀ values : List ℚ, values.map Number.real = ratings →
      (0 ≤ values.sum / values.length / 5 ∧ values.sum / values.length / 5 ≤ 1 ↔
        0 ≤ values.sum ∧ values.sum ≤ 5 * values.length) := by
    intro values known
    have positive : (0 : ℚ) < values.length := by
      have some_ : values ≠ [] := fun none_ => rated (by rw [← known, none_, List.map_nil])
      exact_mod_cast List.length_pos_of_ne_nil some_
    rw [div_div, div_le_one (mul_pos positive (by norm_num)), mul_comm (values.length : ℚ) 5]
    exact and_congr_left fun _ =>
      ⟨fun nonneg => not_lt.mp fun negative => absurd nonneg (not_le.mpr
        (div_neg_of_neg_of_pos negative (mul_pos (by norm_num) positive))),
        fun nonneg => div_nonneg nonneg (mul_nonneg (by norm_num) positive.le)⟩
  constructor
  · rintro ⟨norm, same, bounds⟩
    have finite : (ratings.foldl (· + ·) 0).isFinite = true := by
      have whole := congrArg Number.isFinite same
      rw [Number.isFinite_div, Number.isFinite_div] at whole
      exact (Bool.and_eq_true_iff.mp (Bool.and_eq_true_iff.mp whole).1).1
    rcases exists_values finite with ⟨values, known⟩
    rw [known, mean] at same
    cases same
    exact ⟨values, known, (norm_iff values known.symm).mp bounds⟩
  · rintro ⟨values, known, bounds⟩
    rw [known, mean]
    exact ⟨_, rfl, (norm_iff values known.symm).mpr bounds⟩

/-- The norm of a proposal is none, or between zero and one, exactly if its ratings are right. -/
theorem norm_inUnit_iff {proposalId : Int} :
    (∀ norm ∈ (computeCommunityScore proposalId (aggregateCommunityRatings js reviews)).norm,
      InUnit norm) ↔ AverageRight js reviews proposalId := by
  rw [computeCommunityScore, get?_aggregate, AverageRight]
  generalize (reviewsOf reviews proposalId).map (fun review =>
    js.parseFloat review.overallRating) = ratings
  cases ratings with
  | nil => exact ⟨fun _ => ⟨[], rfl, le_refl 0, by simp⟩, fun _ _ none_ => by cases none_⟩
  | cons rating rest =>
      rw [← inUnit_mean_iff (List.cons_ne_nil rating rest)]
      constructor
      · exact fun all => all _ rfl
      · intro unit norm same
        cases same
        exact unit

end Aggregate

/-! ## Numbers stay numbers -/

section Finite

/-- The sums of an identity are numbers. -/
def FiniteSums (accumulator : UserScoreAccumulator) : Prop :=
  accumulator.positiveSum.isFinite = true ∧ accumulator.negativeSum.isFinite = true

theorem finiteSums_empty : FiniteSums .empty := ⟨rfl, rfl⟩

/-- A norm that is a number makes the score of a proposal two numbers. -/
theorem computeProposalScore_isFinite {input : ProposalScoreInput}
    (weight : input.timeWeight.isWithinWindow = true → input.timeWeight.tw.isFinite = true)
    (rated : ∀ norm ∈ input.communityScore.norm, norm.isFinite = true) :
    (computeProposalScore input).proposalReward.isFinite = true ∧
      (computeProposalScore input).proposalPenalty.isFinite = true := by
  rw [computeProposalScore]
  cases skipped : skipReasonOf input with
  | some skipReason => exact ⟨rfl, rfl⟩
  | none =>
      cases normed : input.communityScore.norm with
      | none => exact ⟨rfl, rfl⟩
      | some norm =>
          have within : input.timeWeight.isWithinWindow = true := by
            rw [skipReasonOf] at skipped
            grind
          have weightFinite := weight within
          have normFinite := rated norm normed
          constructor
          · simp only
            split
            · rw [Number.isFinite_mul, weightFinite, normFinite]; rfl
            · rfl
          · simp only
            split
            · rw [Number.isFinite_mul, Number.isFinite_sub, weightFinite, normFinite]; rfl
            · rfl

/-- What lies in the window has a number for a weight. -/
theorem isFinite_of_isWithinWindow {createdAt now : Number} {params : TimeWeightParams}
    (within : (calculateTimeWeight createdAt now params).isWithinWindow = true) :
    (calculateTimeWeight createdAt now params).tw.isFinite = true := by
  rw [calculateTimeWeight] at within ⊢
  split at within
  · cases within
  · rename_i inside
    rw [if_neg inside]
    simp only at within ⊢
    generalize Number.max 0 _ = tw at within ⊢
    cases tw with
    | nan => cases within
    | real _ => rfl

theorem FiniteSums.add {accumulator : UserScoreAccumulator} {score : ProposalScoreResult}
    (sums : FiniteSums accumulator) (reward : score.proposalReward.isFinite = true)
    (penalty : score.proposalPenalty.isFinite = true) : FiniteSums (accumulator.add score) := by
  rw [FiniteSums, UserScoreAccumulator.add, Number.isFinite_add, Number.isFinite_add, sums.1,
    sums.2, reward, penalty]
  exact ⟨rfl, rfl⟩

/-- Every identity of a map has numbers for sums. -/
def AllFinite (accumulators : OrderedMap String UserScoreAccumulator) : Prop :=
  ∀ did, FiniteSums ((accumulators.get? did).getD .empty)

theorem AllFinite.upsert {accumulators : OrderedMap String UserScoreAccumulator}
    {score : ProposalScoreResult} (all : AllFinite accumulators)
    (reward : score.proposalReward.isFinite = true)
    (penalty : score.proposalPenalty.isFinite = true) (did : String) :
    AllFinite (accumulators.upsert did fun existing => (existing.getD .empty).add score) := by
  intro other
  rw [OrderedMap.upsert]
  by_cases same : other = did
  · rw [same, OrderedMap.get?_set_self, Option.getD_some]
    exact (all did).add reward penalty
  · rw [OrderedMap.get?_set_of_ne _ _ same]
    exact all other

variable {js : ScoreRuntime} {inputs : ProposalEngagementParams} {now : ℚ}

/-- One proposal leaves numbers behind if its norm is one. -/
theorem AllFinite.creditProposal {communityRatings : OrderedMap Int CommunityRatingStats}
    {dids : OrderedMap Int String} {accumulators after : OrderedMap String UserScoreAccumulator}
    {proposal : ProposalRecord} (all : AllFinite accumulators)
    (rated : ∀ norm ∈ (computeCommunityScore proposal.id communityRatings).norm,
      norm.isFinite = true)
    (credited : creditProposal js inputs now communityRatings dids accumulators proposal =
      some after) : AllFinite after := by
  rw [ProposalEngagement.creditProposal] at credited
  cases parsed : js.parseTeamMembers proposal.teamMembers with
  | none =>
      rw [parsed] at credited
      cases credited
  | some teamMembers =>
      rw [parsed] at credited
      simp only at credited
      have score := @computeProposalScore_isFinite
        { roundId := proposal.roundId
          classification := (classifyProposal proposal).classification
          communityScore := computeCommunityScore proposal.id communityRatings
          timeWeight := computeTimeWeightFromString js proposal.createdAt now inputs.timeWeight }
        isFinite_of_isWithinWindow rated
      rw [scoreProposal] at credited
      split at credited
      · cases credited
        exact all
      · cases credited
        generalize proposalDids dids (buildProposalOwners proposal teamMembers) = owners
        induction owners generalizing accumulators with
        | nil => exact all
        | cons did rest ih => exact ih (all.upsert score.1 score.2 did)

/-- A run over all proposals leaves numbers behind if every norm is one. -/
theorem AllFinite.foldlM {communityRatings : OrderedMap Int CommunityRatingStats}
    {dids : OrderedMap Int String} {accumulators after : OrderedMap String UserScoreAccumulator}
    {proposals : List ProposalRecord} (all : AllFinite accumulators)
    (rated : ∀ proposal ∈ proposals,
      ∀ norm ∈ (computeCommunityScore proposal.id communityRatings).norm, norm.isFinite = true)
    (ran : proposals.foldlM (ProposalEngagement.creditProposal js inputs now communityRatings dids)
      accumulators = some after) : AllFinite after := by
  induction proposals generalizing accumulators with
  | nil =>
      cases ran
      exact all
  | cons proposal rest ih =>
      rw [List.foldlM_cons] at ran
      rcases Option.bind_eq_some_iff.mp ran with ⟨next, credited, ran⟩
      exact ih (all.creditProposal (rated proposal (List.mem_cons_self ..)) credited)
        (fun other member => rated other (List.mem_cons_of_mem _ member)) ran

theorem isFinite_roundScore {score : Number} (finite : score.isFinite = true) :
    (roundScore score).isFinite = true := by
  rcases Number.isFinite_iff.mp finite with ⟨exactly, same⟩
  rw [same]
  rfl

theorem isFinite_engagementOf {accumulator : UserScoreAccumulator}
    (sums : FiniteSums accumulator) : (engagementOf inputs accumulator).isFinite = true := by
  rw [engagementOf, Number.isFinite_sub, Number.isFinite_mul, Number.isFinite_mul, sums.1, sums.2]
  rfl

end Finite

/-! ## Scores -/

private def ratingRuntime : ScoreRuntime where
  parseDate _ := .real 0
  parseFloat text := if text = "n/a" then .nan else .real 5
  parseTeamMembers _ := some []
  localeCompare := RowOrder.byKey id

private def fundedProposal : ProposalRecord :=
  ⟨1, 31, 1, 7, "", "", "", "", "", "", true, true, "", none, "[]"⟩

private def unreadableReview : ReviewRecord :=
  ⟨some 1, some 8, "community", "n/a", "", "", "", "", none⟩

end Reputo.ProposalEngagement

import Mathlib.Tactic.FieldSimp
import Reputo.ContributionScore.Pipeline
import Reputo.ProposalEngagement.Pipeline

/-!
# Scores and the clock

Both algorithms over the portal weigh by the age that an item has when they run.  Two runs over
the same database agree exactly where nothing changes its weight in between.
-/

namespace Reputo.Deepfunding

open Reputo.Library

/-! ## Weights at two times -/

/-- What is dated at an instant weighs the same at both times. -/
def WeighsTheSame (params : TimeWeightParams) (first second createdAt : ℚ) : Prop :=
  weightAt params (ageAt createdAt first) = weightAt params (ageAt createdAt second)

/-- A date that is one is among some instants. -/
def DatedIn (dates : ℚ → Prop) (createdAt : Number) : Prop :=
  ∀ instant, createdAt = .real instant → dates instant

/-- Two time weights agree in what scores depend on. -/
def SameEffect (one other : TimeWeightResult) : Prop :=
  one.tw = other.tw ∧ one.isValid = other.isValid ∧ one.isWithinWindow = other.isWithinWindow

theorem calculateTimeWeight_nan (now : ℚ) (params : TimeWeightParams) :
    calculateTimeWeight .nan (.real now) params = ⟨.nan, .nan, .nan, true, false⟩ := rfl

theorem sameEffect_of_datedIn {params : TimeWeightParams} {dates : ℚ → Prop} {first second : ℚ}
    (settled : ∀ instant, dates instant → WeighsTheSame params first second instant)
    {createdAt : Number} (dated : DatedIn dates createdAt) :
    SameEffect (calculateTimeWeight createdAt (.real first) params)
      (calculateTimeWeight createdAt (.real second) params) := by
  cases createdAt with
  | nan => exact ⟨rfl, rfl, rfl⟩
  | real instant =>
      have weight : weightAt params (ageAt instant first) = weightAt params (ageAt instant second) :=
        settled instant (dated instant rfl)
      rw [calculateTimeWeight_real, calculateTimeWeight_real, weight]
      exact ⟨rfl, rfl, rfl⟩

/-! ## Contribution scores -/

section Contribution

open ContributionScore

/-- Whatever else the database and the parameters hold, comments dated among some instants score
the same at both times. -/
def ContributionKeeps (params : TimeWeightParams) (dates : ℚ → Prop) (first second : ℚ) : Prop :=
  ∀ (js : ScoreRuntime) (inputs : ContributionScoreParams) (data : ContributionData),
    inputs.timeWeight = params →
      (∀ comment ∈ data.comments, (userIdToDid data.users).get? comment.userId ≠ none →
        DatedIn dates (js.parseDate comment.createdAt)) →
          computeContributionScore js inputs first data =
            computeContributionScore js inputs second data

theorem computeCommentScore_congr {input : CommentScoreInput} {timeWeight : TimeWeightResult}
    (same : SameEffect input.timeWeight timeWeight) :
    computeCommentScore input = computeCommentScore { input with timeWeight } := by
  rw [computeCommentScore, computeCommentScore, same.1, same.2.1, same.2.2]

theorem contributionKeeps_of_settled {params : TimeWeightParams} {dates : ℚ → Prop}
    {first second : ℚ}
    (settled : ∀ instant, dates instant → WeighsTheSame params first second instant) :
    ContributionKeeps params dates first second := by
  intro js inputs data weighed dated
  rw [computeContributionScore, computeContributionScore]
  refine congrArg (Option.map · _) (funext fun teams => ?_)
  have scores : ∀ (context : ScoringContext) (initial : OrderedMap String Number),
      data.comments.foldl (creditComment js inputs first context (userIdToDid data.users)) initial =
        data.comments.foldl (creditComment js inputs second context (userIdToDid data.users))
          initial := by
    intro context initial
    refine List.foldl_ext _ _ initial fun didScores comment listed => ?_
    rw [creditComment, creditComment]
    cases owner : (userIdToDid data.users).get? comment.userId with
    | none => rfl
    | some did =>
        have found : (userIdToDid data.users).get? comment.userId ≠ none := by simp [owner]
        have same : scoreComment js inputs first context comment =
            scoreComment js inputs second context comment := by
          refine computeCommentScore_congr ?_
          rw [weighed]
          exact sameEffect_of_datedIn settled (dated comment listed found)
        simp only [same]
  simp only [scores]

end Contribution

/-! ## Proposal engagement -/

section Engagement

open ProposalEngagement

/-- A proposal of a supported round that was funded and concluded, or not funded, and has an owner
with an identity. -/
def MayCount (js : ScoreRuntime) (users : List UserRecord) (proposal : ProposalRecord) : Prop :=
  proposal.roundId ∈ SUPPORTED_ROUND_IDS ∧ (classifyProposal proposal).classification ≠ .other ∧
    ∃ teamMembers, js.parseTeamMembers proposal.teamMembers = some teamMembers ∧
      proposalDids (userIdToDid users) (buildProposalOwners proposal teamMembers) ≠ []

/-- Whatever else the database and the parameters hold, proposals dated among some instants score
the same at both times. -/
def EngagementKeeps (params : TimeWeightParams) (dates : ℚ → Prop) (first second : ℚ) : Prop :=
  ∀ (js : ScoreRuntime) (inputs : ProposalEngagementParams) (proposals : List ProposalRecord)
      (reviews : List ReviewRecord) (users : List UserRecord),
    inputs.timeWeight = params →
      (∀ proposal ∈ proposals, MayCount js users proposal →
        DatedIn dates (js.parseDate proposal.createdAt)) →
          computeProposalEngagement js inputs first proposals reviews users =
            computeProposalEngagement js inputs second proposals reviews users

theorem computeProposalScore_congr {input : ProposalScoreInput} {timeWeight : TimeWeightResult}
    (same : SameEffect input.timeWeight timeWeight) :
    computeProposalScore input = computeProposalScore { input with timeWeight } := by
  rw [computeProposalScore, computeProposalScore, skipReasonOf, skipReasonOf, same.1, same.2.1,
    same.2.2]

theorem not_scored {input : ProposalScoreInput}
    (outside : ¬(input.roundId ∈ SUPPORTED_ROUND_IDS ∧ input.classification ≠ .other)) :
    (computeProposalScore input).scored = false := by
  rw [computeProposalScore]
  cases skipped : skipReasonOf input with
  | some skipReason => rfl
  | none =>
      rw [skipReasonOf] at skipped
      grind

section Runs

variable {js : ScoreRuntime} {inputs : ProposalEngagementParams} {first second : ℚ}

/-- What may not count leaves all sums alone, or fails, at any time. -/
theorem creditProposal_of_not_mayCount {users : List UserRecord} {proposal : ProposalRecord}
    (uncounted : ¬MayCount js users proposal)
    (communityRatings : OrderedMap Int CommunityRatingStats)
    (accumulators : OrderedMap String UserScoreAccumulator) (now : ℚ) :
    creditProposal js inputs now communityRatings (userIdToDid users) accumulators proposal =
      (js.parseTeamMembers proposal.teamMembers).map fun _ => accumulators := by
  rw [creditProposal]
  cases parsed : js.parseTeamMembers proposal.teamMembers with
  | none => rfl
  | some teamMembers =>
      simp only [Option.map_some]
      by_cases owned : proposalDids (userIdToDid users) (buildProposalOwners proposal teamMembers) = []
      · rw [owned]
        split <;> rfl
      · have silent : (scoreProposal js inputs now communityRatings proposal).scored = false :=
          not_scored fun ⟨supported, classified⟩ =>
            uncounted ⟨supported, classified, teamMembers, parsed, owned⟩
        rw [if_pos (by rw [silent]; rfl)]

theorem creditProposal_congr {dates : ℚ → Prop} {users : List UserRecord}
    {proposal : ProposalRecord}
    (settled : ∀ instant, dates instant → WeighsTheSame inputs.timeWeight first second instant)
    (dated : MayCount js users proposal → DatedIn dates (js.parseDate proposal.createdAt))
    (communityRatings : OrderedMap Int CommunityRatingStats)
    (accumulators : OrderedMap String UserScoreAccumulator) :
    creditProposal js inputs first communityRatings (userIdToDid users) accumulators proposal =
      creditProposal js inputs second communityRatings (userIdToDid users) accumulators
        proposal := by
  by_cases counted : MayCount js users proposal
  · have same : scoreProposal js inputs first communityRatings proposal =
        scoreProposal js inputs second communityRatings proposal :=
      computeProposalScore_congr (sameEffect_of_datedIn settled (dated counted))
    rw [creditProposal, creditProposal, same]
  · rw [creditProposal_of_not_mayCount counted, creditProposal_of_not_mayCount counted]

end Runs

theorem engagementKeeps_of_settled {params : TimeWeightParams} {dates : ℚ → Prop}
    {first second : ℚ}
    (settled : ∀ instant, dates instant → WeighsTheSame params first second instant) :
    EngagementKeeps params dates first second := by
  intro js inputs proposals reviews users weighed dated
  rw [← weighed] at settled
  rw [computeProposalEngagement, computeProposalEngagement]
  refine congrArg (Option.map _) ?_
  generalize OrderedMap.ofPairs ((scoredDids js users).map fun did =>
    (did, UserScoreAccumulator.empty)) = accumulators
  induction proposals generalizing accumulators with
  | nil => rfl
  | cons proposal rest ih =>
      rw [List.foldlM_cons, List.foldlM_cons,
        creditProposal_congr settled (dated proposal (List.mem_cons_self ..))]
      exact congrArg (Option.bind _) (funext fun next =>
        ih (fun other member => dated other (List.mem_cons_of_mem _ member)) next)

end Engagement

/-! ## Weights that change -/

section Change

/-- A runtime that dates everything at one instant. -/
private def datingRuntime (instant : ℚ) : ScoreRuntime where
  parseDate _ := .real instant
  parseFloat _ := .real 5
  parseTeamMembers _ := some []
  localeCompare := RowOrder.byKey id

/-- What scales the difference between two weights to the precision of scores. -/
def unitOf (one other : ℚ) : ℚ := 1 / (100 * |one - other|)

theorem floor_ne_floor {one other : ℚ} (apart : |one - other| = 1) :
    ⌊one + 1 / 2⌋ ≠ ⌊other + 1 / 2⌋ := by
  intro same
  have near := Int.abs_sub_lt_one_of_floor_eq_floor same
  rw [add_sub_add_right_eq_sub, apart] at near
  exact lt_irrefl 1 near

theorem floor_unitOf_ne {one other : ℚ} (apart : one ≠ other) :
    ⌊unitOf one other * one * 100 + 1 / 2⌋ ≠ ⌊unitOf one other * other * 100 + 1 / 2⌋ := by
  refine floor_ne_floor ?_
  have positive : 0 < |one - other| := abs_pos.mpr (sub_ne_zero.mpr apart)
  rw [show unitOf one other * one * 100 - unitOf one other * other * 100 =
    unitOf one other * 100 * (one - other) by ring, abs_mul, unitOf, abs_of_pos (by positivity)]
  field_simp

theorem roundScore_unitOf_ne {one other : ℚ} (apart : one ≠ other) :
    ContributionScore.roundScore (.real (unitOf one other * one)) ≠
      ContributionScore.roundScore (.real (unitOf one other * other)) := by
  intro same
  have rounded : ∀ score : ℚ, ContributionScore.roundScore (.real score) =
      .real (⌊score * 100 + 1 / 2⌋ / 100) := by
    intro score
    norm_num [ContributionScore.roundScore, ContributionScore.SCORE_PRECISION, Number.round,
      Number.lift]
  rw [rounded, rounded] at same
  have quotients := Number.real.inj same
  rw [div_left_inj' (by norm_num)] at quotients
  exact floor_unitOf_ne apart (by exact_mod_cast quotients)

private def datedComment : CommentRecord := ⟨1, 0, false, 7, 3, "", "", "", ""⟩

private def identified : UserRecord := ⟨7, "", "", "", 1, "did:plc:a"⟩

open ContributionScore in
/-- A comment without votes by somebody who is not related earns its base score by its weight. -/
theorem scoreComment_datedComment (instant base now : ℚ) (params : TimeWeightParams)
    (authors : OrderedMap Int Int) :
    scoreComment (datingRuntime instant)
      ⟨base, 0, 0, 1, 1, params.engagementWindowMonths, params.monthlyDecayRatePercent⟩ now
      ⟨.empty, .empty, ⟨.empty, authors⟩⟩ datedComment =
        if 0 < weightAt params (ageAt instant now) then
          ⟨.real (base * weightAt params (ageAt instant now)), true⟩ else ⟨0, false⟩ := by
  have weight : computeTimeWeightFromString (datingRuntime instant) datedComment.createdAt now
      ⟨params.engagementWindowMonths, params.monthlyDecayRatePercent⟩ = _ :=
    calculateTimeWeight_real params instant now
  simp only [scoreComment, ContributionScoreParams.timeWeight, weight, computeCommentScore]
  by_cases positive : 0 < weightAt params (ageAt instant now)
  · have plain : (1 : ℚ) * weightAt params (ageAt instant now) * 1 * (base + 0 * 0 - 0 * 0) =
        base * weightAt params (ageAt instant now) := by ring
    simp only [positive, decide_true, if_true]
    exact congrArg (CommentScoreResult.mk · true) (congrArg Number.real plain)
  · simp [positive]

open ContributionScore in
theorem computeContributionScore_datedComment (instant base now : ℚ) (params : TimeWeightParams) :
    computeContributionScore (datingRuntime instant)
      ⟨base, 0, 0, 1, 1, params.engagementWindowMonths, params.monthlyDecayRatePercent⟩ now
      ⟨[datedComment], [], [], [identified]⟩ =
        some [⟨"did:plc:a", roundScore (.real (base * weightAt params (ageAt instant now)))⟩] := by
  rw [computeContributionScore]
  have teams : ([] : List ProposalRecord).mapM (readTeam (datingRuntime instant)) = some [] := rfl
  have dids : scoredDids (datingRuntime instant) [identified] = ["did:plc:a"] := by
    have listed : distinctBy id ((usersWithDid [identified]).map (·.did)) = ["did:plc:a"] := by
      decide +kernel
    rw [scoredDids, listed]
    rfl
  have owner : (userIdToDid [identified]).get? datedComment.userId = some "did:plc:a" := by
    decide +kernel
  have score := scoreComment_datedComment instant base now params
    (buildCommentAuthorMap [datedComment])
  have maps : (aggregateVotesByComment [], buildProjectOwnerMap [], buildRelationMap []) =
      (.empty, .empty, .empty) := rfl
  rcases Prod.mk.inj maps with ⟨votes, maps⟩
  rcases Prod.mk.inj maps with ⟨owners, relations⟩
  simp only [teams, dids, Option.map_some, List.foldl_cons, List.foldl_nil, creditComment, owner,
    votes, owners, relations, score]
  have first : (OrderedMap.ofPairs [("did:plc:a", (0 : Number))]).get? "did:plc:a" = some 0 := rfl
  by_cases positive : 0 < weightAt params (ageAt instant now)
  · have sum : (0 : Number) + .real (base * weightAt params (ageAt instant now)) =
        .real (base * weightAt params (ageAt instant now)) := congrArg Number.real (zero_add _)
    simp only [positive, if_true, List.map_cons, List.map_nil, OrderedMap.upsert,
      OrderedMap.get?_set_self, first, Option.getD_some, sum]
    rfl
  · have zero := le_antisymm (not_lt.mp positive) (weightAt_nonneg _)
    simp only [zero, lt_irrefl, if_false, mul_zero, Bool.false_eq_true, List.map_cons,
      List.map_nil, first, Option.getD_some]
    rfl

open ContributionScore in
theorem settled_of_contributionKeeps {params : TimeWeightParams} {dates : ℚ → Prop}
    {first second : ℚ} (keeps : ContributionKeeps params dates first second) {instant : ℚ}
    (dated : dates instant) : WeighsTheSame params first second instant := by
  by_contra apart
  have same := keeps (datingRuntime instant)
    ⟨unitOf (weightAt params (ageAt instant first)) (weightAt params (ageAt instant second)),
      0, 0, 1, 1, params.engagementWindowMonths, params.monthlyDecayRatePercent⟩
    ⟨[datedComment], [], [], [identified]⟩ rfl
    (fun _ _ _ _ exactly => Number.real.inj exactly ▸ dated)
  rw [computeContributionScore_datedComment, computeContributionScore_datedComment] at same
  exact roundScore_unitOf_ne apart (congrArg ContributionScoreResult.contribution_score
    (List.head_eq_of_cons_eq (Option.some.inj same)))

private def datedProposal : ProposalRecord :=
  ⟨1, 31, 1, 7, "", "", "", "", "", "", true, true, "", none, ""⟩

private def fullReview : ReviewRecord := ⟨some 1, some 8, "community", "5", "", "", "", "", none⟩

open ProposalEngagement in
/-- A concluded proposal that the community likes fully earns its weight. -/
theorem scoreProposal_datedProposal (instant reward now : ℚ) (params : TimeWeightParams) :
    (scoreProposal (datingRuntime instant)
      ⟨reward, 0, params.engagementWindowMonths, params.monthlyDecayRatePercent⟩ now
      (aggregateCommunityRatings (datingRuntime instant) [fullReview]) datedProposal) =
        if 0 < weightAt params (ageAt instant now) then
          ⟨.real (weightAt params (ageAt instant now)), 0, true, none⟩
        else ⟨0, 0, false, some .outsideEngagementWindow⟩ := by
  have weight : computeTimeWeightFromString (datingRuntime instant) datedProposal.createdAt now
      ⟨params.engagementWindowMonths, params.monthlyDecayRatePercent⟩ = _ :=
    calculateTimeWeight_real params instant now
  have norm : computeCommunityScore datedProposal.id (aggregateCommunityRatings
      (datingRuntime instant) [fullReview]) = ⟨1, some (.real 5), some (.real 1)⟩ := by
    have five : (0 : Number) + .real 5 = .real 5 := congrArg Number.real (zero_add 5)
    have read : aggregateCommunityRatings (datingRuntime instant) [fullReview] =
        (OrderedMap.empty.set 1 ⟨0 + .real 5, 0 + 1⟩) := rfl
    rw [computeCommunityScore, read, five, show datedProposal.id = 1 from rfl,
      OrderedMap.get?_set_self]
    norm_num
  simp only [scoreProposal, ProposalEngagementParams.timeWeight, weight, norm,
    computeProposalScore, skipReasonOf]
  have supported : datedProposal.roundId ∈ SUPPORTED_ROUND_IDS := by decide
  have classified : (classifyProposal datedProposal).classification = .fundedConcluded := rfl
  by_cases positive : 0 < weightAt params (ageAt instant now)
  · have whole : Number.real (weightAt params (ageAt instant now)) * .real 1 =
        .real (weightAt params (ageAt instant now)) := congrArg Number.real (mul_one _)
    have earned : Number.real (weightAt params (ageAt instant now)) ≠ 0 := fun none_ =>
      positive.ne' (Number.real.inj none_)
    simp [positive, supported, classified, whole, earned]
  · simp [positive, supported]

open ProposalEngagement in
theorem computeProposalEngagement_datedProposal (instant reward now : ℚ)
    (params : TimeWeightParams) :
    computeProposalEngagement (datingRuntime instant)
      ⟨reward, 0, params.engagementWindowMonths, params.monthlyDecayRatePercent⟩ now
      [datedProposal] [fullReview] [identified] =
        some [⟨"did:plc:a", roundScore (.real (reward * weightAt params (ageAt instant now)))⟩] := by
  rw [computeProposalEngagement]
  have dids : scoredDids (datingRuntime instant) [identified] = ["did:plc:a"] := by
    have listed : distinctBy id ((usersWithDid [identified]).map (·.did)) = ["did:plc:a"] := by
      decide +kernel
    rw [scoredDids, listed]
    rfl
  have owners : proposalDids (userIdToDid [identified]) (buildProposalOwners datedProposal []) =
      ["did:plc:a"] := by decide +kernel
  have first : (OrderedMap.ofPairs [("did:plc:a", UserScoreAccumulator.empty)]).get? "did:plc:a" =
      some .empty := rfl
  have score := scoreProposal_datedProposal instant reward now params
  have team : (datingRuntime instant).parseTeamMembers datedProposal.teamMembers = some [] := rfl
  simp only [dids, List.foldlM_cons, List.foldlM_nil, creditProposal, team, owners, score]
  by_cases positive : 0 < weightAt params (ageAt instant now)
  · have sums : engagementOf ⟨reward, 0, params.engagementWindowMonths,
        params.monthlyDecayRatePercent⟩ (UserScoreAccumulator.empty.add
          ⟨.real (weightAt params (ageAt instant now)), 0, true, none⟩) =
            .real (reward * (0 + weightAt params (ageAt instant now)) - 0 * (0 + 0)) := rfl
    rw [zero_add, zero_mul, sub_zero] at sums
    simp only [positive, if_true, Bool.not_true, Bool.false_eq_true, if_false, List.foldl_cons,
      List.foldl_nil, bind_pure, Option.map_some, List.map_cons, List.map_nil, OrderedMap.upsert,
      OrderedMap.get?_set_self, first, Option.getD_some, sums]
    rfl
  · have zero := le_antisymm (not_lt.mp positive) (weightAt_nonneg _)
    have sums : engagementOf ⟨reward, 0, params.engagementWindowMonths,
        params.monthlyDecayRatePercent⟩ .empty = .real (reward * 0 - 0 * 0) := rfl
    rw [mul_zero, zero_mul, sub_zero] at sums
    simp only [zero, lt_irrefl, if_false, mul_zero, Bool.not_false, if_true, bind_pure,
      Option.map_some, List.map_cons, List.map_nil, first, Option.getD_some, sums]
    rfl

open ProposalEngagement in
theorem settled_of_engagementKeeps {params : TimeWeightParams} {dates : ℚ → Prop}
    {first second : ℚ} (keeps : EngagementKeeps params dates first second) {instant : ℚ}
    (dated : dates instant) : WeighsTheSame params first second instant := by
  by_contra apart
  have same := keeps (datingRuntime instant)
    ⟨unitOf (weightAt params (ageAt instant first)) (weightAt params (ageAt instant second)), 0,
      params.engagementWindowMonths, params.monthlyDecayRatePercent⟩
    [datedProposal] [fullReview] [identified] rfl
    (fun _ _ _ _ exactly => Number.real.inj exactly ▸ dated)
  rw [computeProposalEngagement_datedProposal, computeProposalEngagement_datedProposal] at same
  exact roundScore_unitOf_ne apart (congrArg ProposalEngagementResult.proposal_engagement
    (List.head_eq_of_cons_eq (Option.some.inj same)))

end Change

/-! ## Runs at two times -/

/-- All that is dated among some instants scores the same at both times exactly if nothing that is
dated there changes its weight. -/
theorem scores_keep_iff (params : TimeWeightParams) (dates : ℚ → Prop) (first second : ℚ) :
    (ContributionKeeps params dates first second ↔
      ∀ instant, dates instant → WeighsTheSame params first second instant) ∧
    (EngagementKeeps params dates first second ↔
      ∀ instant, dates instant → WeighsTheSame params first second instant) :=
  ⟨⟨fun keeps _ dated => settled_of_contributionKeeps keeps dated, contributionKeeps_of_settled⟩,
    fun keeps _ dated => settled_of_engagementKeeps keeps dated, engagementKeeps_of_settled⟩

/-- Thirty-one days after it was written, a comment is worth less than on its day, and a proposal
too. -/
theorem retry_scoresLess :
    (¬∀ (js : ScoreRuntime) (inputs : ContributionScore.ContributionScoreParams)
        (data : ContributionScore.ContributionData) (first second : ℚ),
      ContributionScore.computeContributionScore js inputs first data =
        ContributionScore.computeContributionScore js inputs second data) ∧
    ¬∀ (js : ScoreRuntime) (inputs : ProposalEngagement.ProposalEngagementParams)
        (proposals : List ProposalRecord) (reviews : List ReviewRecord) (users : List UserRecord)
        (first second : ℚ),
      ProposalEngagement.computeProposalEngagement js inputs first proposals reviews users =
        ProposalEngagement.computeProposalEngagement js inputs second proposals reviews users := by
  constructor
  · intro same
    exact absurd (same (datingRuntime 0) ⟨1, 1, 1, 1, 1, 12, 10⟩
      ⟨[datedComment], [], [], [identified]⟩ 0 (31 * 86400000)) (by decide +kernel)
  · intro same
    exact absurd (same (datingRuntime 0) ⟨1, 1, 12, 10⟩ [datedProposal] [fullReview] [identified] 0
      (31 * 86400000)) (by decide +kernel)

end Reputo.Deepfunding

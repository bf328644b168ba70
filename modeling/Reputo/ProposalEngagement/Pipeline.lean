import Reputo.Deepfunding.TimeWeight
import Reputo.Library.Distinct
import Reputo.Library.OrderedMap

/-!
# The `proposal_engagement` algorithm

Funded proposals reward their owners with what the community made of them, unfunded ones cost
them the rest; older proposals weigh less.  Ratings are texts, and what is not a number is
carried along.
-/

namespace Reputo.ProposalEngagement

open Reputo.Library Reputo.Deepfunding

structure ProposalEngagementParams where
  fundedConcludedRewardWeight : ℚ
  unfundedPenaltyWeight : ℚ
  engagementWindowMonths : ℚ
  monthlyDecayRatePercent : ℚ
  deriving DecidableEq, Repr

def ProposalEngagementParams.timeWeight (params : ProposalEngagementParams) : TimeWeightParams :=
  ⟨params.engagementWindowMonths, params.monthlyDecayRatePercent⟩

def SCORE_PRECISION : Nat := 2

def roundScore (score : Number) : Number :=
  (score * .real (10 ^ SCORE_PRECISION)).round / .real (10 ^ SCORE_PRECISION)

/-! ## What the community made of a proposal -/

structure CommunityRatingStats where
  sum : Number
  count : Nat
  deriving DecidableEq, Repr

structure CommunityScoreResult where
  count : Nat
  avg : Option Number
  norm : Option Number
  deriving DecidableEq, Repr

/-- The proposal that a review of the community is about; `0` and `null` are none. -/
def ratedProposal (review : ReviewRecord) : Option Int :=
  if review.reviewType ≠ "community" then none else review.proposalId.filter (· ≠ 0)

def addRating (js : ScoreRuntime) (byProposal : OrderedMap Int CommunityRatingStats)
    (review : ReviewRecord) : OrderedMap Int CommunityRatingStats :=
  match ratedProposal review with
  | none => byProposal
  | some proposalId =>
      let rating := js.parseFloat review.overallRating
      byProposal.upsert proposalId fun entry =>
        let entry := entry.getD ⟨0, 0⟩
        ⟨entry.sum + rating, entry.count + 1⟩

def aggregateCommunityRatings (js : ScoreRuntime) (reviews : List ReviewRecord) :
    OrderedMap Int CommunityRatingStats :=
  reviews.foldl (addRating js) .empty

def computeCommunityScore (proposalId : Int)
    (ratingStats : OrderedMap Int CommunityRatingStats) : CommunityScoreResult :=
  match ratingStats.get? proposalId with
  | none => ⟨0, none, none⟩
  | some stats =>
      if stats.count = 0 then ⟨0, none, none⟩
      else
        let avg := stats.sum / .real stats.count
        ⟨stats.count, some avg, some (avg / .real 5)⟩

/-! ## Scores of proposals -/

inductive ProposalClassification where
  | fundedConcluded
  | unfunded
  | other
  deriving DecidableEq, Repr

structure ProposalStatusInfo where
  isAwarded : Bool
  isCompleted : Bool
  classification : ProposalClassification
  deriving DecidableEq, Repr

def classifyProposal (proposal : ProposalRecord) : ProposalStatusInfo where
  isAwarded := proposal.isAwarded
  isCompleted := proposal.isCompleted
  classification :=
    if proposal.isAwarded && proposal.isCompleted then .fundedConcluded
    else if !proposal.isAwarded then .unfunded else .other

def SUPPORTED_ROUND_IDS : List Int := [31, 36, 107]

inductive ProposalSkipReason where
  | unsupportedRound
  | invalidCreatedAt
  | outsideEngagementWindow
  | noCommunityReviews
  | notRewardOrPenaltyClass
  deriving DecidableEq, Repr

structure ProposalScoreInput where
  roundId : Int
  classification : ProposalClassification
  communityScore : CommunityScoreResult
  timeWeight : TimeWeightResult
  deriving DecidableEq, Repr

structure ProposalScoreResult where
  proposalReward : Number
  proposalPenalty : Number
  scored : Bool
  skipReason : Option ProposalSkipReason
  deriving DecidableEq, Repr

/-- Why a proposal is not scored. -/
def skipReasonOf (input : ProposalScoreInput) : Option ProposalSkipReason :=
  if ¬input.roundId ∈ SUPPORTED_ROUND_IDS then some .unsupportedRound
  else if !input.timeWeight.isValid then some .invalidCreatedAt
  else if !input.timeWeight.isWithinWindow then some .outsideEngagementWindow
  else if input.communityScore.norm = none then some .noCommunityReviews
  else if input.classification = .other then some .notRewardOrPenaltyClass
  else none

def computeProposalScore (input : ProposalScoreInput) : ProposalScoreResult :=
  match skipReasonOf input with
  | some skipReason => ⟨0, 0, false, some skipReason⟩
  | none =>
      match input.communityScore.norm with
      | none => ⟨0, 0, false, some .noCommunityReviews⟩
      | some norm =>
          let tw := input.timeWeight.tw
          let proposalReward :=
            if input.classification = .fundedConcluded then tw * norm else 0
          let proposalPenalty :=
            if input.classification = .unfunded then tw * (.real 1 - norm) else 0
          ⟨proposalReward, proposalPenalty, proposalReward ≠ 0 || proposalPenalty ≠ 0, none⟩

/-! ## The computation -/

/-- The proposer and the team, without repetition and in order. -/
def buildProposalOwners (proposal : ProposalRecord) (teamMembers : List Int) : List Int :=
  let teamMembersArray := (RowOrder.byKey id).orderBy teamMembers
  (RowOrder.byKey id).orderBy (distinctBy id (proposal.proposerId :: teamMembersArray))

def usersWithDid (users : List UserRecord) : List UserRecord :=
  users.filter fun user => JsText.trim user.did ≠ ""

def userIdToDid (users : List UserRecord) : OrderedMap Int String :=
  .ofPairs ((usersWithDid users).map fun user => (user.id, user.did))

/-- The identities that are scored. -/
def scoredDids (js : ScoreRuntime) (users : List UserRecord) : List String :=
  js.localeCompare.orderBy (distinctBy id ((usersWithDid users).map (·.did)))

structure UserScoreAccumulator where
  positiveSum : Number
  negativeSum : Number
  deriving DecidableEq, Repr

def UserScoreAccumulator.empty : UserScoreAccumulator := ⟨0, 0⟩

def UserScoreAccumulator.add (accumulator : UserScoreAccumulator) (score : ProposalScoreResult) :
    UserScoreAccumulator :=
  ⟨accumulator.positiveSum + score.proposalReward, accumulator.negativeSum + score.proposalPenalty⟩

/-- What an owner's identity is, for the owners of a proposal that have one. -/
def proposalDids (dids : OrderedMap Int String) (owners : List Int) : List String :=
  distinctBy id (owners.filterMap dids.get?)

structure ProposalEngagementResult where
  did : String
  proposal_engagement : Number
  deriving DecidableEq, Repr

section Compute

variable (js : ScoreRuntime) (inputs : ProposalEngagementParams) (now : ℚ)

def scoreProposal (communityRatings : OrderedMap Int CommunityRatingStats)
    (proposal : ProposalRecord) : ProposalScoreResult :=
  computeProposalScore
    { roundId := proposal.roundId
      classification := (classifyProposal proposal).classification
      communityScore := computeCommunityScore proposal.id communityRatings
      timeWeight := computeTimeWeightFromString js proposal.createdAt now inputs.timeWeight }

/-- One proposal, which fails if its team cannot be read. -/
def creditProposal (communityRatings : OrderedMap Int CommunityRatingStats)
    (dids : OrderedMap Int String) (accumulators : OrderedMap String UserScoreAccumulator)
    (proposal : ProposalRecord) : Option (OrderedMap String UserScoreAccumulator) :=
  match js.parseTeamMembers proposal.teamMembers with
  | none => none
  | some teamMembers =>
      let score := scoreProposal js inputs now communityRatings proposal
      if !score.scored then some accumulators
      else
        some ((proposalDids dids (buildProposalOwners proposal teamMembers)).foldl
          (fun accumulators did => accumulators.upsert did fun existing =>
            (existing.getD .empty).add score) accumulators)

def engagementOf (accumulator : UserScoreAccumulator) : Number :=
  .real inputs.fundedConcludedRewardWeight * accumulator.positiveSum -
    .real inputs.unfundedPenaltyWeight * accumulator.negativeSum

/-- The rows of the scores, unless the activity fails. -/
def computeProposalEngagement (proposals : List ProposalRecord) (reviews : List ReviewRecord)
    (users : List UserRecord) : Option (List ProposalEngagementResult) :=
  let dids := scoredDids js users
  let communityRatings := aggregateCommunityRatings js reviews
  let initial : OrderedMap String UserScoreAccumulator := .ofPairs (dids.map fun did => (did, .empty))
  (proposals.foldlM (creditProposal js inputs now communityRatings (userIdToDid users))
    initial).map fun didAccumulators =>
      (js.localeCompare.comap (·.did)).orderBy (dids.map fun did =>
        ⟨did, roundScore (engagementOf inputs ((didAccumulators.get? did).getD .empty))⟩)

end Compute

end Reputo.ProposalEngagement

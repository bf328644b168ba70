import Reputo.Deepfunding.TimeWeight
import Reputo.Library.Distinct
import Reputo.Library.OrderedMap

/-!
# The `contribution_score` algorithm

A comment scores by its votes, more if an owner of the project likes it, less if its author is
close to the project or answers to himself, and less with time.
-/

namespace Reputo.ContributionScore

open Reputo.Library Reputo.Deepfunding

structure ContributionScoreParams where
  commentBaseScore : ℚ
  commentUpvoteWeight : ℚ
  commentDownvoteWeight : ℚ
  selfInteractionPenaltyFactor : ℚ
  projectOwnerUpvoteBonusMultiplier : ℚ
  engagementWindowMonths : ℚ
  monthlyDecayRatePercent : ℚ
  deriving DecidableEq, Repr

def ContributionScoreParams.timeWeight (params : ContributionScoreParams) : TimeWeightParams :=
  ⟨params.engagementWindowMonths, params.monthlyDecayRatePercent⟩

def SCORE_PRECISION : Nat := 2

def roundScore (score : Number) : Number :=
  (score * .real (10 ^ SCORE_PRECISION)).round / .real (10 ^ SCORE_PRECISION)

/-! ## Votes -/

structure VoteStats where
  upvotes : Nat
  downvotes : Nat
  upvoterIds : List Int
  deriving DecidableEq, Repr

def VoteStats.empty : VoteStats := ⟨0, 0, []⟩

def VoteStats.addVote (stats : VoteStats) (vote : CommentVoteRecord) : VoteStats :=
  if vote.voteType = "upvote" then
    { stats with
      upvotes := stats.upvotes + 1
      upvoterIds := if vote.voterId ∈ stats.upvoterIds then stats.upvoterIds
        else stats.upvoterIds ++ [vote.voterId] }
  else if vote.voteType = "downvote" then { stats with downvotes := stats.downvotes + 1 }
  else stats

def aggregateVotesByComment (commentVotes : List CommentVoteRecord) : OrderedMap Int VoteStats :=
  commentVotes.foldl (fun voteMap vote => voteMap.upsert vote.commentId fun entry =>
    (entry.getD .empty).addVote vote) .empty

def getVoteStats (commentId : Int) (voteMap : OrderedMap Int VoteStats) : VoteStats :=
  (voteMap.get? commentId).getD .empty

/-! ## Owners and self-interaction -/

structure OwnerBonusResult where
  ownerUpvoted : Bool
  ownerBonus : ℚ
  deriving DecidableEq, Repr

/-- The first upvote of an owner earns the bonus. -/
def computeOwnerBonus (proposalId : Int) (votes : VoteStats)
    (projectOwnerMap : OrderedMap Int (List Int)) (bonusMultiplier : ℚ) : OwnerBonusResult :=
  match projectOwnerMap.get? proposalId with
  | none => ⟨false, 1⟩
  | some projectOwners =>
      if votes.upvoterIds.any fun upvoterId => upvoterId ∈ projectOwners then
        ⟨true, bonusMultiplier⟩
      else ⟨false, 1⟩

structure SelfInteractionContext where
  relationMap : OrderedMap String Bool
  commentAuthorMap : OrderedMap Int Int

structure SelfInteractionResult where
  isRelatedProject : Bool
  isSameAuthorReply : Bool
  discountConditions : Nat
  discountMultiplier : ℚ
  deriving DecidableEq, Repr

/-- `${userId}-${proposalId}`. -/
def relationKey (userId proposalId : Int) : String := s!"{userId}-{proposalId}"

/-- Each condition applies the penalty factor once more. -/
def detectSelfInteraction (comment : CommentRecord) (penaltyFactor : ℚ)
    (context : SelfInteractionContext) : SelfInteractionResult :=
  let isRelatedProject :=
    context.relationMap.get? (relationKey comment.userId comment.proposalId) = some true
  let isSameAuthorReply := comment.isReply && 0 < comment.parentId &&
    context.commentAuthorMap.get? comment.parentId = some comment.userId
  let discountConditions :=
    (if isRelatedProject then 1 else 0) + (if isSameAuthorReply then 1 else 0)
  { isRelatedProject
    isSameAuthorReply
    discountConditions
    discountMultiplier := penaltyFactor ^ discountConditions }

/-! ## Scores of comments -/

structure CommentScoreInput where
  votes : VoteStats
  params : ContributionScoreParams
  timeWeight : TimeWeightResult
  selfInteraction : SelfInteractionResult
  ownerBonus : OwnerBonusResult
  deriving DecidableEq, Repr

structure CommentScoreResult where
  score : Number
  scored : Bool
  deriving DecidableEq, Repr

def calculateBaseScore (votes : VoteStats) (params : ContributionScoreParams) : ℚ :=
  params.commentBaseScore + votes.upvotes * params.commentUpvoteWeight -
    votes.downvotes * params.commentDownvoteWeight

def computeCommentScore (input : CommentScoreInput) : CommentScoreResult :=
  if !input.timeWeight.isValid || !input.timeWeight.isWithinWindow then ⟨0, false⟩
  else
    let baseScore := calculateBaseScore input.votes input.params
    ⟨.real input.ownerBonus.ownerBonus * input.timeWeight.tw *
      .real input.selfInteraction.discountMultiplier * .real baseScore, true⟩

/-! ## The computation -/

def buildCommentAuthorMap (comments : List CommentRecord) : OrderedMap Int Int :=
  .ofPairs (comments.map fun comment => (comment.commentId, comment.userId))

/-- A proposal with its team, where it can be read. -/
def readTeam (js : ScoreRuntime) (proposal : ProposalRecord) : Option (ProposalRecord × List Int) :=
  (js.parseTeamMembers proposal.teamMembers).map fun teamMembers => (proposal, teamMembers)

def buildRelationMap (teams : List (ProposalRecord × List Int)) : OrderedMap String Bool :=
  .ofPairs (teams.flatMap fun team => (team.1.proposerId :: team.2).map fun userId =>
    (relationKey userId team.1.id, true))

def buildProjectOwnerMap (teams : List (ProposalRecord × List Int)) : OrderedMap Int (List Int) :=
  .ofPairs (teams.map fun team => (team.1.id, distinctBy id (team.1.proposerId :: team.2)))

def usersWithDid (users : List UserRecord) : List UserRecord :=
  users.filter fun user => JsText.trim user.did ≠ ""

def userIdToDid (users : List UserRecord) : OrderedMap Int String :=
  .ofPairs ((usersWithDid users).map fun user => (user.id, user.did))

/-- The identities that are scored. -/
def scoredDids (js : ScoreRuntime) (users : List UserRecord) : List String :=
  js.localeCompare.orderBy (distinctBy id ((usersWithDid users).map (·.did)))

structure ContributionScoreResult where
  did : String
  contribution_score : Number
  deriving DecidableEq, Repr

/-- What all comments of a database are scored by. -/
structure ScoringContext where
  voteMap : OrderedMap Int VoteStats
  projectOwnerMap : OrderedMap Int (List Int)
  selfInteraction : SelfInteractionContext

section Compute

variable (js : ScoreRuntime) (params : ContributionScoreParams) (now : ℚ)

def scoreComment (context : ScoringContext) (comment : CommentRecord) : CommentScoreResult :=
  let votes := getVoteStats comment.commentId context.voteMap
  computeCommentScore
    { votes
      params
      timeWeight := computeTimeWeightFromString js comment.createdAt now params.timeWeight
      selfInteraction := detectSelfInteraction comment params.selfInteractionPenaltyFactor
        context.selfInteraction
      ownerBonus := computeOwnerBonus comment.proposalId votes context.projectOwnerMap
        params.projectOwnerUpvoteBonusMultiplier }

def creditComment (context : ScoringContext) (dids : OrderedMap Int String)
    (didScores : OrderedMap String Number) (comment : CommentRecord) : OrderedMap String Number :=
  match dids.get? comment.userId with
  | none => didScores
  | some did =>
      let result := scoreComment js params now context comment
      if result.scored then
        didScores.upsert did fun existing => existing.getD 0 + result.score
      else didScores

/-- What the activity loads of a database. -/
structure ContributionData where
  comments : List CommentRecord
  commentVotes : List CommentVoteRecord
  proposals : List ProposalRecord
  users : List UserRecord

/-- The rows of the scores, unless the team of a proposal cannot be read. -/
def computeContributionScore (data : ContributionData) : Option (List ContributionScoreResult) :=
  (data.proposals.mapM (readTeam js)).map fun teams =>
    let dids := scoredDids js data.users
    let context : ScoringContext :=
      { voteMap := aggregateVotesByComment data.commentVotes
        projectOwnerMap := buildProjectOwnerMap teams
        selfInteraction := ⟨buildRelationMap teams, buildCommentAuthorMap data.comments⟩ }
    let initial : OrderedMap String Number := .ofPairs (dids.map fun did => (did, 0))
    let didScores := data.comments.foldl
      (creditComment js params now context (userIdToDid data.users)) initial
    (js.localeCompare.comap (·.did)).orderBy (dids.map fun did =>
      ⟨did, roundScore ((didScores.get? did).getD 0)⟩)

end Compute

end Reputo.ContributionScore

import Mathlib.Tactic.Linarith
import Mathlib.Tactic.NormNum
import Reputo.ContributionScore.Pipeline

/-!
# What votes do to a score

The owner's bonus and the penalties are factors.  They move a score up and down as long as it is
not negative, and the other way where downvotes have made it so.
-/

namespace Reputo.ContributionScore

open Reputo.Library Reputo.Deepfunding

/-- Parameters in the ranges that the definition declares. -/
structure DeclaredParams extends ContributionScoreParams where
  base_ge : 0 ≤ commentBaseScore
  upvote_ge : 0 ≤ commentUpvoteWeight
  downvote_ge : 0 ≤ commentDownvoteWeight
  penalty_ge : 0 ≤ selfInteractionPenaltyFactor
  penalty_le : selfInteractionPenaltyFactor ≤ 1
  bonus_ge : 1 ≤ projectOwnerUpvoteBonusMultiplier

/-- A vote of some type on a comment. -/
def isVoteOn (commentId : Int) (voteType : String) (vote : CommentVoteRecord) : Bool :=
  vote.commentId = commentId && vote.voteType = voteType

/-- What the votes on a comment come to. -/
def voteBalance (params : ContributionScoreParams) (commentId : Int)
    (commentVotes : List CommentVoteRecord) : ℚ :=
  params.commentBaseScore +
      commentVotes.countP (isVoteOn commentId "upvote") * params.commentUpvoteWeight -
    commentVotes.countP (isVoteOn commentId "downvote") * params.commentDownvoteWeight

/-- An owner of the project upvoted the comment. -/
def ownerUpvoted (projectOwnerMap : OrderedMap Int (List Int)) (comment : CommentRecord)
    (commentVotes : List CommentVoteRecord) : Prop :=
  ∃ projectOwners, projectOwnerMap.get? comment.proposalId = some projectOwners ∧
    ∃ vote ∈ commentVotes, isVoteOn comment.commentId "upvote" vote ∧ vote.voterId ∈ projectOwners

/-- No owner upvoted the comment yet, but there is one. -/
def OwnerMayUpvote (projectOwnerMap : OrderedMap Int (List Int)) (comment : CommentRecord)
    (commentVotes : List CommentVoteRecord) : Prop :=
  ¬ownerUpvoted projectOwnerMap comment commentVotes ∧
    ∃ projectOwners, projectOwnerMap.get? comment.proposalId = some projectOwners ∧
      projectOwners ≠ []

section Effects

variable (js : ScoreRuntime) (params : ContributionScoreParams) (now : ℚ)
  (projectOwnerMap : OrderedMap Int (List Int)) (comment : CommentRecord)

/-- The score of a comment under some votes, among some relations and authors. -/
def scoreUnder (commentVotes : List CommentVoteRecord) (context : SelfInteractionContext) :
    Number :=
  (scoreComment js params now ⟨aggregateVotesByComment commentVotes, projectOwnerMap, context⟩
    comment).score

/-- The conditions of self-interaction that a comment meets. -/
def conditionsOf (context : SelfInteractionContext) : Nat :=
  (detectSelfInteraction comment params.selfInteractionPenaltyFactor context).discountConditions

/-- One more vote, and one more condition, move the score the right way. -/
structure MovesRight (commentVotes : List CommentVoteRecord) : Prop where
  upvote : ∀ context before after vote, before ++ after = commentVotes →
    isVoteOn comment.commentId "upvote" vote →
      (scoreUnder js params now projectOwnerMap comment (before ++ vote :: after) context).ge
        (scoreUnder js params now projectOwnerMap comment commentVotes context)
  downvote : ∀ context before after vote, before ++ after = commentVotes →
    isVoteOn comment.commentId "downvote" vote →
      (scoreUnder js params now projectOwnerMap comment commentVotes context).ge
        (scoreUnder js params now projectOwnerMap comment (before ++ vote :: after) context)
  selfInteraction : ∀ milder harsher,
    conditionsOf params comment milder ≤ conditionsOf params comment harsher →
      (scoreUnder js params now projectOwnerMap comment commentVotes milder).ge
        (scoreUnder js params now projectOwnerMap comment commentVotes harsher)

end Effects

/-! ## What is counted -/

section Votes

variable (commentId : Int)

theorem getVoteStats_aggregate (commentVotes : List CommentVoteRecord) :
    getVoteStats commentId (aggregateVotesByComment commentVotes) =
      (commentVotes.filter (·.commentId = commentId)).foldl VoteStats.addVote .empty := by
  induction commentVotes using List.reverseRecOn with
  | nil => rfl
  | append_singleton votes vote ih =>
      have step : aggregateVotesByComment (votes ++ [vote]) =
          (aggregateVotesByComment votes).upsert vote.commentId fun entry =>
            (entry.getD .empty).addVote vote := by
        simp only [aggregateVotesByComment, List.foldl_append, List.foldl_cons, List.foldl_nil]
      rw [step, List.filter_append, List.foldl_append]
      by_cases same : vote.commentId = commentId
      · simp only [List.filter_cons, same, decide_true, if_true, List.filter_nil, List.foldl_cons,
          List.foldl_nil, ← ih, getVoteStats, OrderedMap.upsert, OrderedMap.get?_set_self,
          Option.getD_some]
      · simp only [List.filter_cons, same, decide_false, Bool.false_eq_true, if_false,
          List.filter_nil, List.foldl_nil, ← ih, getVoteStats, OrderedMap.upsert,
          OrderedMap.get?_set_of_ne _ _ (Ne.symm same)]

theorem upvotes_foldl (votes : List CommentVoteRecord) (stats : VoteStats) :
    (votes.foldl VoteStats.addVote stats).upvotes =
      stats.upvotes + votes.countP (·.voteType = "upvote") := by
  induction votes generalizing stats with
  | nil => rfl
  | cons vote rest ih =>
      rw [List.foldl_cons, ih, List.countP_cons, VoteStats.addVote]
      by_cases up : vote.voteType = "upvote"
      · simp only [up, if_true, decide_true]
        omega
      · simp only [up, if_false, decide_false, Bool.false_eq_true]
        split <;> rfl

theorem downvotes_foldl (votes : List CommentVoteRecord) (stats : VoteStats) :
    (votes.foldl VoteStats.addVote stats).downvotes =
      stats.downvotes + votes.countP (·.voteType = "downvote") := by
  induction votes generalizing stats with
  | nil => rfl
  | cons vote rest ih =>
      rw [List.foldl_cons, ih, List.countP_cons, VoteStats.addVote]
      by_cases up : vote.voteType = "upvote"
      · have other : ¬vote.voteType = "downvote" := by rw [up]; decide
        rw [if_pos up, decide_eq_false other]
        simp only [Bool.false_eq_true, if_false, Nat.add_zero]
      · rw [if_neg up]
        by_cases down : vote.voteType = "downvote"
        · rw [if_pos down, decide_eq_true down]
          simp only [if_true]
          omega
        · rw [if_neg down, decide_eq_false down]
          simp only [Bool.false_eq_true, if_false, Nat.add_zero]

theorem mem_upvoterIds_foldl (votes : List CommentVoteRecord) (stats : VoteStats) {voterId : Int} :
    voterId ∈ (votes.foldl VoteStats.addVote stats).upvoterIds ↔ voterId ∈ stats.upvoterIds ∨
      ∃ vote ∈ votes, vote.voteType = "upvote" ∧ vote.voterId = voterId := by
  induction votes generalizing stats with
  | nil => simp
  | cons vote rest ih =>
      rw [List.foldl_cons, ih]
      have own : voterId ∈ (stats.addVote vote).upvoterIds ↔ voterId ∈ stats.upvoterIds ∨
          (vote.voteType = "upvote" ∧ vote.voterId = voterId) := by
        unfold VoteStats.addVote
        by_cases up : vote.voteType = "upvote"
        · simp only [up, if_true, true_and]
          split
          · rename_i known
            exact ⟨Or.inl, fun either => either.elim id fun same => same ▸ known⟩
          · rw [List.mem_append, List.mem_singleton, eq_comm]
        · simp only [up, if_false, false_and, or_false]
          split <;> rfl
      rw [own]
      simp only [List.mem_cons, exists_eq_or_imp, or_assoc]

end Votes

/-! ## What a score is made of -/

section Score

variable {js : ScoreRuntime} {params : ContributionScoreParams} {now : ℚ}
  {projectOwnerMap : OrderedMap Int (List Int)} {comment : CommentRecord}

theorem calculateBaseScore_aggregate (params : ContributionScoreParams) (commentId : Int)
    (commentVotes : List CommentVoteRecord) :
    calculateBaseScore (getVoteStats commentId (aggregateVotesByComment commentVotes)) params =
      voteBalance params commentId commentVotes := by
  have among : ∀ voteType, (commentVotes.filter (·.commentId = commentId)).countP
      (·.voteType = voteType) = commentVotes.countP (isVoteOn commentId voteType) := by
    intro voteType
    rw [List.countP_filter]
    exact List.countP_congr fun vote _ => by simp [isVoteOn, Bool.and_comm]
  rw [calculateBaseScore, voteBalance, getVoteStats_aggregate, upvotes_foldl, downvotes_foldl,
    among, among]
  simp only [VoteStats.empty, Nat.zero_add]

/-- The factor of the owner's bonus. -/
def bonusOf (params : ContributionScoreParams) (projectOwnerMap : OrderedMap Int (List Int))
    (comment : CommentRecord) (commentVotes : List CommentVoteRecord) : ℚ :=
  (computeOwnerBonus comment.proposalId
    (getVoteStats comment.commentId (aggregateVotesByComment commentVotes)) projectOwnerMap
    params.projectOwnerUpvoteBonusMultiplier).ownerBonus

theorem mem_upvoterIds_iff {commentId voterId : Int} {commentVotes : List CommentVoteRecord} :
    voterId ∈ (getVoteStats commentId (aggregateVotesByComment commentVotes)).upvoterIds ↔
      ∃ vote ∈ commentVotes, isVoteOn commentId "upvote" vote ∧ vote.voterId = voterId := by
  rw [getVoteStats_aggregate, mem_upvoterIds_foldl]
  constructor
  · rintro (none_ | ⟨vote, member, up, voter⟩)
    · exact absurd none_ List.not_mem_nil
    · rcases List.mem_filter.mp member with ⟨among, own⟩
      refine ⟨vote, among, ?_, voter⟩
      rw [isVoteOn, own, decide_eq_true up]
      rfl
  · rintro ⟨vote, member, kind, voter⟩
    rcases Bool.and_eq_true_iff.mp kind with ⟨own, up⟩
    exact .inr ⟨vote, List.mem_filter.mpr ⟨member, own⟩, of_decide_eq_true up, voter⟩

theorem bonusOf_upvoted {commentVotes : List CommentVoteRecord}
    (upvoted : ownerUpvoted projectOwnerMap comment commentVotes) :
    bonusOf params projectOwnerMap comment commentVotes =
      params.projectOwnerUpvoteBonusMultiplier := by
  rcases upvoted with ⟨projectOwners, owners, vote, member, kind, owner⟩
  have some_ : (getVoteStats comment.commentId
      (aggregateVotesByComment commentVotes)).upvoterIds.any (fun upvoterId =>
        decide (upvoterId ∈ projectOwners)) = true :=
    List.any_eq_true.mpr ⟨vote.voterId, mem_upvoterIds_iff.mpr ⟨vote, member, kind, rfl⟩,
      decide_eq_true owner⟩
  simp only [bonusOf, computeOwnerBonus, owners, some_, if_true]

theorem bonusOf_not_upvoted {commentVotes : List CommentVoteRecord}
    (none_ : ¬ownerUpvoted projectOwnerMap comment commentVotes) :
    bonusOf params projectOwnerMap comment commentVotes = 1 := by
  rw [bonusOf, computeOwnerBonus]
  split
  · rfl
  · rename_i projectOwners owners
    rw [if_neg]
    intro some_
    rcases List.any_eq_true.mp some_ with ⟨voterId, voter, owner⟩
    rcases mem_upvoterIds_iff.mp voter with ⟨vote, member, kind, same⟩
    exact none_ ⟨projectOwners, owners, vote, member, kind, same ▸ of_decide_eq_true owner⟩

/-- A score within the window is a product of factors. -/
theorem scoreUnder_eq (within : (computeTimeWeightFromString js comment.createdAt now
      params.timeWeight).isWithinWindow = true) :
    ∃ weight, 0 < weight ∧ ∀ commentVotes context,
      scoreUnder js params now projectOwnerMap comment commentVotes context =
        .real (bonusOf params projectOwnerMap comment commentVotes * weight *
          params.selfInteractionPenaltyFactor ^ conditionsOf params comment context *
          voteBalance params comment.commentId commentVotes) := by
  rw [computeTimeWeightFromString] at within
  cases created : js.parseDate comment.createdAt with
  | nan =>
      rw [created] at within
      cases within
  | real createdAt =>
      rw [created, calculateTimeWeight_real] at within
      refine ⟨_, of_decide_eq_true within, fun commentVotes context => ?_⟩
      simp only [scoreUnder, scoreComment, computeTimeWeightFromString, created,
        calculateTimeWeight_real, computeCommentScore, calculateBaseScore_aggregate,
        Bool.not_true, Bool.false_or, within, Bool.false_eq_true, if_false, Number.real_mul]
      rfl

theorem countP_insert (test : CommentVoteRecord → Bool) (before after : List CommentVoteRecord)
    (vote : CommentVoteRecord) :
    (before ++ vote :: after).countP test =
      (before ++ after).countP test + if test vote then 1 else 0 := by
  simp only [List.countP_append, List.countP_cons]
  omega

theorem voteBalance_upvote {before after : List CommentVoteRecord} {vote : CommentVoteRecord}
    {commentId : Int} (kind : isVoteOn commentId "upvote" vote) :
    voteBalance params commentId (before ++ vote :: after) =
      voteBalance params commentId (before ++ after) + params.commentUpvoteWeight := by
  have other : isVoteOn commentId "downvote" vote = false := by
    rcases Bool.and_eq_true_iff.mp kind with ⟨_, up⟩
    rw [isVoteOn, of_decide_eq_true up]
    exact Bool.and_false _
  simp only [voteBalance, countP_insert, kind, other, if_true, Bool.false_eq_true, if_false]
  push_cast
  ring

theorem voteBalance_downvote {before after : List CommentVoteRecord} {vote : CommentVoteRecord}
    {commentId : Int} (kind : isVoteOn commentId "downvote" vote) :
    voteBalance params commentId (before ++ vote :: after) =
      voteBalance params commentId (before ++ after) - params.commentDownvoteWeight := by
  have other : isVoteOn commentId "upvote" vote = false := by
    rcases Bool.and_eq_true_iff.mp kind with ⟨_, down⟩
    rw [isVoteOn, of_decide_eq_true down]
    exact Bool.and_false _
  simp only [voteBalance, countP_insert, kind, other, if_true, Bool.false_eq_true, if_false]
  push_cast
  ring

/-- What is upvoted by an owner stays so with more votes. -/
theorem ownerUpvoted_insert {before after : List CommentVoteRecord} (vote : CommentVoteRecord)
    (upvoted : ownerUpvoted projectOwnerMap comment (before ++ after)) :
    ownerUpvoted projectOwnerMap comment (before ++ vote :: after) := by
  rcases upvoted with ⟨projectOwners, owners, other, member, kind, owner⟩
  refine ⟨projectOwners, owners, other, ?_, kind, owner⟩
  rcases List.mem_append.mp member with early | late
  · exact List.mem_append_left _ early
  · exact List.mem_append_right _ (List.mem_cons_of_mem _ late)

/-- A vote that is no upvote earns no bonus. -/
theorem ownerUpvoted_of_downvote {before after : List CommentVoteRecord}
    {vote : CommentVoteRecord} (kind : isVoteOn comment.commentId "downvote" vote)
    (upvoted : ownerUpvoted projectOwnerMap comment (before ++ vote :: after)) :
    ownerUpvoted projectOwnerMap comment (before ++ after) := by
  rcases upvoted with ⟨projectOwners, owners, other, member, up, owner⟩
  refine ⟨projectOwners, owners, other, ?_, up, owner⟩
  rcases List.mem_append.mp member with early | late
  · exact List.mem_append_left _ early
  rcases List.mem_cons.mp late with same | later
  · have downType := of_decide_eq_true (Bool.and_eq_true_iff.mp kind).2
    have upType := of_decide_eq_true (Bool.and_eq_true_iff.mp up).2
    rw [same, downType] at upType
    exact absurd upType (by decide)
  · exact List.mem_append_right _ later

end Score

/-! ## The right way -/

section Right

variable {js : ScoreRuntime} (declared : DeclaredParams) {now : ℚ}
  {projectOwnerMap : OrderedMap Int (List Int)} {comment : CommentRecord}

theorem ge_real {higher lower : ℚ} :
    (Number.real higher).ge (.real lower) = true ↔ lower ≤ higher := decide_eq_true_iff

theorem one_le_bonusOf (commentVotes : List CommentVoteRecord) :
    1 ≤ bonusOf declared.toContributionScoreParams projectOwnerMap comment commentVotes := by
  by_cases upvoted : ownerUpvoted projectOwnerMap comment commentVotes
  · rw [bonusOf_upvoted upvoted]
    exact declared.bonus_ge
  · rw [bonusOf_not_upvoted upvoted]

theorem bonusOf_insert_le (before after : List CommentVoteRecord) (vote : CommentVoteRecord) :
    bonusOf declared.toContributionScoreParams projectOwnerMap comment (before ++ after) ≤
      bonusOf declared.toContributionScoreParams projectOwnerMap comment
        (before ++ vote :: after) := by
  by_cases upvoted : ownerUpvoted projectOwnerMap comment (before ++ after)
  · rw [bonusOf_upvoted upvoted, bonusOf_upvoted (ownerUpvoted_insert vote upvoted)]
  · rw [bonusOf_not_upvoted upvoted]
    exact one_le_bonusOf declared _

/-- A downvote lowers what is multiplied, and nothing else. -/
theorem downvote_right (within : (computeTimeWeightFromString js comment.createdAt now
      declared.timeWeight).isWithinWindow = true) {before after : List CommentVoteRecord}
    {vote : CommentVoteRecord} (kind : isVoteOn comment.commentId "downvote" vote)
    (context : SelfInteractionContext) :
    (scoreUnder js declared.toContributionScoreParams now projectOwnerMap comment
        (before ++ after) context).ge
      (scoreUnder js declared.toContributionScoreParams now projectOwnerMap comment
        (before ++ vote :: after) context) := by
  rcases @scoreUnder_eq js declared.toContributionScoreParams now projectOwnerMap comment within with
    ⟨weight, positive, score⟩
  have same : bonusOf declared.toContributionScoreParams projectOwnerMap comment
      (before ++ vote :: after) =
        bonusOf declared.toContributionScoreParams projectOwnerMap comment (before ++ after) := by
    by_cases upvoted : ownerUpvoted projectOwnerMap comment (before ++ after)
    · rw [bonusOf_upvoted upvoted, bonusOf_upvoted (ownerUpvoted_insert vote upvoted)]
    · rw [bonusOf_not_upvoted upvoted,
        bonusOf_not_upvoted fun later => upvoted (ownerUpvoted_of_downvote kind later)]
  have bonus := @one_le_bonusOf declared projectOwnerMap comment (before ++ after)
  have factor := pow_nonneg declared.penalty_ge
    (conditionsOf declared.toContributionScoreParams comment context)
  rw [score, score, ge_real, same, voteBalance_downvote kind]
  refine mul_le_mul_of_nonneg_left (sub_le_self _ declared.downvote_ge) ?_
  positivity

/-- An upvote that is its owner's first one may earn the bonus. -/
theorem ownerMayUpvote_of_insert {before after : List CommentVoteRecord} {vote : CommentVoteRecord}
    (notYet : ¬ownerUpvoted projectOwnerMap comment (before ++ after))
    (upvoted : ownerUpvoted projectOwnerMap comment (before ++ vote :: after)) :
    OwnerMayUpvote projectOwnerMap comment (before ++ after) := by
  rcases upvoted with ⟨projectOwners, owners, _, _, _, owner⟩
  exact ⟨notYet, projectOwners, owners, List.ne_nil_of_mem owner⟩

/-- An upvote raises what is multiplied, and may raise the factor. -/
theorem upvote_right (within : (computeTimeWeightFromString js comment.createdAt now
      declared.timeWeight).isWithinWindow = true) {before after : List CommentVoteRecord}
    {vote : CommentVoteRecord} (kind : isVoteOn comment.commentId "upvote" vote)
    (context : SelfInteractionContext)
    (condition : 0 ≤ voteBalance declared.toContributionScoreParams comment.commentId
        (before ++ after) ∨ (declared.selfInteractionPenaltyFactor = 1 ∧
          (OwnerMayUpvote projectOwnerMap comment (before ++ after) →
            voteBalance declared.toContributionScoreParams comment.commentId (before ++ after) ≤
              declared.projectOwnerUpvoteBonusMultiplier *
                (voteBalance declared.toContributionScoreParams comment.commentId
                  (before ++ after) + declared.commentUpvoteWeight)))) :
    (scoreUnder js declared.toContributionScoreParams now projectOwnerMap comment
        (before ++ vote :: after) context).ge
      (scoreUnder js declared.toContributionScoreParams now projectOwnerMap comment
        (before ++ after) context) := by
  rcases @scoreUnder_eq js declared.toContributionScoreParams now projectOwnerMap comment within with
    ⟨weight, positive, score⟩
  have raised := @bonusOf_insert_le declared projectOwnerMap comment before after vote
  have bonus := @one_le_bonusOf declared projectOwnerMap comment (before ++ after)
  have bonusAfter := @one_le_bonusOf declared projectOwnerMap comment (before ++ vote :: after)
  have factor := pow_nonneg declared.penalty_ge
    (conditionsOf declared.toContributionScoreParams comment context)
  have more := le_add_of_nonneg_right (a := voteBalance declared.toContributionScoreParams
    comment.commentId (before ++ after)) declared.upvote_ge
  rw [score, score, ge_real, voteBalance_upvote kind]
  rcases condition with nonneg | ⟨none_, outweighed⟩
  · have scaled : bonusOf declared.toContributionScoreParams projectOwnerMap comment
        (before ++ after) * weight * declared.selfInteractionPenaltyFactor ^ conditionsOf
          declared.toContributionScoreParams comment context ≤
        bonusOf declared.toContributionScoreParams projectOwnerMap comment
          (before ++ vote :: after) * weight * declared.selfInteractionPenaltyFactor ^ conditionsOf
            declared.toContributionScoreParams comment context :=
      mul_le_mul_of_nonneg_right (mul_le_mul_of_nonneg_right raised positive.le) factor
    refine mul_le_mul scaled more nonneg ?_
    positivity
  · rw [none_, one_pow, mul_one, mul_one]
    by_cases upvoted : ownerUpvoted projectOwnerMap comment (before ++ after)
    · rw [bonusOf_upvoted upvoted, bonusOf_upvoted (ownerUpvoted_insert vote upvoted)]
      refine mul_le_mul_of_nonneg_left more ?_
      exact mul_nonneg (zero_le_one.trans declared.bonus_ge) positive.le
    · by_cases later : ownerUpvoted projectOwnerMap comment (before ++ vote :: after)
      · rw [bonusOf_not_upvoted upvoted, bonusOf_upvoted later, one_mul,
          mul_comm _ weight, mul_assoc]
        exact mul_le_mul_of_nonneg_left (outweighed (ownerMayUpvote_of_insert upvoted later))
          positive.le
      · rw [bonusOf_not_upvoted upvoted, bonusOf_not_upvoted later, one_mul]
        exact mul_le_mul_of_nonneg_left more positive.le

/-- No condition of self-interaction is met. -/
def stranger : SelfInteractionContext := ⟨.empty, .empty⟩

/-- The author is related to the project. -/
def relative (comment : CommentRecord) : SelfInteractionContext :=
  ⟨OrderedMap.empty.set (relationKey comment.userId comment.proposalId) true, .empty⟩

theorem conditionsOf_stranger (params : ContributionScoreParams) (comment : CommentRecord) :
    conditionsOf params comment stranger = 0 := by
  simp [conditionsOf, detectSelfInteraction, stranger]

theorem conditionsOf_relative (params : ContributionScoreParams) (comment : CommentRecord) :
    conditionsOf params comment (relative comment) = 1 := by
  simp [conditionsOf, detectSelfInteraction, relative]

/-- A penalty on a negative score is none. -/
theorem penalty_none (within : (computeTimeWeightFromString js comment.createdAt now
      declared.timeWeight).isWithinWindow = true) {commentVotes : List CommentVoteRecord}
    (right : MovesRight js declared.toContributionScoreParams now projectOwnerMap comment
      commentVotes)
    (negative : voteBalance declared.toContributionScoreParams comment.commentId
      commentVotes < 0) : declared.selfInteractionPenaltyFactor = 1 := by
  rcases @scoreUnder_eq js declared.toContributionScoreParams now projectOwnerMap comment within with
    ⟨weight, positive, score⟩
  have bonus := @one_le_bonusOf declared projectOwnerMap comment commentVotes
  have milder := right.selfInteraction stranger (relative comment)
    (by rw [conditionsOf_stranger]; exact Nat.zero_le _)
  rw [score, score, ge_real, conditionsOf_stranger, conditionsOf_relative, pow_one, pow_zero,
    mul_one, mul_assoc] at milder
  have factor : 0 < bonusOf declared.toContributionScoreParams projectOwnerMap comment
      commentVotes * weight := by positivity
  have lower := le_of_mul_le_mul_left milder factor
  refine le_antisymm declared.penalty_le ?_
  by_contra below
  exact absurd lower (not_le.mpr (by nlinarith))

/-- The bonus that is left to earn does not outweigh the vote. -/
theorem bonus_outweighed (within : (computeTimeWeightFromString js comment.createdAt now
      declared.timeWeight).isWithinWindow = true) {commentVotes : List CommentVoteRecord}
    (right : MovesRight js declared.toContributionScoreParams now projectOwnerMap comment
      commentVotes)
    (may : OwnerMayUpvote projectOwnerMap comment commentVotes) :
    voteBalance declared.toContributionScoreParams comment.commentId commentVotes ≤
      declared.projectOwnerUpvoteBonusMultiplier *
        (voteBalance declared.toContributionScoreParams comment.commentId commentVotes +
          declared.commentUpvoteWeight) := by
  rcases @scoreUnder_eq js declared.toContributionScoreParams now projectOwnerMap comment within with
    ⟨weight, positive, score⟩
  rcases may with ⟨notYet, projectOwners, owners, some_⟩
  rcases List.exists_mem_of_ne_nil projectOwners some_ with ⟨owner, member⟩
  have kind : isVoteOn comment.commentId "upvote" ⟨owner, comment.commentId, "upvote", none⟩ =
      true := by simp [isVoteOn]
  have upvoted : ownerUpvoted projectOwnerMap comment
      ([] ++ (⟨owner, comment.commentId, "upvote", none⟩ : CommentVoteRecord) :: commentVotes) :=
    ⟨projectOwners, owners, _, List.mem_cons_self, kind, member⟩
  have raised := right.upvote stranger [] commentVotes _ rfl kind
  rw [score, score, ge_real, conditionsOf_stranger, bonusOf_upvoted upvoted,
    bonusOf_not_upvoted notYet, voteBalance_upvote kind, pow_zero, mul_one, mul_one, one_mul,
    mul_comm _ weight, mul_assoc] at raised
  exact le_of_mul_le_mul_left raised positive

end Right

private def datedRuntime : ScoreRuntime where
  parseDate _ := .real 0
  parseFloat _ := .nan
  parseTeamMembers _ := some []
  localeCompare := RowOrder.byKey id

/-- Votes weigh one, an owner's upvote doubles and a condition halves the score. -/
private def halving : DeclaredParams where
  commentBaseScore := 0
  commentUpvoteWeight := 1
  commentDownvoteWeight := 1
  selfInteractionPenaltyFactor := 1 / 2
  projectOwnerUpvoteBonusMultiplier := 2
  engagementWindowMonths := 12
  monthlyDecayRatePercent := 10
  base_ge := le_refl 0
  upvote_ge := zero_le_one
  downvote_ge := zero_le_one
  penalty_ge := by norm_num
  penalty_le := by norm_num
  bonus_ge := by norm_num

private def firstComment : CommentRecord := ⟨1, 0, false, 7, 3, "", "", "", ""⟩

end Reputo.ContributionScore

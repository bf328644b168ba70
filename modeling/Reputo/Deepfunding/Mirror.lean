import Reputo.Deepfunding.Portal
import Reputo.Library.Result
import Reputo.Library.Table

/-!
# The mirror of the portal

A snapshot mirrors what the portal serves in a database of its own.  Rows are inserted plainly,
in one transaction for each page; some tables have the keys of the portal, and others number
their rows.
-/

namespace Reputo.Deepfunding

open Reputo.Library

/-! ## Records -/

/-- `JSON.stringify` of whole numbers. -/
def stringifyIds (ids : List Int) : String :=
  "[" ++ ",".intercalate (ids.map toString) ++ "]"

structure RoundRecord where
  id : Int
  name : String
  slug : String
  description : Option String
  poolIds : String
  deriving DecidableEq, Repr

def normalizeRoundToRecord (data : Round) : RoundRecord where
  id := data.id
  name := data.name
  slug := data.slug
  description := JsText.truthyText data.description
  poolIds := stringifyIds data.pool_id

structure PoolRecord where
  id : Int
  name : String
  slug : String
  maxFundingAmount : Int
  description : Option String
  deriving DecidableEq, Repr

def normalizePoolToRecord (data : Pool) : PoolRecord where
  id := data.id
  name := data.name
  slug := data.slug
  maxFundingAmount := data.max_funding_amount
  description := JsText.truthyText data.description

structure ProposalRecord where
  id : Int
  roundId : Int
  poolId : Int
  proposerId : Int
  title : String
  content : String
  link : String
  featureImage : String
  requestedAmount : String
  awardedAmount : String
  isAwarded : Bool
  isCompleted : Bool
  createdAt : String
  updatedAt : Option String
  teamMembers : String
  deriving DecidableEq, Repr

def normalizeProposalToRecord (round_id : Int) (data : Proposal) : ProposalRecord where
  id := data.id
  roundId := round_id
  poolId := data.pool_id
  proposerId := data.proposer_id
  title := data.title
  content := data.content
  link := data.link
  featureImage := data.feature_image
  requestedAmount := data.requested_amount
  awardedAmount := data.awarded_amount
  isAwarded := data.is_awarded
  isCompleted := data.is_completed
  createdAt := data.created_at
  updatedAt := data.updated_at
  teamMembers := stringifyIds data.team_members

/-- Without the id of the portal: the database numbers milestones. -/
structure MilestoneRecord where
  proposalId : Int
  title : String
  status : String
  description : String
  developmentDescription : String
  budget : Int
  createdAt : String
  updatedAt : String
  deriving DecidableEq, Repr

def normalizeMilestoneToRecord (data : Milestone) : MilestoneRecord where
  proposalId := data.proposal_id
  title := data.title
  status := data.status
  description := data.description
  developmentDescription := data.development_description
  budget := data.budget
  createdAt := data.created_at
  updatedAt := data.updated_at

/-- Without the id of the portal: the database numbers reviews. -/
structure ReviewRecord where
  proposalId : Option Int
  reviewerId : Option Int
  reviewType : String
  overallRating : String
  feasibilityRating : String
  viabilityRating : String
  desirabilityRating : String
  usefulnessRating : String
  createdAt : Option String
  deriving DecidableEq, Repr

def normalizeReviewToRecord (data : Review) : ReviewRecord where
  proposalId := data.proposal_id
  reviewerId := data.reviewer_id
  reviewType := data.review_type
  overallRating := data.overall_rating
  feasibilityRating := data.feasibility_rating
  viabilityRating := data.viability_rating
  desirabilityRating := data.desirability_rating
  usefulnessRating := data.usefulness_rating
  createdAt := data.created_at

structure CommentRecord where
  commentId : Int
  parentId : Int
  isReply : Bool
  userId : Int
  proposalId : Int
  content : String
  commentVotes : String
  createdAt : String
  updatedAt : String
  deriving DecidableEq, Repr

def normalizeCommentToRecord (data : Comment) : CommentRecord where
  commentId := data.comment_id
  parentId := data.parent_id
  isReply := data.is_reply
  userId := data.user_id
  proposalId := data.proposal_id
  content := data.content
  commentVotes := data.comment_votes
  createdAt := data.created_at
  updatedAt := data.updated_at

structure CommentVoteRecord where
  voterId : Int
  commentId : Int
  voteType : String
  createdAt : Option String
  deriving DecidableEq, Repr

def normalizeCommentVoteToRecord (data : CommentVote) : CommentVoteRecord where
  voterId := data.voter_id
  commentId := data.comment_id
  voteType := data.vote_type
  createdAt := data.created_at

structure UserRecord where
  id : Int
  collectionId : String
  userName : String
  email : String
  totalProposals : Int
  did : String
  deriving DecidableEq, Repr

def toCanonicalPortalDid (raw : Option String) : String :=
  match raw with
  | none => ""
  | some raw =>
      let trimmed := JsText.trim raw
      if trimmed = "" then ""
      else if trimmed.startsWith "did:" then trimmed else s!"did:plc:{trimmed}"

def normalizeUserToRecord (data : User) : UserRecord where
  id := data.id
  collectionId := data.collection_id
  userName := data.user_name
  email := data.email
  totalProposals := data.total_proposals
  did := toCanonicalPortalDid data.did

/-! ## The database -/

/-- A table that numbers its rows. -/
structure NumberedTable (ρ : Type) where
  rows : List (Nat × ρ)
  sequence : Nat
  deriving DecidableEq, Repr

def NumberedTable.empty {ρ : Type} : NumberedTable ρ := ⟨[], 0⟩

def NumberedTable.insert {ρ : Type} (table : NumberedTable ρ) (row : ρ) :
    Option (NumberedTable ρ) :=
  some ⟨table.rows ++ [(table.sequence + 1, row)], table.sequence + 1⟩

abbrev RoundTable := Table RoundRecord (·.id)

abbrev ProposalTable := Table ProposalRecord (·.id)

abbrev PoolTable := Table PoolRecord (·.id)

abbrev CommentTable := Table CommentRecord (·.commentId)

abbrev CommentVoteTable := Table CommentVoteRecord fun vote => (vote.voterId, vote.commentId)

abbrev UserTable := Table UserRecord (·.id)

structure DeepFundingPortalDb where
  rounds : RoundTable
  proposals : ProposalTable
  pools : PoolTable
  milestones : NumberedTable MilestoneRecord
  reviews : NumberedTable ReviewRecord
  comments : CommentTable
  commentVotes : CommentVoteTable
  users : UserTable

def createDb : DeepFundingPortalDb :=
  ⟨.empty, .empty, .empty, .empty, .empty, .empty, .empty, .empty⟩

def DEFAULT_CHUNK_SIZE : Nat := 100

/-- The slices of an array from multiples of a size on. -/
def chunkArray {α : Type} (array : List α) (size : Nat) : List (List α) :=
  (List.range ((array.length + (size - 1)) / size)).map fun position =>
    (array.drop (position * size)).take size

/-- Inserts the records of items in chunks; if one of them fails, none is inserted. -/
def createMany {α ρ σ : Type} (insert : σ → ρ → Option σ) (normalize : α → ρ) (table : σ)
    (items : List α) : Option σ :=
  (chunkArray items DEFAULT_CHUNK_SIZE).foldlM
    (fun table chunk => (chunk.map normalize).foldlM insert table) table

def createManyRounds (table : RoundTable) (items : List Round) : Option RoundTable :=
  createMany Table.insert normalizeRoundToRecord table items

def createManyProposals (round_id : Int) (table : ProposalTable) (items : List Proposal) :
    Option ProposalTable :=
  createMany Table.insert (normalizeProposalToRecord round_id) table items

def createManyPools (table : PoolTable) (items : List Pool) : Option PoolTable :=
  createMany Table.insert normalizePoolToRecord table items

def createManyMilestones (table : NumberedTable MilestoneRecord) (items : List Milestone) :
    Option (NumberedTable MilestoneRecord) :=
  createMany NumberedTable.insert normalizeMilestoneToRecord table items

def createManyReviews (table : NumberedTable ReviewRecord) (items : List Review) :
    Option (NumberedTable ReviewRecord) :=
  createMany NumberedTable.insert normalizeReviewToRecord table items

def createManyComments (table : CommentTable) (items : List Comment) : Option CommentTable :=
  createMany Table.insert normalizeCommentToRecord table items

def createManyCommentVotes (table : CommentVoteTable) (items : List CommentVote) :
    Option CommentVoteTable :=
  createMany Table.insert normalizeCommentVoteToRecord table items

def createManyUsers (table : UserTable) (items : List User) : Option UserTable :=
  createMany Table.insert normalizeUserToRecord table items

/-- The tables in which a row could not be inserted. -/
inductive InsertFailure where
  | rounds
  | proposals
  | pools
  | milestones
  | reviews
  | comments
  | commentVotes
  | users
  deriving DecidableEq, Repr

/-- Each page of a fetcher is inserted before the next one is asked for. -/
def mirrorPages {α σ : Type} (failure : InsertFailure) (createMany : σ → List α → Option σ)
    (endpoint : Endpoint α) (fuel count : Nat) (nextPage : NextPage) (table : σ) :
    Option (Except InsertFailure σ) :=
  match nextPage.request with
  | none => some (.ok table)
  | some page =>
      match fuel with
      | 0 => none
      | fuel + 1 =>
          let response := endpoint count page
          match createMany table response.data with
          | none => some (.error failure)
          | some table =>
              mirrorPages failure createMany endpoint fuel (count + 1)
                response.pagination.next_page table

/-! ## The activity -/

/-- What is served whole is inserted first. -/
def mirrorWhole (portal : Portal) : Except InsertFailure DeepFundingPortalDb := do
  let rounds ← Result.ofOption .rounds (createManyRounds createDb.rounds portal.rounds)
  let proposals ← portal.rounds.foldlM
    (fun table round => Result.ofOption .proposals
      (createManyProposals round.id table (portal.proposals round.id))) createDb.proposals
  let pools ← Result.ofOption .pools (createManyPools createDb.pools portal.pools)
  return { createDb with rounds, proposals, pools }

/-- The five paginated lists are mirrored one after the other. -/
def mirrorLists (portal : Portal) (fuel : Nat) (db : DeepFundingPortalDb) :
    ExceptT InsertFailure Option DeepFundingPortalDb := do
  let milestones ← ExceptT.mk (mirrorPages .milestones createManyMilestones
    portal.milestonePages fuel 0 firstPage db.milestones)
  let reviews ← ExceptT.mk (mirrorPages .reviews createManyReviews
    portal.reviews fuel 0 firstPage db.reviews)
  let comments ← ExceptT.mk (mirrorPages .comments createManyComments
    portal.comments fuel 0 firstPage db.comments)
  let commentVotes ← ExceptT.mk (mirrorPages .commentVotes createManyCommentVotes
    portal.votes fuel 0 firstPage db.commentVotes)
  let users ← ExceptT.mk (mirrorPages .users createManyUsers
    portal.users fuel 0 firstPage db.users)
  return { db with milestones, reviews, comments, commentVotes, users }

/-- A database that is stored already is kept. -/
def deepfundingSync (stored : Option DeepFundingPortalDb) (portal : Portal) (fuel : Nat) :
    Option (Except InsertFailure DeepFundingPortalDb) :=
  match stored with
  | some db => some (.ok db)
  | none =>
      match mirrorWhole portal with
      | .error failure => some (.error failure)
      | .ok db => (mirrorLists portal fuel db).run

end Reputo.Deepfunding

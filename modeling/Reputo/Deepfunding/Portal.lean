import Mathlib.Data.List.Basic
import Reputo.Library.JsText

/-!
# The DeepFunding portal

The portal serves rounds, pools and proposals whole, and milestones, reviews, comments, votes
and users in pages.  Its lists may change between two requests, so that what an endpoint
answers depends on how often it was asked before.
-/

namespace Reputo.Deepfunding

open Reputo.Library

/-! ## Pages -/

/-- `next_page`, which a portal may also leave out. -/
inductive NextPage where
  | null
  | missing
  | number (page : Int)
  deriving DecidableEq, Repr

structure Pagination where
  current_page : Int
  next_page : NextPage
  deriving DecidableEq, Repr

structure Page (α : Type) where
  data : List α
  pagination : Pagination

/-- The answers of a paginated endpoint: after a number of requests, for a page. -/
abbrev Endpoint (α : Type) := Nat → Option Int → Page α

/-- The page that is asked for next, if the loop goes on. -/
def NextPage.request : NextPage → Option (Option Int)
  | .null => none
  | .missing => some none
  | .number page => some (some page)

/-- The pages that a fetcher yields until `next_page` is null, if that is soon enough. -/
def fetchPages {α : Type} (endpoint : Endpoint α) (fuel count : Nat) (nextPage : NextPage) :
    Option (List (Page α)) :=
  match nextPage.request with
  | none => some []
  | some page =>
      match fuel with
      | 0 => none
      | fuel + 1 =>
          let response := endpoint count page
          (fetchPages endpoint fuel (count + 1) response.pagination.next_page).map (response :: ·)

def firstPage : NextPage := .number 1

/-! ## What the portal serves -/

structure Round where
  id : Int
  name : String
  slug : String
  description : Option String
  pool_id : List Int
  deriving DecidableEq, Repr

structure Pool where
  id : Int
  name : String
  slug : String
  max_funding_amount : Int
  description : Option String
  deriving DecidableEq, Repr

structure Proposal where
  id : Int
  pool_id : Int
  proposer_id : Int
  team_members : List Int
  title : String
  content : String
  link : String
  feature_image : String
  requested_amount : String
  awarded_amount : String
  is_awarded : Bool
  is_completed : Bool
  created_at : String
  updated_at : Option String
  deriving DecidableEq, Repr

structure MilestoneRaw where
  id : Int
  title : String
  status : String
  description : String
  development_description : String
  budget : Int
  deriving DecidableEq, Repr

/-- Milestones are served in groups. -/
structure MilestoneGroup where
  proposal_id : Int
  created_at : String
  updated_at : String
  milestones : List MilestoneRaw
  deriving DecidableEq, Repr

structure Milestone where
  id : Int
  proposal_id : Int
  title : String
  status : String
  description : String
  development_description : String
  budget : Int
  created_at : String
  updated_at : String
  deriving DecidableEq, Repr

structure Review where
  review_id : Int
  proposal_id : Option Int
  reviewer_id : Option Int
  review_type : String
  overall_rating : String
  feasibility_rating : String
  viability_rating : String
  desirability_rating : String
  usefulness_rating : String
  created_at : Option String
  deriving DecidableEq, Repr

structure Comment where
  comment_id : Int
  parent_id : Int
  is_reply : Bool
  user_id : Int
  proposal_id : Int
  content : String
  comment_votes : String
  created_at : String
  updated_at : String
  deriving DecidableEq, Repr

structure CommentVote where
  voter_id : Int
  comment_id : Int
  vote_type : String
  created_at : Option String
  deriving DecidableEq, Repr

structure User where
  id : Int
  collection_id : String
  user_name : String
  email : String
  total_proposals : Int
  did : Option String
  deriving DecidableEq, Repr

structure Portal where
  rounds : List Round
  proposals : Int → List Proposal
  pools : List Pool
  milestones : Endpoint MilestoneGroup
  reviews : Endpoint Review
  comments : Endpoint Comment
  votes : Endpoint CommentVote
  users : Endpoint User

/-- The milestones of a page, each with what its group says. -/
def flattenedMilestones (groups : List MilestoneGroup) : List Milestone :=
  groups.flatMap fun group => group.milestones.map fun milestone =>
    { id := milestone.id
      proposal_id := group.proposal_id
      title := milestone.title
      status := milestone.status
      description := milestone.description
      development_description := milestone.development_description
      budget := milestone.budget
      created_at := group.created_at
      updated_at := group.updated_at }

namespace Portal

variable (portal : Portal)

def milestonePages : Endpoint Milestone := fun count page =>
  let response := portal.milestones count page
  ⟨flattenedMilestones response.data, response.pagination⟩

def fetchMilestones (fuel : Nat) : Option (List (Page Milestone)) :=
  fetchPages portal.milestonePages fuel 0 firstPage

def fetchReviews (fuel : Nat) : Option (List (Page Review)) :=
  fetchPages portal.reviews fuel 0 firstPage

def fetchComments (fuel : Nat) : Option (List (Page Comment)) :=
  fetchPages portal.comments fuel 0 firstPage

def fetchCommentVotes (fuel : Nat) : Option (List (Page CommentVote)) :=
  fetchPages portal.votes fuel 0 firstPage

def fetchUsers (fuel : Nat) : Option (List (Page User)) :=
  fetchPages portal.users fuel 0 firstPage

end Portal

end Reputo.Deepfunding

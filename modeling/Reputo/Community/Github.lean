import Reputo.Community.Discord

/-!
# The crawl of a GitHub repository

Issues with the reviews of each pull request, then the comments on issues and the review
comments, page by page.
-/

namespace Reputo.Community

open Reputo.Library

/-! ## Raw shapes -/

/-- An account without a numeric id is `none`. -/
structure GitHubRawUser where
  id : Option Nat
  bot : Bool
  deriving DecidableEq, Repr

/-- A pull request has the marker, with the time of its merge. -/
structure GitHubRawIssue where
  id : Option Nat
  number : Option Nat
  user : GitHubRawUser
  created_at : Option Int
  pull_request : Option (Option Int)
  deriving DecidableEq, Repr

structure GitHubRawReview where
  id : Option Nat
  user : GitHubRawUser
  pending : Bool
  submitted_at : Option Int
  deriving DecidableEq, Repr

structure GitHubRawComment where
  id : Option Nat
  user : GitHubRawUser
  created_at : Option Int
  deriving DecidableEq, Repr

namespace CommunityGithubActivityType

def pullRequestOpened : String := "pull_request_opened"

def pullRequestMerged : String := "pull_request_merged"

def pullRequestReview : String := "pull_request_review"

def issueOpened : String := "issue_opened"

def comment : String := "comment"

end CommunityGithubActivityType

/-! ## Activity rows -/

def isPullRequest (issue : GitHubRawIssue) : Bool := issue.pull_request.isSome

def pullRequestNumber (issue : GitHubRawIssue) : Option Nat :=
  if isPullRequest issue then issue.number else none

structure GitHubActor where
  id : String
  isBot : Bool
  deriving DecidableEq, Repr

def toActor (user : GitHubRawUser) : Option GitHubActor :=
  user.id.map fun id => ⟨toString id, user.bot⟩

section Records

variable (resourceId : String) (window : CommunityFetchWindow)

/-- A row at a time in the window. -/
def toRecord (type : String) (actor : GitHubActor) (counterparty : Option String)
    (objectId : String) (occurredAt : Option Int) : Option CommunityActivityRecord :=
  match occurredAt with
  | some time =>
      if isWithinWindow time window then
        some ⟨type, actor.id, counterparty, resourceId, objectId, time, 1, actor.isBot, false⟩
      else none
  | none => none

def toIssueRecords (raw : GitHubRawIssue) : List CommunityActivityRecord :=
  match toActor raw.user, raw.id with
  | some actor, some id =>
      match raw.pull_request with
      | none => (toRecord resourceId window CommunityGithubActivityType.issueOpened actor none
          (toString id) raw.created_at).toList
      | some merged_at =>
          (toRecord resourceId window CommunityGithubActivityType.pullRequestOpened actor none
            (toString id) raw.created_at).toList ++
          (toRecord resourceId window CommunityGithubActivityType.pullRequestMerged actor none
            (toString id) merged_at).toList
  | _, _ => []

/-- A review that was submitted, with the author of the pull request. -/
def toReviewRecord (pullRequestAuthorId : Option String) (review : GitHubRawReview) :
    Option CommunityActivityRecord :=
  match toActor review.user, review.id with
  | some actor, some id =>
      if review.pending then none
      else toRecord resourceId window CommunityGithubActivityType.pullRequestReview actor
        pullRequestAuthorId (toString id) review.submitted_at
  | _, _ => none

def toReviewRecords (reviews : List GitHubRawReview) (pullRequestAuthorId : Option String) :
    List CommunityActivityRecord :=
  reviews.filterMap (toReviewRecord resourceId window pullRequestAuthorId)

def toCommentRecord (comment : GitHubRawComment) : Option CommunityActivityRecord :=
  match toActor comment.user, comment.id with
  | some actor, some id =>
      toRecord resourceId window CommunityGithubActivityType.comment actor none (toString id)
        comment.created_at
  | _, _ => none

def toCommentRecords (comments : List GitHubRawComment) : List CommunityActivityRecord :=
  comments.filterMap (toCommentRecord resourceId window)

end Records

/-! ## The iterator -/

inductive GitHubCrawlPhase where
  | issues
  | issueComments
  | reviewComments
  deriving DecidableEq, Repr

namespace GitHubCrawlPhase

def name : GitHubCrawlPhase → String
  | issues => "issues"
  | issueComments => "issue_comments"
  | reviewComments => "review_comments"

/-- The phase that follows in the crawl; the last one follows itself in cursors. -/
def next : GitHubCrawlPhase → GitHubCrawlPhase
  | issues => issueComments
  | issueComments | reviewComments => reviewComments

/-- The phases from one on, in crawl order. -/
def onwards : GitHubCrawlPhase → List GitHubCrawlPhase
  | issues => [issues, issueComments, reviewComments]
  | issueComments => [issueComments, reviewComments]
  | reviewComments => [reviewComments]

end GitHubCrawlPhase

structure GitHubResourceCursor where
  phase : GitHubCrawlPhase
  page : Nat
  deriving DecidableEq, Repr

/-- What the iterator asks the platform; a listing is filtered by the start of the window. -/
inductive GitHubRequest : Type → Type where
  | resolveRepository (resourceId : String) :
      GitHubRequest (Except CommunityApiError (Option String))
  | issues (repository : String) (since : Int) (page : Nat) :
      GitHubRequest (Except CommunityApiError (List GitHubRawIssue))
  | comments (repository : String) (review : Bool) (since : Int) (page : Nat) :
      GitHubRequest (Except CommunityApiError (List GitHubRawComment))
  | reviews (repository : String) (number page : Nat) :
      GitHubRequest (Except CommunityApiError (List GitHubRawReview))

abbrev GitHubCrawl (ρ : Type) := Generator GitHubRequest CommunityRecordBatch ρ

namespace Github

def pageLimit : Nat := 100

/-- Permanent for one repository. -/
def isResourceScopedError : CommunityApiError → Bool
  | .permission => true
  | .http statusCode => statusCode = 404 ∨ statusCode = 410
  | _ => false

/-- What an attempt remembers of a crawl besides its cursor. -/
structure CrawlState where
  partialReasons : List String
  progressProven : Bool
  deriving DecidableEq, Repr

def CrawlState.partialReason (state : CrawlState) (reason : String) : CrawlState :=
  { state with partialReasons := state.partialReasons ++ [reason] }

def CrawlState.proven (state : CrawlState) : CrawlState := { state with progressProven := true }

section Iterate

variable (cursorText : CursorText GitHubResourceCursor) (resourceId : String)
  (window : CommunityFetchWindow) (repository : String)

def parseCursor : Option String → GitHubResourceCursor
  | none => ⟨.issues, 1⟩
  | some text => (cursorText.parse text).getD ⟨.issues, 1⟩

def coverage (status : CommunityCoverageStatus) (reason : Option String) :
    CommunityResourceCoverage :=
  ⟨resourceId, status, reason⟩

def finish (state : CrawlState) : CommunityResourceCoverage :=
  if state.partialReasons = [] then coverage resourceId .complete none
  else coverage resourceId .partialRead (some (String.intercalate "; " state.partialReasons))

/-- Every review of one pull request; the fuel bounds the loop. -/
def reviewPages (number : Nat) (authorId : Option String) :
    Nat → Nat → GitHubCrawl (Except CommunityApiError (List CommunityActivityRecord))
  | 0, _ => pure (.error .other)
  | fuel + 1, page => do
      match ← Generator.request (.reviews repository number page) with
      | .error error => return .error error
      | .ok batch =>
          let records := toReviewRecords resourceId window batch authorId
          if batch.length < pageLimit then return .ok records
          else match ← reviewPages number authorId fuel (page + 1) with
            | .error error => return .error error
            | .ok others => return .ok (records ++ others)

def fetchReviewRecords (fuel : Nat) (issue : GitHubRawIssue) :
    GitHubCrawl (Except CommunityApiError (List CommunityActivityRecord)) :=
  match pullRequestNumber issue with
  | none => pure (.ok [])
  | some number =>
      reviewPages resourceId window repository number (issue.user.id.map toString) fuel 1

/-- The rows of a page of issues, with the reviews of its pull requests. -/
def issueRows (fuel : Nat) : List GitHubRawIssue → CrawlState →
    GitHubCrawl (Except CommunityApiError (List CommunityActivityRecord × CrawlState))
  | [], state => pure (.ok ([], state))
  | issue :: rest, state => do
      let own := toIssueRecords resourceId window issue
      let reviewed : Except CommunityApiError (List CommunityActivityRecord × CrawlState) ←
        match ← fetchReviewRecords resourceId window repository fuel issue with
        | .error error =>
            if isResourceScopedError error then
              pure (.ok ([], state.partialReason s!"reviews:{toErrorCategory error}"))
            else pure (.error error)
        | .ok reviews => pure (.ok (reviews, state))
      match reviewed with
      | .error error => return .error error
      | .ok (reviews, state) =>
          match ← issueRows fuel rest state with
          | .error error => return .error error
          | .ok (others, state) => return .ok (own ++ reviews ++ others, state)

/-- A page of a phase: how many items it has, its rows, and what is remembered; or why it
was not read. -/
def phasePage (fuel : Nat) (phase : GitHubCrawlPhase) (page : Nat) (state : CrawlState) :
    GitHubCrawl (Except CommunityApiError
      (Except CommunityApiError (Nat × List CommunityActivityRecord × CrawlState))) := do
  match phase with
  | .issues =>
      match ← Generator.request (.issues repository window.start page) with
      | .error error => return .ok (.error error)
      | .ok items =>
          match ← issueRows resourceId window repository fuel items state.proven with
          | .error error => return .error error
          | .ok (records, state) => return .ok (.ok (items.length, records, state))
  | .issueComments | .reviewComments =>
      match ← Generator.request
          (.comments repository (phase = .reviewComments) window.start page) with
      | .error error => return .ok (.error error)
      | .ok items =>
          return .ok (.ok (items.length, toCommentRecords resourceId window items, state.proven))

/-- The pages of a phase; a coverage ends the crawl. -/
def crawlPhase (fuel : Nat) (phase : GitHubCrawlPhase) : Nat → CrawlState → Nat →
    GitHubCrawl (Except CommunityApiError (CommunityResourceCoverage ⊕ CrawlState))
  | 0, _, _ => pure (.error .other)
  | pages + 1, state, page => do
      match ← phasePage resourceId window repository fuel phase page state with
      | .error error => return .error error
      | .ok (.error error) =>
          if ¬isResourceScopedError error then return .error error
          else if ¬state.progressProven then
            return .ok (.inl (coverage resourceId .failed (some (toErrorCategory error))))
          else return .ok (.inr (state.partialReason s!"{phase.name}:{toErrorCategory error}"))
      | .ok (.ok (items, records, state)) =>
          if items < pageLimit then
            Generator.yield ⟨records, cursorText.stringify ⟨phase.next, 1⟩⟩
            return .ok (.inr state)
          else
            Generator.yield ⟨records, cursorText.stringify ⟨phase, page + 1⟩⟩
            crawlPhase fuel phase pages state (page + 1)

def crawlPhases (fuel : Nat) (cursor : GitHubResourceCursor) :
    List GitHubCrawlPhase → CrawlState →
    GitHubCrawl (Except CommunityApiError CommunityResourceCoverage)
  | [], state => pure (.ok (finish resourceId state))
  | phase :: rest, state => do
      match ← crawlPhase cursorText resourceId window repository fuel phase fuel state
          (if phase = cursor.phase then cursor.page else 1) with
      | .error error => return .error error
      | .ok (.inl coverage) => return .ok coverage
      | .ok (.inr state) => crawlPhases fuel cursor rest state

end Iterate

/-- The rows of a repository page by page, and its coverage. -/
def iterateRecords (cursorText : CursorText GitHubResourceCursor) (fuel : Nat)
    (request : IterateRecordsRequest) :
    GitHubCrawl (Except CommunityApiError CommunityResourceCoverage) := do
  let cursor := parseCursor cursorText request.cursor
  match ← Generator.request (.resolveRepository request.resourceId) with
  | .error error =>
      if ¬isResourceScopedError error then return .error error
      else return .ok (coverage request.resourceId .failed (some (toErrorCategory error)))
  | .ok none => return .ok (coverage request.resourceId .failed (some "not_found"))
  | .ok (some repository) =>
      crawlPhases cursorText request.resourceId request.window repository fuel cursor
        cursor.phase.onwards ⟨[], request.cursor.isSome⟩

end Github

end Reputo.Community

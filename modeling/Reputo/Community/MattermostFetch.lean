import Reputo.Community.Mattermost

/-!
# The crawl of a Mattermost channel

Pages of posts, newest first, each from the oldest post read so far, with the accounts of
their authors looked up in bulk.
-/

namespace Reputo.Community

open Reputo.Library

structure MattermostRawUser where
  id : Option String
  is_bot : Bool
  deriving DecidableEq, Repr

structure MattermostResourceCursor where
  before : Option String
  deriving DecidableEq, Repr

/-- What the iterator asks the platform. -/
inductive MattermostRequest : Type → Type where
  | posts (channelId : String) (before : Option String) :
      MattermostRequest (Except CommunityApiError MattermostRawPostList)
  | usersByIds (ids : List String) :
      MattermostRequest (Except CommunityApiError (List MattermostRawUser))

abbrev MattermostCrawl (ρ : Type) := Generator MattermostRequest CommunityRecordBatch ρ

namespace Mattermost

/-- Posts per history page. -/
def MATTERMOST_POSTS_PER_PAGE : Nat := 200

/-- Accounts per bulk lookup. -/
def MATTERMOST_USER_LOOKUP_CHUNK : Nat := 100

def parseCursor (cursorText : CursorText MattermostResourceCursor) :
    Option String → MattermostResourceCursor
  | none => ⟨none⟩
  | some text => (cursorText.parse text).getD ⟨none⟩

structure OldestPost where
  id : String
  createdMs : Int
  deriving DecidableEq, Repr

/-- A post that has an id and a time. -/
def datedPost (post : MattermostRawPost) : Option OldestPost :=
  match nonEmpty post.id, post.create_at with
  | some id, some createAt => some ⟨id, createAt⟩
  | _, _ => none

/-- The first of the posts with the earliest creation. -/
def oldestPost (posts : List MattermostRawPost) : Option OldestPost :=
  posts.foldl (fun oldest post => match datedPost post, oldest with
    | none, _ => oldest
    | some dated, none => some dated
    | some dated, some earlier =>
        if dated.createdMs < earlier.createdMs then some dated else some earlier) none

/-- Permanent for one channel. -/
def isResourceScopedError : CommunityApiError → Bool
  | .permission => true
  | .http statusCode => statusCode = 404
  | _ => false

/-! ## Accounts -/

/-- The flags of the accounts that were looked up. -/
abbrev BotByAccountId := String → Option Bool

namespace BotByAccountId

def isBot (bots : BotByAccountId) (userId : String) : Bool := bots userId = some true

/-- The answer to a lookup. -/
def answered (bots : BotByAccountId) (users : List MattermostRawUser) : BotByAccountId :=
  users.foldl (fun bots user => match nonEmpty user.id with
    | some id => Function.update bots id (some user.is_bot)
    | none => bots) bots

/-- An account that the server does not answer for is taken to be human. -/
def unanswered (bots : BotByAccountId) (ids : List String) : BotByAccountId :=
  fun userId => match bots userId with
    | some flag => some flag
    | none => if userId ∈ ids then some false else none

end BotByAccountId

/-- The lookups of the accounts, chunk by chunk; `room` is at least their number. -/
def lookupChunks : Nat → List String → BotByAccountId →
    MattermostCrawl (Except CommunityApiError BotByAccountId)
  | 0, _, bots | _, [], bots => pure (.ok bots)
  | room + 1, unknown, bots => do
      match ← Generator.request
          (.usersByIds (unknown.take MATTERMOST_USER_LOOKUP_CHUNK)) with
      | .error error => return .error error
      | .ok users =>
          lookupChunks room (unknown.drop MATTERMOST_USER_LOOKUP_CHUNK) (bots.answered users)

def prime (accountIds : List String) (bots : BotByAccountId) :
    MattermostCrawl (Except CommunityApiError BotByAccountId) := do
  let unknown := (distinctBy id accountIds).filter fun id => bots id = none
  match ← lookupChunks unknown.length unknown bots with
  | .error error => return .error error
  | .ok bots => return .ok (bots.unanswered unknown)

/-- The authors of the posts of a page, and of the roots of their threads. -/
def accountIds (page : MattermostPostPage) : List String :=
  (page.posts.filterMap toScoreablePost).flatMap fun post =>
    post.userId :: ((rootPost post page).map (·.userId)).toList

/-! ## The iterator -/

section Iterate

variable (cursorText : CursorText MattermostResourceCursor) (resourceId : String)
  (window : CommunityFetchWindow)

def coverage (status : CommunityCoverageStatus) (reason : Option String) :
    CommunityResourceCoverage :=
  ⟨resourceId, status, reason⟩

/-- A page from which the walk does not go on. -/
def walkEnds (cursor : MattermostResourceCursor) (page : MattermostPostPage) : Bool :=
  match oldestPost page.posts with
  | none => true
  | some oldest => oldest.createdMs < window.start || some oldest.id = cursor.before ||
      page.posts.length < MATTERMOST_POSTS_PER_PAGE

/-- The cursor after a page. -/
def nextCursor (cursor : MattermostResourceCursor) (page : MattermostPostPage) :
    MattermostResourceCursor :=
  match oldestPost page.posts with
  | none => cursor
  | some oldest => ⟨some oldest.id⟩

/-- Page after page; the fuel bounds the loop. -/
def walk : Nat → MattermostResourceCursor → Bool → BotByAccountId →
    MattermostCrawl (Except CommunityApiError CommunityResourceCoverage)
  | 0, _, _, _ => pure (.error .other)
  | fuel + 1, cursor, progressProven, bots => do
      match ← Generator.request (.posts resourceId cursor.before) with
      | .error error =>
          if ¬isResourceScopedError error then return .error error
          else if progressProven then
            return .ok (coverage resourceId .partialRead
              (some s!"posts:{toErrorCategory error}"))
          else return .ok (coverage resourceId .failed (some (toErrorCategory error)))
      | .ok payload =>
          let page := toMattermostPostPage payload
          match ← prime (accountIds page) bots with
          | .error error => return .error error
          | .ok bots =>
              let next := nextCursor cursor page
              Generator.yield ⟨mattermostPageRecords bots.isBot resourceId window page,
                cursorText.stringify next⟩
              if walkEnds window cursor page then return .ok (coverage resourceId .complete none)
              else walk fuel next true bots

end Iterate

/-- The rows of a channel page by page, and its coverage. -/
def iterateRecords (cursorText : CursorText MattermostResourceCursor) (fuel : Nat)
    (request : IterateRecordsRequest) :
    MattermostCrawl (Except CommunityApiError CommunityResourceCoverage) :=
  let cursor := parseCursor cursorText request.cursor
  walk cursorText request.resourceId request.window fuel cursor cursor.before.isSome
    fun _ => none

end Mattermost

end Reputo.Community

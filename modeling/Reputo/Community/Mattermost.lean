import Reputo.Community.Discord

/-!
# Rows of a Mattermost page

A page lists posts, and carries the roots of the replies among them.
-/

namespace Reputo.Community

open Reputo.Library

/-- Fields are `none` where they are no texts or no finite numbers; times are in
milliseconds, and a reaction has its user. -/
structure MattermostRawPost where
  id : Option String
  user_id : Option String
  create_at : Option Int
  delete_at : Option Int
  root_id : Option String
  type : Option String
  reactions : List (Option String)
  deriving DecidableEq, Repr

structure MattermostRawPostList where
  order : List String
  posts : List (String × MattermostRawPost)
  deriving DecidableEq, Repr

structure MattermostPostPage where
  posts : List MattermostRawPost
  byId : String → Option MattermostRawPost

def toMattermostPostPage (page : MattermostRawPostList) : MattermostPostPage where
  posts := page.order.filterMap fun id => List.lookup id page.posts
  byId id := List.lookup id page.posts

structure MattermostPost where
  id : String
  userId : String
  occurredAt : Int
  rootId : Option String
  deriving DecidableEq, Repr

/-- The text where it is one and not empty. -/
def nonEmpty (text : Option String) : Option String := text.filter (· ≠ "")

/-- A human post that still exists, with an author and a time. -/
def toScoreablePost (post : MattermostRawPost) : Option MattermostPost :=
  if (nonEmpty post.type).isSome then none
  else if post.delete_at.any (0 < ·) then none
  else match nonEmpty post.id, nonEmpty post.user_id, post.create_at.filter (0 < ·) with
    | some id, some userId, some occurredAt => some ⟨id, userId, occurredAt, nonEmpty post.root_id⟩
    | _, _, _ => none

/-- How many reactions each user left, in the order of the first ones. -/
def toReactionCounts (post : MattermostRawPost) : List (String × Nat) :=
  let users := post.reactions.filterMap nonEmpty
  (distinctBy id users).map fun userId => (userId, users.count userId)

section Records

variable (isBot : String → Bool) (resourceId : String) (window : CommunityFetchWindow)

/-- The post that a reply belongs to, where it is on the page and still exists. -/
def rootPost (post : MattermostPost) (page : MattermostPostPage) : Option MattermostPost :=
  (post.rootId.bind page.byId).bind toScoreablePost

/-- A row of a post at the time of the post. -/
def postRecord (post : MattermostPost) (type : String) (counterparty : Option String)
    (count : Nat) : CommunityActivityRecord where
  type
  actor := post.userId
  counterparty
  resource := resourceId
  objectId := post.id
  occurredAt := post.occurredAt
  count
  actorIsBot := isBot post.userId
  deleted := false

/-- A reply is credited to the root's author at the time of the root. -/
def rootRecord (post root : MattermostPost) : CommunityActivityRecord where
  type := CommunityChatActivityType.replyReceived
  actor := root.userId
  counterparty := some post.userId
  resource := resourceId
  objectId := post.id
  occurredAt := root.occurredAt
  count := 1
  actorIsBot := isBot root.userId
  deleted := false

def ownType (post : MattermostPost) : String :=
  if post.rootId = none then CommunityChatActivityType.message
  else CommunityChatActivityType.reply

/-- The rows of a post that fall into the window. -/
def toMattermostActivityRecords (post : MattermostPost) (raw : MattermostRawPost)
    (page : MattermostPostPage) : List CommunityActivityRecord :=
  let root := rootPost post page
  (postRecord isBot resourceId post (ownType post) (root.map (·.userId)) 1 ::
    ((toReactionCounts raw).map (fun reaction => postRecord isBot resourceId post
        CommunityChatActivityType.reactionReceived (some reaction.1) reaction.2) ++
      root.toList.map (rootRecord isBot resourceId post))).filter
    fun record => isWithinWindow record.occurredAt window

/-- The rows of the posts that a page lists. -/
def mattermostPageRecords (page : MattermostPostPage) : List CommunityActivityRecord :=
  page.posts.flatMap fun raw => (toScoreablePost raw).toList.flatMap fun post =>
    toMattermostActivityRecords isBot resourceId window post raw page

end Records

end Reputo.Community

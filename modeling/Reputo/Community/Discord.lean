import Reputo.Community.Freeze

/-!
# The crawl of a Discord channel

Raw messages become activity rows, and a channel is read in two phases: its own messages,
and then its active and archived threads.  A request is answered or fails; failures that
are permanent for the resource are noted, and all others are thrown.
-/

namespace Reputo.Community

open Reputo.Library

/-! ## Raw shapes -/

/-- Fields are `none` where they are no texts; an id may be missing with its user. -/
structure DiscordRawUser where
  id : Option String
  bot : Bool
  deriving DecidableEq, Repr

structure DiscordRawReference where
  timestamp : Option Int
  author : DiscordRawUser
  deriving DecidableEq, Repr

/-- A timestamp is `none` where it is no date, and a reaction has its count. -/
structure DiscordRawMessage where
  id : Option String
  type : Option Nat
  timestamp : Option Int
  author : DiscordRawUser
  mentions : List DiscordRawUser
  reactions : List Nat
  referenced_message : Option DiscordRawReference
  deriving DecidableEq, Repr

/-- Archive times are in microseconds. -/
structure DiscordRawThread where
  id : Option String
  type : Option Nat
  parent_id : Option String
  archive_timestamp : Option Int
  deriving DecidableEq, Repr

structure DiscordRawArchivedThreadsResponse where
  threads : List DiscordRawThread
  has_more : Bool
  deriving DecidableEq, Repr

structure DiscordRawChannel where
  id : Option String
  guild_id : Option String
  type : Option Nat
  deriving DecidableEq, Repr

namespace DiscordMessageType

def default : Nat := 0

def reply : Nat := 19

end DiscordMessageType

namespace DiscordThreadType

def announcementThread : Nat := 10

def publicThread : Nat := 11

end DiscordThreadType

namespace CommunityChatActivityType

def message : String := "message"

def reply : String := "reply"

def reactionReceived : String := "reaction_received"

def replyReceived : String := "reply_received"

def mentionReceived : String := "mention_received"

end CommunityChatActivityType

/-! ## Channels and threads -/

inductive DiscordChannelKind where
  | text
  | announcement
  | forum
  deriving DecidableEq, Repr

def channelKindByType : Nat → Option DiscordChannelKind
  | 0 => some .text
  | 5 => some .announcement
  | 15 => some .forum
  | _ => none

structure DiscordChannelMeta where
  guildId : String
  kind : DiscordChannelKind
  deriving DecidableEq, Repr

def toChannelMeta (channel : DiscordRawChannel) : Option DiscordChannelMeta :=
  match channel.id, channel.guild_id, channel.type.bind channelKindByType with
  | some _, some guildId, some kind => some ⟨guildId, kind⟩
  | _, _, _ => none

structure DiscordCrawlableThread where
  id : String
  archiveTimestamp : Option Int
  deriving DecidableEq, Repr

/-- A public or announcement thread of the channel. -/
def toCrawlableThread (parentId : String) (thread : DiscordRawThread) :
    Option DiscordCrawlableThread :=
  if thread.type = some DiscordThreadType.publicThread ∨
      thread.type = some DiscordThreadType.announcementThread then
    match thread.id with
    | some id => if thread.parent_id = some parentId then some ⟨id, thread.archive_timestamp⟩
        else none
    | none => none
  else none

/-- In the order of their ids. -/
def toCrawlableThreads (collation : Collation) (threads : List DiscordRawThread)
    (parentId : String) : List DiscordCrawlableThread :=
  (collation.comap DiscordCrawlableThread.id).orderBy
    (threads.filterMap (toCrawlableThread parentId))

def discordEpochMs : Int := 1420070400000

/-- The smallest snowflake of a time. -/
def snowflakeForTimestamp (time : Int) : String :=
  toString ((max 0 (time - discordEpochMs)).toNat <<< 22)

/-! ## Activity rows -/

def sumReactionCounts (reactions : List Nat) : Nat := reactions.foldl (· + ·) 0

/-- Each mentioned user once, as first mentioned. -/
def mentionedUsers (mentions : List DiscordRawUser) : List (String × Bool) :=
  distinctBy Prod.fst (mentions.filterMap fun mention => match mention.id with
    | some id => if id = "" then none else some (id, mention.bot)
    | none => none)

/-- A message of a type that is scored, with its author and time. -/
structure ScoredMessage where
  objectId : String
  authorId : String
  occurredAt : Int
  isReply : Bool
  deriving DecidableEq, Repr

def toScoredMessage (raw : DiscordRawMessage) : Option ScoredMessage :=
  match raw.id, raw.author.id, raw.timestamp with
  | some objectId, some authorId, some occurredAt =>
      if raw.type = some DiscordMessageType.reply then
        some ⟨objectId, authorId, occurredAt, true⟩
      else if raw.type = some DiscordMessageType.default then
        some ⟨objectId, authorId, occurredAt, false⟩
      else none
  | _, _, _ => none

/-- The author of the message that is replied to. -/
def parentAuthorId (raw : DiscordRawMessage) : Option String :=
  raw.referenced_message.bind (·.author.id)

section Rows

variable (message : ScoredMessage) (raw : DiscordRawMessage) (resourceId : String)

/-- `message` or `reply`. -/
def ownRecord : CommunityActivityRecord where
  type := if message.isReply then CommunityChatActivityType.reply
    else CommunityChatActivityType.message
  actor := message.authorId
  counterparty := if message.isReply then parentAuthorId raw else none
  resource := resourceId
  objectId := message.objectId
  occurredAt := message.occurredAt
  count := 1
  actorIsBot := raw.author.bot
  deleted := false

def reactionRecords : List CommunityActivityRecord :=
  if 0 < sumReactionCounts raw.reactions then
    [{ type := CommunityChatActivityType.reactionReceived
       actor := message.authorId
       counterparty := none
       resource := resourceId
       objectId := message.objectId
       occurredAt := message.occurredAt
       count := sumReactionCounts raw.reactions
       actorIsBot := raw.author.bot
       deleted := false }]
  else []

/-- A reply is credited to the author replied to, at the time of that message. -/
def replyReceivedRecord (parent : DiscordRawReference) : Option CommunityActivityRecord :=
  match parent.author.id, parent.timestamp with
  | some parentId, some parentOccurredAt => some
      { type := CommunityChatActivityType.replyReceived
        actor := parentId
        counterparty := some message.authorId
        resource := resourceId
        objectId := message.objectId
        occurredAt := parentOccurredAt
        count := 1
        actorIsBot := parent.author.bot
        deleted := false }
  | _, _ => none

def receivedRecords : List CommunityActivityRecord :=
  if message.isReply then
    (raw.referenced_message.bind (replyReceivedRecord message resourceId)).toList
  else []

def mentionRecords : List CommunityActivityRecord :=
  (mentionedUsers raw.mentions).map fun mentioned =>
    { type := CommunityChatActivityType.mentionReceived
      actor := mentioned.1
      counterparty := some message.authorId
      resource := resourceId
      objectId := message.objectId
      occurredAt := message.occurredAt
      count := 1
      actorIsBot := mentioned.2
      deleted := false }

end Rows

/-- The rows of a message that fall into the window. -/
def toActivityRecords (raw : DiscordRawMessage) (resourceId : String)
    (window : CommunityFetchWindow) : List CommunityActivityRecord :=
  match toScoredMessage raw with
  | none => []
  | some message =>
      (ownRecord message raw resourceId :: (reactionRecords message raw resourceId ++
        receivedRecords message raw resourceId ++ mentionRecords message raw resourceId)).filter
          fun record => isWithinWindow record.occurredAt window

/-! ## Pages of messages -/

def messagesPageLimit : Nat := 100

structure MessagePageOutcome where
  records : List CommunityActivityRecord
  nextBefore : Option String
  done : Bool
  deriving DecidableEq, Repr

/-- The rows of a page until a message from before the window, whether one was met, and
the last id that was seen. -/
def processMessages (resourceId : String) (window : CommunityFetchWindow) :
    List DiscordRawMessage → Option String → List CommunityActivityRecord × Bool × Option String
  | [], lastId => ([], false, lastId)
  | message :: rest, lastId =>
      let lastId := message.id.or lastId
      if message.timestamp.any (· < window.start) then ([], true, lastId)
      else
        let later := processMessages resourceId window rest lastId
        (toActivityRecords message resourceId window ++ later.1, later.2)

def processMessagePage (page : List DiscordRawMessage) (resourceId : String)
    (window : CommunityFetchWindow) : MessagePageOutcome :=
  let processed := processMessages resourceId window page none
  { records := processed.1
    nextBefore := processed.2.2
    done := processed.2.1 || page.length < messagesPageLimit || processed.2.2.isNone }

/-! ## The iterator -/

inductive DiscordCrawlPhase where
  | messages
  | threads
  deriving DecidableEq, Repr

structure DiscordResourceCursor where
  phase : DiscordCrawlPhase
  before : Option String := none
  archivedBefore : Option Int := none
  deriving DecidableEq, Repr

/-- The text of cursors: `JSON.stringify`, and `JSON.parse` with the check of the phase. -/
structure CursorText (κ : Type) where
  stringify : κ → String
  parse : String → Option κ
  parse_stringify : ∀ cursor, parse (stringify cursor) = some cursor

/-- What the iterator asks the platform. -/
inductive DiscordRequest : Type → Type where
  | channel (channelId : String) : DiscordRequest (Except CommunityApiError DiscordRawChannel)
  | messages (channelId before : String) :
      DiscordRequest (Except CommunityApiError (List DiscordRawMessage))
  | activeThreads (guildId : String) :
      DiscordRequest (Except CommunityApiError (List DiscordRawThread))
  | archivedThreads (channelId : String) (before : Option Int) :
      DiscordRequest (Except CommunityApiError DiscordRawArchivedThreadsResponse)

abbrev DiscordCrawl (ρ : Type) := Generator DiscordRequest CommunityRecordBatch ρ

namespace Discord

/-- Permanent for one resource. -/
def isResourceScopedError : CommunityApiError → Bool
  | .permission => true
  | .http statusCode => statusCode = 404
  | _ => false

/-- What an attempt remembers of a crawl besides its cursor. -/
structure CrawlState where
  partialReasons : List String
  progressProven : Bool
  deriving DecidableEq, Repr

def CrawlState.partialReason (state : CrawlState) (reason : String) : CrawlState :=
  { state with partialReasons := state.partialReasons ++ [reason] }

def CrawlState.proven (state : CrawlState) : CrawlState := { state with progressProven := true }

section Iterate

variable (collation : Collation) (cursorText : CursorText DiscordResourceCursor)
  (resourceId : String) (window : CommunityFetchWindow)

def parseCursor : Option String → DiscordResourceCursor
  | none => { phase := .messages }
  | some text => (cursorText.parse text).getD { phase := .messages }

def coverage (status : CommunityCoverageStatus) (reason : Option String) :
    CommunityResourceCoverage :=
  ⟨resourceId, status, reason⟩

def finish (state : CrawlState) : CommunityResourceCoverage :=
  if state.partialReasons = [] then coverage resourceId .complete none
  else coverage resourceId .partialRead (some (String.intercalate "; " state.partialReasons))

/-- The pages of a thread, newest first; the fuel bounds the loop. -/
def crawlThreadMessages (threadId : String) (threadCursor : DiscordResourceCursor) :
    Nat → CrawlState → String → DiscordCrawl (Except CommunityApiError CrawlState)
  | 0, _, _ => pure (.error .other)
  | fuel + 1, state, before => do
      match ← Generator.request (.messages threadId before) with
      | .error error =>
          if isResourceScopedError error then
            return .ok (state.partialReason s!"thread:{toErrorCategory error}")
          else return .error error
      | .ok page =>
          let outcome := processMessagePage page resourceId window
          Generator.yield ⟨outcome.records, cursorText.stringify threadCursor⟩
          match outcome.nextBefore with
          | none => return .ok state.proven
          | some nextBefore =>
              if outcome.done then return .ok state.proven
              else crawlThreadMessages threadId threadCursor fuel state.proven nextBefore

/-- The channel's own pages; a coverage ends the crawl. -/
def crawlChannelMessages :
    Nat → CrawlState → String →
      DiscordCrawl (Except CommunityApiError (CommunityResourceCoverage ⊕ CrawlState))
  | 0, _, _ => pure (.error .other)
  | fuel + 1, state, before => do
      match ← Generator.request (.messages resourceId before) with
      | .error error =>
          if ¬isResourceScopedError error then return .error error
          else if ¬state.progressProven then
            return .ok (.inl (coverage resourceId .failed (some (toErrorCategory error))))
          else return .ok (.inr (state.partialReason s!"messages:{toErrorCategory error}"))
      | .ok page =>
          let outcome := processMessagePage page resourceId window
          match if outcome.done then none else outcome.nextBefore with
          | none =>
              Generator.yield ⟨outcome.records, cursorText.stringify { phase := .threads }⟩
              return .ok (.inr state.proven)
          | some before =>
              Generator.yield ⟨outcome.records,
                cursorText.stringify { phase := .messages, before := some before }⟩
              crawlChannelMessages fuel state.proven before

/-- Threads one after another, each under the same cursor. -/
def crawlThreads (fuel : Nat) (threadCursor : DiscordResourceCursor) :
    List DiscordCrawlableThread → CrawlState → DiscordCrawl (Except CommunityApiError CrawlState)
  | [], state => pure (.ok state)
  | thread :: rest, state => do
      match ← crawlThreadMessages cursorText resourceId window thread.id threadCursor fuel state
          (snowflakeForTimestamp window.finish) with
      | .error error => return .error error
      | .ok state => crawlThreads fuel threadCursor rest state

/-- `Date.parse` of an archive time. -/
def archiveMs (archiveTimestamp : Int) : Int := archiveTimestamp / 1000

/-- A thread that was archived before the window opened has no messages in it. -/
def mayHaveMessages (thread : DiscordCrawlableThread) : Bool :=
  thread.archiveTimestamp.all fun archived => window.start ≤ archiveMs archived

/-- The oldest archive time of a listing; of equal ones, the first. -/
def oldestArchive (threads : List DiscordCrawlableThread) : Option Int :=
  (threads.filterMap (·.archiveTimestamp)).foldl (fun oldest archived => match oldest with
    | none => some archived
    | some earlier => if archiveMs archived < archiveMs earlier then some archived
        else some earlier) none

/-- The pages of archived threads, newest first. -/
def crawlArchivedThreads (pageFuel : Nat) :
    Nat → CrawlState → Option Int → DiscordCrawl (Except CommunityApiError CrawlState)
  | 0, _, _ => pure (.error .other)
  | fuel + 1, state, archivedBefore => do
      match ← Generator.request (.archivedThreads resourceId archivedBefore) with
      | .error error =>
          if isResourceScopedError error then
            return .ok (state.partialReason s!"archived_threads:{toErrorCategory error}")
          else return .error error
      | .ok listing =>
          let threads := toCrawlableThreads collation listing.threads resourceId
          match ← crawlThreads cursorText resourceId window pageFuel
              { phase := .threads, archivedBefore } (threads.filter (mayHaveMessages window))
              state.proven with
          | .error error => return .error error
          | .ok state =>
              let oldest := oldestArchive threads
              let pastWindow := oldest.any fun archived => archiveMs archived < window.start
              let stuck := oldest = none ∨ oldest = archivedBefore
              let next := oldest.or archivedBefore
              Generator.yield
                ⟨[], cursorText.stringify { phase := .threads, archivedBefore := next }⟩
              if ¬listing.has_more ∨ pastWindow ∨ stuck then return .ok state
              else crawlArchivedThreads pageFuel fuel state next

/-- Active threads are listed unless archived ones were begun; then the archived ones. -/
def crawlThreadPhase (fuel : Nat) (guildId : String) (cursor : DiscordResourceCursor)
    (state : CrawlState) : DiscordCrawl (Except CommunityApiError CommunityResourceCoverage) := do
  let active : Except CommunityApiError CrawlState ←
    if cursor.archivedBefore.isSome then pure (.ok state)
    else match ← Generator.request (.activeThreads guildId) with
      | .error error =>
          if isResourceScopedError error then
            pure (.ok (state.partialReason s!"active_threads:{toErrorCategory error}"))
          else pure (.error error)
      | .ok threads =>
          crawlThreads cursorText resourceId window fuel { phase := .threads }
            (toCrawlableThreads collation threads resourceId) state
  match active with
  | .error error => return .error error
  | .ok state =>
      match ← crawlArchivedThreads collation cursorText resourceId window fuel fuel state
          cursor.archivedBefore with
      | .error error => return .error error
      | .ok state => return .ok (finish resourceId state)

/-- The own messages, unless the cursor is past them or the channel has none; then the
threads. -/
def crawlPhases (fuel : Nat) (channelMeta : DiscordChannelMeta) (cursor : DiscordResourceCursor)
    (state : CrawlState) : DiscordCrawl (Except CommunityApiError CommunityResourceCoverage) := do
  let own : Except CommunityApiError (CommunityResourceCoverage ⊕ CrawlState) ←
    if cursor.phase = .messages ∧ channelMeta.kind ≠ .forum then
      crawlChannelMessages cursorText resourceId window fuel state
        (cursor.before.getD (snowflakeForTimestamp window.finish))
    else pure (.ok (.inr state))
  match own with
  | .error error => return .error error
  | .ok (.inl coverage) => return .ok coverage
  | .ok (.inr state) =>
      crawlThreadPhase collation cursorText resourceId window fuel channelMeta.guildId cursor state

end Iterate

/-- The rows of a channel page by page, and its coverage. -/
def iterateRecords (collation : Collation) (cursorText : CursorText DiscordResourceCursor)
    (fuel : Nat) (request : IterateRecordsRequest) :
    DiscordCrawl (Except CommunityApiError CommunityResourceCoverage) := do
  let cursor := parseCursor cursorText request.cursor
  let state : CrawlState := ⟨[], request.cursor.isSome⟩
  match ← Generator.request (.channel request.resourceId) with
  | .error error =>
      if ¬isResourceScopedError error then return .error error
      else if state.progressProven then
        return .ok (coverage request.resourceId .partialRead
          (some s!"channel:{toErrorCategory error}"))
      else return .ok (coverage request.resourceId .failed (some (toErrorCategory error)))
  | .ok channel =>
      match toChannelMeta channel with
      | none => return .ok (coverage request.resourceId .failed (some "unsupported_resource"))
      | some channelMeta =>
          crawlPhases collation cursorText request.resourceId request.window fuel channelMeta
            cursor state

end Discord

end Reputo.Community

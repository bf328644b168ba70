import Reputo.Community.Github
import Reputo.Community.Mattermost

/-!
# Rows of two crawls

What is exported after a resource was crawled twice: each staged row comes with the event
it stands for, and grouping merges exactly the rows of one event if what a row says of
other objects was read alike.
-/

namespace Reputo.Community

open Reputo.Library

/-! ## Events -/

/-- What happens in a repository; each kind has ids of its own. -/
inductive RepositoryEvent where
  | issueOpened
  | pullRequestOpened
  | pullRequestMerged
  | pullRequestReview
  | issueComment
  | reviewComment
  deriving DecidableEq, Repr

/-- What happened on a platform, told apart as the platform does. -/
inductive PlatformEvent where
  | post (objectId : String)
  | reactionReceived (objectId : String) (reactor : Option String)
  | replyReceived (objectId : String)
  | mentionReceived (objectId mentioned : String)
  | repository (event : RepositoryEvent) (objectId : String)
  deriving DecidableEq, Repr

/-- A staged row with its event. -/
abbrev StagedEvent := PlatformEvent × CommunityActivityRecord

/-- Each event has at most one exported row, and each exported row is of one event. -/
structure MergesExactly (window : CommunityFetchWindow) (staged : List StagedEvent) : Prop where
  once : ∀ event, ((exportActivities window (staged.map Prod.snd)).filter fun row =>
    staged.any fun entry => entry.1 = event ∧ entry.2.group = row.group).length ≤ 1
  apart : ∀ row ∈ exportActivities window (staged.map Prod.snd), ∀ left ∈ staged,
    ∀ right ∈ staged, left.2.group = row.group → right.2.group = row.group → left.1 = right.1

/-! ## The rows of an export -/

section Export

variable {window : CommunityFetchWindow} {rows : List CommunityActivityRecord}

theorem exportActivities_groups (window : CommunityFetchWindow)
    (rows : List CommunityActivityRecord) :
    (exportActivities window rows).map (·.group) = exportOrder.orderBy (distinctBy id
      ((rows.filter fun record => isWithinWindow record.occurredAt window).map (·.group))) := by
  rw [exportActivities, List.map_map]
  exact List.map_id' _

theorem exportActivities_groups_nodup :
    ((exportActivities window rows).map (·.group)).Nodup := by
  rw [exportActivities_groups, (exportOrder.perm_orderBy _).nodup_iff]
  exact nodup_groups _

/-- The exported groups are those of the staged rows in the window. -/
theorem mem_exportActivities_groups {group : ActivityGroup} :
    (∃ row ∈ exportActivities window rows, row.group = group) ↔
      ∃ record ∈ rows, isWithinWindow record.occurredAt window = true ∧ record.group = group := by
  have groups : group ∈ (exportActivities window rows).map (·.group) ↔
      ∃ record ∈ rows.filter fun record => isWithinWindow record.occurredAt window,
        record.group = group := by
    rw [exportActivities_groups, exportOrder.mem_orderBy, mem_groups]
  rw [List.mem_map] at groups
  simp only [groups, List.mem_filter, and_assoc]

/-- Rows are determined by their group. -/
theorem eq_of_exported_group {left right : CommunityActivityRecord}
    (first : left ∈ exportActivities window rows) (second : right ∈ exportActivities window rows)
    (same : left.group = right.group) : left = right :=
  List.inj_on_of_nodup_map exportActivities_groups_nodup first second same

theorem length_le_one_of_nodup {α : Type} {entries : List α} (nodup : entries.Nodup)
    (same : ∀ left ∈ entries, ∀ right ∈ entries, left = right) : entries.length ≤ 1 := by
  cases entries with
  | nil => exact Nat.zero_le 1
  | cons first rest =>
      cases rest with
      | nil => exact le_refl 1
      | cons second others =>
          have equal := same first List.mem_cons_self second
            (List.mem_cons_of_mem _ List.mem_cons_self)
          rw [equal] at nodup
          exact absurd List.mem_cons_self (List.nodup_cons.mp nodup).1

theorem eq_of_length_le_one {α : Type} {entries : List α} (short : entries.length ≤ 1)
    {left right : α} (first : left ∈ entries) (second : right ∈ entries) : left = right := by
  cases entries with
  | nil => exact absurd first List.not_mem_nil
  | cons only rest =>
      have none := List.eq_nil_of_length_eq_zero (Nat.le_zero.mp (Nat.le_of_succ_le_succ short))
      rw [none] at first second
      rw [List.mem_singleton.mp first, List.mem_singleton.mp second]

/-- Rows merge exactly if events and groups correspond. -/
theorem mergesExactly_iff {staged : List StagedEvent}
    (inWindow : ∀ entry ∈ staged, isWithinWindow entry.2.occurredAt window = true) :
    MergesExactly window staged ↔ ∀ left ∈ staged, ∀ right ∈ staged,
      left.1 = right.1 ↔ left.2.group = right.2.group := by
  have exported : ∀ entry ∈ staged, ∃ row ∈ exportActivities window (staged.map Prod.snd),
      row.group = entry.2.group := fun entry member => mem_exportActivities_groups.mpr
    ⟨entry.2, List.mem_map_of_mem member, inWindow entry member, rfl⟩
  constructor
  · intro exact left leftMember right rightMember
    rcases exported left leftMember with ⟨leftRow, leftExported, leftGroup⟩
    rcases exported right rightMember with ⟨rightRow, rightExported, rightGroup⟩
    constructor
    · intro same
      have first : leftRow ∈ (exportActivities window (staged.map Prod.snd)).filter fun row =>
          staged.any fun entry => entry.1 = right.1 ∧ entry.2.group = row.group := by
        rw [List.mem_filter, List.any_eq_true]
        exact ⟨leftExported, left, leftMember, decide_eq_true ⟨same, leftGroup.symm⟩⟩
      have second : rightRow ∈ (exportActivities window (staged.map Prod.snd)).filter fun row =>
          staged.any fun entry => entry.1 = right.1 ∧ entry.2.group = row.group := by
        rw [List.mem_filter, List.any_eq_true]
        exact ⟨rightExported, right, rightMember, decide_eq_true ⟨rfl, rightGroup.symm⟩⟩
      rw [← leftGroup, ← rightGroup, eq_of_length_le_one (exact.once right.1) first second]
    · intro same
      exact exact.apart leftRow leftExported left leftMember right rightMember leftGroup.symm
        (by rw [leftGroup, same])
  · intro corresponds
    constructor
    · intro event
      apply length_le_one_of_nodup
      · exact (exportActivities_groups_nodup.of_map _).filter _
      · intro left leftMember right rightMember
        rw [List.mem_filter, List.any_eq_true] at leftMember rightMember
        rcases leftMember with ⟨leftExported, first, firstMember, firstOf⟩
        rcases rightMember with ⟨rightExported, second, secondMember, secondOf⟩
        rcases of_decide_eq_true firstOf with ⟨firstEvent, firstGroup⟩
        rcases of_decide_eq_true secondOf with ⟨secondEvent, secondGroup⟩
        apply eq_of_exported_group leftExported rightExported
        rw [← firstGroup, ← secondGroup]
        exact (corresponds first firstMember second secondMember).mp
          (firstEvent.trans secondEvent.symm)
    · intro row _ left leftMember right rightMember leftGroup rightGroup
      exact (corresponds left leftMember right rightMember).mpr (leftGroup.trans rightGroup.symm)

end Export

/-! ## Chat messages -/

/-- What a reading of a message says of it, and of the message that it replies to. -/
structure ChatPost where
  objectId : String
  author : String
  occurredAt : Int
  isReply : Bool
  parentAuthor : Option String
  received : Option (String × Int)
  deriving DecidableEq, Repr

/-- Author and time of the message that a reply shows. -/
def DiscordRawReference.received (parent : DiscordRawReference) : Option (String × Int) :=
  parent.author.id.bind fun author => parent.timestamp.map (author, ·)

def ScoredMessage.reading (raw : DiscordRawMessage) (message : ScoredMessage) : ChatPost where
  objectId := message.objectId
  author := message.authorId
  occurredAt := message.occurredAt
  isReply := message.isReply
  parentAuthor := if message.isReply then parentAuthorId raw else none
  received := if message.isReply then raw.referenced_message.bind DiscordRawReference.received
    else none

def discordPost (raw : DiscordRawMessage) : Option ChatPost :=
  (toScoredMessage raw).map (ScoredMessage.reading raw)

def MattermostPost.reading (page : MattermostPostPage) (post : MattermostPost) : ChatPost where
  objectId := post.id
  author := post.userId
  occurredAt := post.occurredAt
  isReply := post.rootId ≠ none
  parentAuthor := (rootPost post page).map (·.userId)
  received := (rootPost post page).map fun root => (root.userId, root.occurredAt)

def mattermostPost (page : MattermostPostPage) (raw : MattermostRawPost) : Option ChatPost :=
  (toScoreablePost raw).map (MattermostPost.reading page)

/-- The group of the row that a message has for an event. -/
def ChatPost.group? (post : ChatPost) (resourceId : String) : PlatformEvent → Option ActivityGroup
  | .post objectId => if objectId = post.objectId then
      some ⟨post.author, post.parentAuthor, if post.isReply then CommunityChatActivityType.reply
        else CommunityChatActivityType.message, resourceId, objectId, post.occurredAt⟩ else none
  | .reactionReceived objectId reactor => if objectId = post.objectId then
      some ⟨post.author, reactor, CommunityChatActivityType.reactionReceived, resourceId, objectId,
        post.occurredAt⟩ else none
  | .replyReceived objectId => if objectId = post.objectId then
      post.received.map fun parent => ⟨parent.1, some post.author,
        CommunityChatActivityType.replyReceived, resourceId, objectId, parent.2⟩ else none
  | .mentionReceived objectId mentioned => if objectId = post.objectId then
      some ⟨mentioned, some post.author, CommunityChatActivityType.mentionReceived, resourceId,
        objectId, post.occurredAt⟩ else none
  | _ => none

/-- The event of a row of a chat. -/
def CommunityActivityRecord.chatEvent (record : CommunityActivityRecord) : PlatformEvent :=
  if record.type = CommunityChatActivityType.reactionReceived then
    .reactionReceived record.objectId record.counterparty
  else if record.type = CommunityChatActivityType.replyReceived then
    .replyReceived record.objectId
  else if record.type = CommunityChatActivityType.mentionReceived then
    .mentionReceived record.objectId record.actor
  else .post record.objectId

def chatStaged (records : List CommunityActivityRecord) : List StagedEvent :=
  records.map fun record => (record.chatEvent, record)

/-- Two readings of a message in the window show the same author, time and parent's author,
and two that show a parent in the window show the same one. -/
def ChatReadAlike (window : CommunityFetchWindow) (posts : List ChatPost) : Prop :=
  ∀ left ∈ posts, ∀ right ∈ posts, left.objectId = right.objectId →
    (isWithinWindow left.occurredAt window = true → isWithinWindow right.occurredAt window = true →
      left.author = right.author ∧ left.occurredAt = right.occurredAt ∧
        left.isReply = right.isReply ∧ left.parentAuthor = right.parentAuthor) ∧
    ∀ leftParent ∈ left.received, ∀ rightParent ∈ right.received,
      isWithinWindow leftParent.2 window = true → isWithinWindow rightParent.2 window = true →
        leftParent = rightParent ∧ left.author = right.author

/-- The rows are those of the messages. -/
structure ChatRows (resourceId : String) (window : CommunityFetchWindow) (posts : List ChatPost)
    (records : List CommunityActivityRecord) : Prop where
  inWindow : ∀ record ∈ records, isWithinWindow record.occurredAt window = true
  yielded : ∀ record ∈ records, ∃ post ∈ posts,
    post.group? resourceId record.chatEvent = some record.group
  complete : ∀ post ∈ posts, ∀ event ∈ [PlatformEvent.post post.objectId,
    .replyReceived post.objectId], ∀ group ∈ post.group? resourceId event,
    isWithinWindow group.occurredAt window = true →
      ∃ record ∈ records, record.chatEvent = event ∧ record.group = group

section Chat

variable {resourceId : String} {window : CommunityFetchWindow} {posts others : List ChatPost}
  {records more : List CommunityActivityRecord}

/-- The event of a row is in its group. -/
theorem chatEvent_congr {left right : CommunityActivityRecord} (same : left.group = right.group) :
    left.chatEvent = right.chatEvent := by
  have fields := ActivityGroup.mk.inj same
  rw [CommunityActivityRecord.chatEvent, CommunityActivityRecord.chatEvent, fields.1, fields.2.1,
    fields.2.2.1, fields.2.2.2.2.1]

theorem ChatRows.append (first : ChatRows resourceId window posts records)
    (second : ChatRows resourceId window others more) :
    ChatRows resourceId window (posts ++ others) (records ++ more) := by
  constructor
  · intro record member
    exact (List.mem_append.mp member).elim (first.inWindow record) (second.inWindow record)
  · intro record member
    rcases List.mem_append.mp member with earlier | later
    · rcases first.yielded record earlier with ⟨post, listed, group⟩
      exact ⟨post, List.mem_append_left _ listed, group⟩
    · rcases second.yielded record later with ⟨post, listed, group⟩
      exact ⟨post, List.mem_append_right _ listed, group⟩
  · intro post member event own group found within
    rcases List.mem_append.mp member with earlier | later
    · rcases first.complete post earlier event own group found within with ⟨record, listed, same⟩
      exact ⟨record, List.mem_append_left _ listed, same⟩
    · rcases second.complete post later event own group found within with ⟨record, listed, same⟩
      exact ⟨record, List.mem_append_right _ listed, same⟩

theorem chatRows_nil : ChatRows resourceId window [] [] :=
  ⟨fun _ absent => absurd absent List.not_mem_nil, fun _ absent => absurd absent List.not_mem_nil,
    fun _ absent => absurd absent List.not_mem_nil⟩

/-- Rows of several readings. -/
theorem chatRows_flatMap {α : Type} {readings : List α} {post : α → List ChatPost}
    {rows : α → List CommunityActivityRecord}
    (each : ∀ reading ∈ readings, ChatRows resourceId window (post reading) (rows reading)) :
    ChatRows resourceId window (readings.flatMap post) (readings.flatMap rows) := by
  induction readings with
  | nil => exact chatRows_nil
  | cons reading rest ih =>
      rw [List.flatMap_cons, List.flatMap_cons]
      exact (each reading List.mem_cons_self).append
        (ih fun other member => each other (List.mem_cons_of_mem _ member))

/-- Readings that are alike have the same row for an event. -/
theorem ChatReadAlike.group?_congr (alike : ChatReadAlike window posts) {left right : ChatPost}
    (leftMember : left ∈ posts) (rightMember : right ∈ posts) {event : PlatformEvent}
    {leftGroup rightGroup : ActivityGroup}
    (leftRow : left.group? resourceId event = some leftGroup)
    (rightRow : right.group? resourceId event = some rightGroup)
    (leftWithin : isWithinWindow leftGroup.occurredAt window = true)
    (rightWithin : isWithinWindow rightGroup.occurredAt window = true) :
    leftGroup = rightGroup := by
  cases event with
  | post objectId =>
      rw [ChatPost.group?, Option.ite_none_right_eq_some] at leftRow rightRow
      rcases leftRow with ⟨leftObject, leftSame⟩
      rcases rightRow with ⟨rightObject, rightSame⟩
      cases leftSame
      cases rightSame
      rcases (alike left leftMember right rightMember (leftObject.symm.trans rightObject)).1
        leftWithin rightWithin with ⟨author, time, reply, parent⟩
      rw [author, time, reply, parent]
  | reactionReceived objectId reactor =>
      rw [ChatPost.group?, Option.ite_none_right_eq_some] at leftRow rightRow
      rcases leftRow with ⟨leftObject, leftSame⟩
      rcases rightRow with ⟨rightObject, rightSame⟩
      cases leftSame
      cases rightSame
      rcases (alike left leftMember right rightMember (leftObject.symm.trans rightObject)).1
        leftWithin rightWithin with ⟨author, time, _⟩
      rw [author, time]
  | mentionReceived objectId mentioned =>
      rw [ChatPost.group?, Option.ite_none_right_eq_some] at leftRow rightRow
      rcases leftRow with ⟨leftObject, leftSame⟩
      rcases rightRow with ⟨rightObject, rightSame⟩
      cases leftSame
      cases rightSame
      rcases (alike left leftMember right rightMember (leftObject.symm.trans rightObject)).1
        leftWithin rightWithin with ⟨author, time, _⟩
      rw [author, time]
  | replyReceived objectId =>
      rw [ChatPost.group?, Option.ite_none_right_eq_some] at leftRow rightRow
      rcases leftRow with ⟨leftObject, leftSame⟩
      rcases rightRow with ⟨rightObject, rightSame⟩
      rcases Option.map_eq_some_iff.mp leftSame with ⟨leftParent, leftRead, leftSame⟩
      rcases Option.map_eq_some_iff.mp rightSame with ⟨rightParent, rightRead, rightSame⟩
      cases leftSame
      cases rightSame
      rcases (alike left leftMember right rightMember (leftObject.symm.trans rightObject)).2
        leftParent leftRead rightParent rightRead leftWithin rightWithin with ⟨parent, author⟩
      rw [parent, author]
  | repository => cases leftRow

theorem chat_mergesExactly_iff (rows : ChatRows resourceId window posts records) :
    MergesExactly window (chatStaged records) ↔ ChatReadAlike window posts := by
  have inWindow : ∀ entry ∈ chatStaged records,
      isWithinWindow entry.2.occurredAt window = true := by
    intro entry member
    rcases List.mem_map.mp member with ⟨record, listed, same⟩
    rw [← same]
    exact rows.inWindow record listed
  rw [mergesExactly_iff inWindow]
  constructor
  · intro corresponds left leftMember right rightMember sameObject
    have groups : ∀ event ∈ [PlatformEvent.post left.objectId, .replyReceived left.objectId],
        ∀ leftGroup ∈ left.group? resourceId event, ∀ rightGroup ∈ right.group? resourceId event,
        isWithinWindow leftGroup.occurredAt window = true →
        isWithinWindow rightGroup.occurredAt window = true → leftGroup = rightGroup := by
      intro event own leftGroup leftRow rightGroup rightRow leftWithin rightWithin
      rcases rows.complete left leftMember event own leftGroup leftRow leftWithin with
        ⟨leftRecord, leftListed, leftEvent, leftSame⟩
      rw [sameObject] at own
      rcases rows.complete right rightMember event own rightGroup rightRow rightWithin with
        ⟨rightRecord, rightListed, rightEvent, rightSame⟩
      rw [← leftSame, ← rightSame]
      exact (corresponds _ (List.mem_map_of_mem leftListed) _ (List.mem_map_of_mem rightListed)).mp
        (leftEvent.trans rightEvent.symm)
    constructor
    · intro leftWithin rightWithin
      have same := groups (.post left.objectId) List.mem_cons_self _ (if_pos rfl) _
        (if_pos sameObject) leftWithin rightWithin
      rcases ActivityGroup.mk.inj same with ⟨author, parent, type, _, _, time⟩
      refine ⟨author, time, ?_, parent⟩
      cases leftReply : left.isReply <;> cases rightReply : right.isReply <;>
        rw [leftReply, rightReply] at type <;> first | rfl | exact absurd type (by decide)
    · intro leftParent leftRead rightParent rightRead leftWithin rightWithin
      have leftRow : left.group? resourceId (.replyReceived left.objectId) = some _ :=
        (if_pos rfl).trans (congrArg (Option.map _) leftRead)
      have rightRow : right.group? resourceId (.replyReceived left.objectId) = some _ :=
        (if_pos sameObject).trans (congrArg (Option.map _) rightRead)
      have same := groups (.replyReceived left.objectId)
        (List.mem_cons_of_mem _ List.mem_cons_self) _ leftRow _ rightRow leftWithin rightWithin
      rcases ActivityGroup.mk.inj same with ⟨parent, author, _, _, _, time⟩
      exact ⟨Prod.ext parent time, Option.some.inj author⟩
  · intro alike left leftMember right rightMember
    rcases List.mem_map.mp leftMember with ⟨leftRecord, leftListed, leftSame⟩
    rcases List.mem_map.mp rightMember with ⟨rightRecord, rightListed, rightSame⟩
    rw [← leftSame, ← rightSame]
    constructor
    · intro (sameEvent : leftRecord.chatEvent = rightRecord.chatEvent)
      rcases rows.yielded leftRecord leftListed with ⟨leftPost, leftPosted, leftRow⟩
      rcases rows.yielded rightRecord rightListed with ⟨rightPost, rightPosted, rightRow⟩
      rw [← sameEvent] at rightRow
      exact alike.group?_congr leftPosted rightPosted leftRow rightRow
        (rows.inWindow leftRecord leftListed) (rows.inWindow rightRecord rightListed)
    · exact chatEvent_congr

end Chat

/-! ## The rows of each platform -/

section Platforms

variable {resourceId : String} {window : CommunityFetchWindow}

/-- The row that credits the author replied to. -/
theorem replyReceivedRecord_group (resourceId : String) (message : ScoredMessage)
    (parent : DiscordRawReference) :
    (replyReceivedRecord message resourceId parent).map (·.group) =
      parent.received.map fun received => ⟨received.1, some message.authorId,
        CommunityChatActivityType.replyReceived, resourceId, message.objectId, received.2⟩ := by
  rw [replyReceivedRecord, DiscordRawReference.received]
  cases parent.author.id with
  | none => rfl
  | some author => cases parent.timestamp <;> rfl

/-- Two rows with the event and group of a message's event are one row of it. -/
theorem group?_eq {post : ChatPost} {record : CommunityActivityRecord} {event : PlatformEvent}
    (own : record.chatEvent = event) (group : post.group? resourceId event = some record.group) :
    post.group? resourceId record.chatEvent = some record.group := by
  rw [own]
  exact group

theorem chatEvent_received {record : CommunityActivityRecord}
    (type : record.type = CommunityChatActivityType.replyReceived) :
    record.chatEvent = .replyReceived record.objectId := by
  rw [CommunityActivityRecord.chatEvent, type]
  rfl

theorem chatEvent_post {record : CommunityActivityRecord}
    (type : record.type = CommunityChatActivityType.message ∨
      record.type = CommunityChatActivityType.reply) :
    record.chatEvent = .post record.objectId := by
  rcases type with type | type
  · rw [CommunityActivityRecord.chatEvent, type]
    rfl
  · rw [CommunityActivityRecord.chatEvent, type]
    rfl

theorem discord_chatRows (raw : DiscordRawMessage) :
    ChatRows resourceId window (discordPost raw).toList
      (toActivityRecords raw resourceId window) := by
  rw [toActivityRecords, discordPost]
  cases toScoredMessage raw with
  | none => exact chatRows_nil
  | some message =>
      have ownType : (ownRecord message raw resourceId).type = CommunityChatActivityType.message ∨
          (ownRecord message raw resourceId).type = CommunityChatActivityType.reply := by
        rw [ownRecord]
        cases message.isReply
        · exact Or.inl rfl
        · exact Or.inr rfl
      constructor
      · exact fun record member => (List.mem_filter.mp member).2
      · intro record member
        refine ⟨_, List.mem_singleton_self _, ?_⟩
        rcases List.mem_cons.mp (List.mem_filter.mp member).1 with own | derived
        · rw [own]
          exact group?_eq (chatEvent_post ownType) (if_pos rfl)
        · rcases List.mem_append.mp derived with derived | mentioned
          · rcases List.mem_append.mp derived with reaction | received
            · rw [reactionRecords] at reaction
              split at reaction
              · rw [List.mem_singleton.mp reaction]
                exact if_pos rfl
              · exact absurd reaction List.not_mem_nil
            · rw [receivedRecords] at received
              split at received
              · rename_i reply
                rcases Option.bind_eq_some_iff.mp (Option.mem_toList.mp received) with
                  ⟨parent, read, credited⟩
                have group := replyReceivedRecord_group resourceId message parent
                rw [credited] at group
                rcases Option.map_eq_some_iff.mp group.symm with ⟨shown, known, same⟩
                have type : record.type = CommunityChatActivityType.replyReceived :=
                  (ActivityGroup.mk.inj same).2.2.1.symm
                have object : record.objectId = message.objectId :=
                  (ActivityGroup.mk.inj same).2.2.2.2.1.symm
                apply group?_eq (chatEvent_received type)
                have received : (message.reading raw).received = some shown := by
                  refine (if_pos reply).trans ?_
                  rw [read, Option.bind_some, known]
                refine (if_pos object).trans ?_
                rw [received, Option.map_some, object]
                exact congrArg some same
              · exact absurd received List.not_mem_nil
          · rcases List.mem_map.mp mentioned with ⟨user, _, same⟩
            rw [← same]
            exact if_pos rfl
      · intro post posted event own group found within
        cases List.mem_singleton.mp posted
        rcases List.mem_cons.mp own with same | received
        · rw [same, Option.mem_def, ChatPost.group?, if_pos rfl, Option.some_inj] at found
          refine ⟨ownRecord message raw resourceId, ?_, ?_, found⟩
          · rw [← found] at within
            exact List.mem_filter.mpr ⟨List.mem_cons_self, within⟩
          · rw [same]
            exact chatEvent_post ownType
        · rw [List.mem_singleton.mp received, Option.mem_def, ChatPost.group?, if_pos rfl] at found
          rcases Option.map_eq_some_iff.mp found with ⟨shown, known, same⟩
          rcases Option.ite_none_right_eq_some.mp known with ⟨reply, read⟩
          rcases Option.bind_eq_some_iff.mp read with ⟨parent, referenced, known⟩
          have credited : (replyReceivedRecord message resourceId parent).map (·.group) =
              some group := by
            rw [replyReceivedRecord_group, known]
            exact congrArg some same
          rcases Option.map_eq_some_iff.mp credited with ⟨record, recorded, grouped⟩
          have fields := ActivityGroup.mk.inj (grouped.trans same.symm)
          refine ⟨record, List.mem_filter.mpr ⟨?_, ?_⟩, ?_, grouped⟩
          · apply List.mem_cons_of_mem
            apply List.mem_append_left
            apply List.mem_append_right
            rw [receivedRecords, if_pos reply, referenced, Option.bind_some, recorded]
            exact List.mem_singleton_self record
          · rw [← grouped] at within
            exact within
          · rw [List.mem_singleton.mp received, chatEvent_received fields.2.2.1]
            exact congrArg PlatformEvent.replyReceived fields.2.2.2.2.1

/-- A post of a page. -/
theorem mattermost_chatRows (isBot : String → Bool) (page : MattermostPostPage)
    (raw : MattermostRawPost) :
    ChatRows resourceId window (mattermostPost page raw).toList
      ((toScoreablePost raw).toList.flatMap fun post =>
        toMattermostActivityRecords isBot resourceId window post raw page) := by
  rw [mattermostPost]
  cases toScoreablePost raw with
  | none => exact chatRows_nil
  | some post =>
      have type : ownType post = CommunityChatActivityType.message ∨
          ownType post = CommunityChatActivityType.reply := by
        rw [ownType]
        split
        · exact Or.inl rfl
        · exact Or.inr rfl
      have reply : (if decide (post.rootId ≠ none) = true then CommunityChatActivityType.reply
          else CommunityChatActivityType.message) = ownType post := by
        rw [ownType]
        cases post.rootId <;> rfl
      rw [Option.toList_some, List.flatMap_singleton, toMattermostActivityRecords]
      constructor
      · exact fun record member => (List.mem_filter.mp member).2
      · intro record member
        refine ⟨_, List.mem_singleton_self _, ?_⟩
        rcases List.mem_cons.mp (List.mem_filter.mp member).1 with own | derived
        · rw [own]
          apply group?_eq (chatEvent_post type)
          refine (if_pos rfl).trans ?_
          rw [MattermostPost.reading, reply]
          rfl
        · rcases List.mem_append.mp derived with reaction | received
          · rcases List.mem_map.mp reaction with ⟨user, _, same⟩
            rw [← same]
            exact if_pos rfl
          · rcases List.mem_map.mp received with ⟨root, found, same⟩
            rw [← same]
            apply group?_eq (chatEvent_received rfl)
            refine (if_pos rfl).trans ?_
            rw [MattermostPost.reading, Option.mem_toList.mp found]
            rfl
      · intro read posted event own group found within
        cases List.mem_singleton.mp posted
        rcases List.mem_cons.mp own with same | received
        · rw [same, Option.mem_def, ChatPost.group?, if_pos rfl, Option.some_inj] at found
          have found : (postRecord isBot resourceId post (ownType post)
              ((rootPost post page).map (·.userId)) 1).group = group := by
            rw [← found, ← reply]
            rfl
          refine ⟨postRecord isBot resourceId post (ownType post)
            ((rootPost post page).map (·.userId)) 1, ?_, ?_, found⟩
          · rw [← found] at within
            exact List.mem_filter.mpr ⟨List.mem_cons_self, within⟩
          · rw [same]
            exact chatEvent_post type
        · rw [List.mem_singleton.mp received, Option.mem_def, ChatPost.group?, if_pos rfl,
            MattermostPost.reading, Option.map_map] at found
          rcases Option.map_eq_some_iff.mp found with ⟨root, known, same⟩
          refine ⟨rootRecord isBot resourceId post root, List.mem_filter.mpr ⟨?_, ?_⟩, ?_, same⟩
          · apply List.mem_cons_of_mem
            apply List.mem_append_right
            exact List.mem_map_of_mem (Option.mem_toList.mpr known)
          · rw [← same] at within
            exact within
          · rw [List.mem_singleton.mp received]
            exact chatEvent_received rfl

end Platforms

/-! ## Readings of a repository -/

/-- What was listed of a repository; reviews come with the author of their pull request. -/
inductive GitHubReading where
  | issue (raw : GitHubRawIssue)
  | reviews (pullRequestAuthorId : Option String) (page : List GitHubRawReview)
  | issueComments (page : List GitHubRawComment)
  | reviewComments (page : List GitHubRawComment)
  deriving DecidableEq, Repr

/-- What a reading says of an event. -/
structure GitHubEntry where
  event : RepositoryEvent
  objectId : String
  actor : String
  counterparty : Option String
  occurredAt : Int
  deriving DecidableEq, Repr

/-- What is said of an event that has an actor, an id and a time. -/
def gitHubEntry (event : RepositoryEvent) (counterparty : Option String) (user : GitHubRawUser)
    (id : Option Nat) (occurredAt : Option Int) : Option GitHubEntry :=
  user.id.bind fun actor => id.bind fun id => occurredAt.map fun time =>
    ⟨event, toString id, toString actor, counterparty, time⟩

/-- The events of an issue or pull request. -/
def GitHubRawIssue.entries (raw : GitHubRawIssue) : List GitHubEntry :=
  match raw.pull_request with
  | none => (gitHubEntry .issueOpened none raw.user raw.id raw.created_at).toList
  | some merged_at =>
      (gitHubEntry .pullRequestOpened none raw.user raw.id raw.created_at).toList ++
        (gitHubEntry .pullRequestMerged none raw.user raw.id merged_at).toList

def GitHubRawReview.entry (pullRequestAuthorId : Option String) (raw : GitHubRawReview) :
    Option GitHubEntry :=
  if raw.pending then none
  else gitHubEntry .pullRequestReview pullRequestAuthorId raw.user raw.id raw.submitted_at

def GitHubRawComment.entry (event : RepositoryEvent) (raw : GitHubRawComment) :
    Option GitHubEntry :=
  gitHubEntry event none raw.user raw.id raw.created_at

def GitHubReading.entries : GitHubReading → List GitHubEntry
  | .issue raw => raw.entries
  | .reviews author page => page.filterMap (GitHubRawReview.entry author)
  | .issueComments page => page.filterMap (GitHubRawComment.entry .issueComment)
  | .reviewComments page => page.filterMap (GitHubRawComment.entry .reviewComment)

/-- The event of a row of an issue. -/
def CommunityActivityRecord.issueEvent (record : CommunityActivityRecord) : PlatformEvent :=
  if record.type = CommunityGithubActivityType.pullRequestOpened then
    .repository .pullRequestOpened record.objectId
  else if record.type = CommunityGithubActivityType.pullRequestMerged then
    .repository .pullRequestMerged record.objectId
  else .repository .issueOpened record.objectId

/-- The rows of a reading, with their events. -/
def gitHubStaged (resourceId : String) (window : CommunityFetchWindow) :
    GitHubReading → List StagedEvent
  | .issue raw => (toIssueRecords resourceId window raw).map fun record =>
      (record.issueEvent, record)
  | .reviews author page => (toReviewRecords resourceId window page author).map fun record =>
      (.repository .pullRequestReview record.objectId, record)
  | .issueComments page => (toCommentRecords resourceId window page).map fun record =>
      (.repository .issueComment record.objectId, record)
  | .reviewComments page => (toCommentRecords resourceId window page).map fun record =>
      (.repository .reviewComment record.objectId, record)

/-- What an event is called in its row. -/
def RepositoryEvent.type : RepositoryEvent → String
  | issueOpened => CommunityGithubActivityType.issueOpened
  | pullRequestOpened => CommunityGithubActivityType.pullRequestOpened
  | pullRequestMerged => CommunityGithubActivityType.pullRequestMerged
  | pullRequestReview => CommunityGithubActivityType.pullRequestReview
  | issueComment | reviewComment => CommunityGithubActivityType.comment

def GitHubEntry.group (resourceId : String) (entry : GitHubEntry) : ActivityGroup :=
  ⟨entry.actor, entry.counterparty, entry.event.type, resourceId, entry.objectId,
    entry.occurredAt⟩

/-- The events that readings show in the window. -/
def windowEntries (window : CommunityFetchWindow) (readings : List GitHubReading) :
    List GitHubEntry :=
  (readings.flatMap (·.entries)).filter fun entry => isWithinWindow entry.occurredAt window

/-- Two readings of an event in the window show the same, and no issue comment has the id,
author and time of a review comment. -/
def GitHubReadAlike (window : CommunityFetchWindow) (readings : List GitHubReading) : Prop :=
  ∀ left ∈ windowEntries window readings, ∀ right ∈ windowEntries window readings,
    left.objectId = right.objectId → (left.event = right.event → left = right) ∧
      (left.event = .issueComment → right.event = .reviewComment →
        left.actor = right.actor → left.occurredAt ≠ right.occurredAt)

section Repository

variable {resourceId : String} {window : CommunityFetchWindow}

/-- An entry as its row shows it. -/
def GitHubEntry.shown (resourceId : String) (entry : GitHubEntry) : PlatformEvent × ActivityGroup :=
  (.repository entry.event entry.objectId, entry.group resourceId)

/-- The row of an event, if it falls into the window. -/
theorem toRecord_entry (event : RepositoryEvent) {eventOf : CommunityActivityRecord → PlatformEvent}
    (named : ∀ record, record.type = event.type →
      eventOf record = .repository event record.objectId)
    (actor : GitHubActor) (id : Nat) (counterparty : Option String) (occurredAt : Option Int) :
    (toRecord resourceId window event.type actor counterparty (toString id) occurredAt).map
        (fun record => (eventOf record, record.group)) =
      ((occurredAt.map fun time => GitHubEntry.mk event (toString id) actor.id counterparty time
        ).filter fun entry => isWithinWindow entry.occurredAt window).map
          (GitHubEntry.shown resourceId) := by
  cases occurredAt with
  | none => rfl
  | some time =>
      rw [toRecord, Option.map_some]
      cases within : isWithinWindow time window with
      | false =>
          rw [Option.filter_some_neg (by simpa using within)]
          rfl
      | true =>
          rw [Option.filter_some_pos (by simpa using within), if_pos rfl, Option.map_some,
            named _ rfl]
          rfl

theorem review_entry (author : Option String) (raw : GitHubRawReview) :
    (toReviewRecord resourceId window author raw).map (fun record =>
        (PlatformEvent.repository .pullRequestReview record.objectId, record.group)) =
      ((raw.entry author).filter fun entry => isWithinWindow entry.occurredAt window).map
        (GitHubEntry.shown resourceId) := by
  rcases raw with ⟨id, ⟨userId, bot⟩, pending, submitted_at⟩
  cases pending <;> cases userId <;> cases id <;> try rfl
  exact toRecord_entry .pullRequestReview (fun _ _ => rfl) ⟨_, bot⟩ _ author submitted_at

theorem comment_entry (event : RepositoryEvent)
    (comment : event.type = CommunityGithubActivityType.comment) (raw : GitHubRawComment) :
    (toCommentRecord resourceId window raw).map (fun record =>
        (PlatformEvent.repository event record.objectId, record.group)) =
      ((raw.entry event).filter fun entry => isWithinWindow entry.occurredAt window).map
        (GitHubEntry.shown resourceId) := by
  rcases raw with ⟨id, ⟨userId, bot⟩, created_at⟩
  cases userId <;> cases id <;> try rfl
  refine Eq.trans ?_ (toRecord_entry event (fun _ _ => rfl) ⟨_, bot⟩ _ none created_at)
  rw [comment]
  rfl

theorem issueEvent_eq {event : RepositoryEvent} {record : CommunityActivityRecord}
    (own : event = .issueOpened ∨ event = .pullRequestOpened ∨ event = .pullRequestMerged)
    (type : record.type = event.type) :
    record.issueEvent = .repository event record.objectId := by
  rw [CommunityActivityRecord.issueEvent, type]
  rcases own with own | own | own <;> rw [own] <;> rfl

theorem issue_entries (raw : GitHubRawIssue) :
    (toIssueRecords resourceId window raw).map (fun record => (record.issueEvent, record.group)) =
      (raw.entries.filter fun entry => isWithinWindow entry.occurredAt window).map
        (GitHubEntry.shown resourceId) := by
  have listed : ∀ (event : RepositoryEvent) (actor : GitHubActor) (id : Nat)
      (occurredAt : Option Int),
      (event = .issueOpened ∨ event = .pullRequestOpened ∨ event = .pullRequestMerged) →
      (toRecord resourceId window event.type actor none (toString id) occurredAt).toList.map
          (fun record => (record.issueEvent, record.group)) =
        ((occurredAt.map fun time => GitHubEntry.mk event (toString id) actor.id none time
          ).toList.filter fun entry => isWithinWindow entry.occurredAt window).map
            (GitHubEntry.shown resourceId) := by
    intro event actor id occurredAt own
    rw [← Option.toList_map, toRecord_entry event fun _ => issueEvent_eq own, Option.toList_map,
      Option.toList_filter]
  rcases raw with ⟨id, number, ⟨userId, bot⟩, created_at, pull_request⟩
  cases userId with
  | none => cases pull_request <;> rfl
  | some userId =>
      cases id with
      | none => cases pull_request <;> rfl
      | some id =>
          cases pull_request with
          | none => exact listed .issueOpened ⟨toString userId, bot⟩ id created_at (Or.inl rfl)
          | some merged_at =>
              have opened := listed .pullRequestOpened ⟨toString userId, bot⟩ id created_at
                (Or.inr (Or.inl rfl))
              have merged := listed .pullRequestMerged ⟨toString userId, bot⟩ id merged_at
                (Or.inr (Or.inr rfl))
              refine List.map_append.trans ?_
              refine (congrArg₂ (· ++ ·) opened merged).trans ?_
              rw [← List.map_append, ← List.filter_append]
              rfl

/-- The staged rows of a reading are its entries in the window. -/
theorem gitHubStaged_entries (reading : GitHubReading) :
    (gitHubStaged resourceId window reading).map (fun staged => (staged.1, staged.2.group)) =
      (reading.entries.filter fun entry => isWithinWindow entry.occurredAt window).map
        (GitHubEntry.shown resourceId) := by
  cases reading with
  | issue raw =>
      rw [gitHubStaged, List.map_map]
      exact issue_entries raw
  | reviews author page =>
      rw [gitHubStaged, toReviewRecords, GitHubReading.entries, List.map_map, List.map_filterMap,
        List.filter_filterMap, List.map_filterMap]
      exact congrArg (List.filterMap · page) (funext (review_entry author))
  | issueComments page =>
      rw [gitHubStaged, toCommentRecords, GitHubReading.entries, List.map_map, List.map_filterMap,
        List.filter_filterMap, List.map_filterMap]
      exact congrArg (List.filterMap · page) (funext (comment_entry .issueComment rfl))
  | reviewComments page =>
      rw [gitHubStaged, toCommentRecords, GitHubReading.entries, List.map_map, List.map_filterMap,
        List.filter_filterMap, List.map_filterMap]
      exact congrArg (List.filterMap · page) (funext (comment_entry .reviewComment rfl))

theorem staged_windowEntries (resourceId : String) (window : CommunityFetchWindow)
    (readings : List GitHubReading) :
    (readings.flatMap (gitHubStaged resourceId window)).map
        (fun staged => (staged.1, staged.2.group)) =
      (windowEntries window readings).map (GitHubEntry.shown resourceId) := by
  rw [windowEntries, List.map_flatMap, List.filter_flatMap, List.map_flatMap]
  exact List.flatMap_congr fun reading _ => gitHubStaged_entries reading

theorem gitHubEntry_fields {event : RepositoryEvent} {counterparty : Option String}
    {user : GitHubRawUser} {id : Option Nat} {occurredAt : Option Int} {entry : GitHubEntry}
    (said : gitHubEntry event counterparty user id occurredAt = some entry) :
    entry.event = event ∧ entry.counterparty = counterparty := by
  rcases Option.bind_eq_some_iff.mp said with ⟨_, _, said⟩
  rcases Option.bind_eq_some_iff.mp said with ⟨_, _, said⟩
  rcases Option.map_eq_some_iff.mp said with ⟨_, _, said⟩
  rw [← said]
  exact ⟨rfl, rfl⟩

/-- Only reviews have a counterparty. -/
theorem entries_counterparty {reading : GitHubReading} {entry : GitHubEntry}
    (member : entry ∈ reading.entries) :
    entry.event = .pullRequestReview ∨ entry.counterparty = none := by
  cases reading with
  | issue raw =>
      apply Or.inr
      rw [GitHubReading.entries, GitHubRawIssue.entries] at member
      cases pull : raw.pull_request <;> rw [pull] at member
      · exact (gitHubEntry_fields (Option.mem_toList.mp member)).2
      · rcases List.mem_append.mp member with opened | merged
        · exact (gitHubEntry_fields (Option.mem_toList.mp opened)).2
        · exact (gitHubEntry_fields (Option.mem_toList.mp merged)).2
  | reviews author page =>
      rcases List.mem_filterMap.mp member with ⟨raw, _, said⟩
      rw [GitHubRawReview.entry] at said
      split at said
      · cases said
      · exact Or.inl (gitHubEntry_fields said).1
  | issueComments page | reviewComments page =>
      rcases List.mem_filterMap.mp member with ⟨raw, _, said⟩
      exact Or.inr (gitHubEntry_fields said).2

/-- The types of rows tell events apart, except for the two kinds of comments. -/
theorem RepositoryEvent.eq_of_type {left right : RepositoryEvent}
    (same : left.type = right.type) : left = right ∨
      (left = issueComment ∧ right = reviewComment) ∨
      (left = reviewComment ∧ right = issueComment) := by
  cases left <;> cases right <;> revert same <;> decide

theorem gitHub_mergesExactly_iff (readings : List GitHubReading) :
    MergesExactly window (readings.flatMap (gitHubStaged resourceId window)) ↔
      GitHubReadAlike window readings := by
  have staged := staged_windowEntries resourceId window readings
  have entryOf : ∀ row ∈ readings.flatMap (gitHubStaged resourceId window),
      ∃ entry ∈ windowEntries window readings,
        entry.shown resourceId = (row.1, row.2.group) := by
    intro row member
    have shown := List.mem_map_of_mem (f := fun staged => (staged.1, staged.2.group)) member
    rw [staged] at shown
    exact List.mem_map.mp shown
  have rowOf : ∀ entry ∈ windowEntries window readings,
      ∃ row ∈ readings.flatMap (gitHubStaged resourceId window),
        (row.1, row.2.group) = entry.shown resourceId := by
    intro entry member
    have shown := List.mem_map_of_mem (f := GitHubEntry.shown resourceId) member
    rw [← staged] at shown
    exact List.mem_map.mp shown
  have commented : ∀ entry ∈ windowEntries window readings,
      entry.event = .pullRequestReview ∨ entry.counterparty = none := by
    intro entry member
    rcases List.mem_flatMap.mp (List.mem_filter.mp member).1 with ⟨reading, _, listed⟩
    exact entries_counterparty listed
  rw [mergesExactly_iff]
  · constructor
    · intro corresponds left leftMember right rightMember sameObject
      rcases rowOf left leftMember with ⟨leftRow, leftListed, leftShown⟩
      rcases rowOf right rightMember with ⟨rightRow, rightListed, rightShown⟩
      have events : left.event = right.event ↔ left.group resourceId = right.group resourceId := by
        have same := corresponds leftRow leftListed rightRow rightListed
        rw [(Prod.mk.inj leftShown).1, (Prod.mk.inj leftShown).2, (Prod.mk.inj rightShown).1,
          (Prod.mk.inj rightShown).2, sameObject, PlatformEvent.repository.injEq] at same
        rw [← same, and_iff_left rfl]
      constructor
      · intro sameEvent
        rcases ActivityGroup.mk.inj (events.mp sameEvent) with ⟨actor, counterparty, _, _, _, time⟩
        cases left
        cases right
        cases sameObject
        cases sameEvent
        cases actor
        cases counterparty
        cases time
        rfl
      · intro leftEvent rightEvent actor time
        have sameGroup : left.group resourceId = right.group resourceId := by
          rcases commented left leftMember with review | leftNone
          · exact absurd (leftEvent.symm.trans review) (by decide)
          · rcases commented right rightMember with review | rightNone
            · exact absurd (rightEvent.symm.trans review) (by decide)
            · rw [GitHubEntry.group, GitHubEntry.group, leftEvent, rightEvent, leftNone, rightNone,
                actor, sameObject, time]
              rfl
        have sameEvent := events.mpr sameGroup
        rw [leftEvent, rightEvent] at sameEvent
        cases sameEvent
    · intro alike leftRow leftListed rightRow rightListed
      rcases entryOf leftRow leftListed with ⟨left, leftMember, leftShown⟩
      rcases entryOf rightRow rightListed with ⟨right, rightMember, rightShown⟩
      rw [← (Prod.mk.inj leftShown).1, ← (Prod.mk.inj leftShown).2, ← (Prod.mk.inj rightShown).1,
        ← (Prod.mk.inj rightShown).2, PlatformEvent.repository.injEq]
      constructor
      · rintro ⟨sameEvent, sameObject⟩
        rw [(alike left leftMember right rightMember sameObject).1 sameEvent]
      · intro same
        rcases ActivityGroup.mk.inj same with ⟨actor, _, type, _, object, time⟩
        refine ⟨?_, object⟩
        rcases RepositoryEvent.eq_of_type type with sameEvent | ⟨issue, review⟩ | ⟨review, issue⟩
        · exact sameEvent
        · exact absurd time
            ((alike left leftMember right rightMember object).2 issue review actor)
        · exact absurd time.symm
            ((alike right rightMember left leftMember object.symm).2 issue review actor.symm)
  · intro row member
    rcases entryOf row member with ⟨entry, listed, same⟩
    have time : row.2.occurredAt = entry.occurredAt := congrArg (·.2.occurredAt) same.symm
    rw [time]
    exact (List.mem_filter.mp listed).2

end Repository

/-! ## Two crawls -/

/-- A page of posts, with the accounts that were known to be bots. -/
structure MattermostReading where
  isBot : String → Bool
  page : MattermostPostPage

/-- What two crawls read of a resource; between any two readings the platform may change. -/
inductive TwoCrawls where
  | discord (first second : List DiscordRawMessage)
  | mattermost (first second : List MattermostReading)
  | github (first second : List GitHubReading)

namespace TwoCrawls

/-- The rows that both crawls staged. -/
def staged (resourceId : String) (window : CommunityFetchWindow) : TwoCrawls → List StagedEvent
  | discord first second => chatStaged ((first ++ second).flatMap fun raw =>
      toActivityRecords raw resourceId window)
  | mattermost first second => chatStaged ((first ++ second).flatMap fun reading =>
      mattermostPageRecords reading.isBot resourceId window reading.page)
  | github first second => (first ++ second).flatMap (gitHubStaged resourceId window)

/-- What was read of an event was read alike. -/
def ReadAlike (window : CommunityFetchWindow) : TwoCrawls → Prop
  | discord first second => ChatReadAlike window ((first ++ second).flatMap fun raw =>
      (discordPost raw).toList)
  | mattermost first second => ChatReadAlike window ((first ++ second).flatMap fun reading =>
      reading.page.posts.flatMap fun raw => (mattermostPost reading.page raw).toList)
  | github first second => GitHubReadAlike window (first ++ second)

end TwoCrawls

/-- Exactly the rows of one event are merged if and only if it was read alike. -/
theorem crawls_mergeExactly_iff (resourceId : String) (window : CommunityFetchWindow)
    (crawls : TwoCrawls) :
    MergesExactly window (crawls.staged resourceId window) ↔ crawls.ReadAlike window := by
  cases crawls with
  | discord first second =>
      exact chat_mergesExactly_iff (chatRows_flatMap fun raw _ => discord_chatRows raw)
  | mattermost first second =>
      apply chat_mergesExactly_iff
      apply chatRows_flatMap
      intro reading _
      exact chatRows_flatMap fun raw _ => mattermost_chatRows reading.isBot reading.page raw
  | github first second => exact gitHub_mergesExactly_iff (first ++ second)

/-- A reply to a message of another member, that is deleted or still there. -/
private def replyReading (parent : Option DiscordRawReference) : DiscordRawMessage where
  id := some "7"
  type := some DiscordMessageType.reply
  timestamp := some 5
  author := ⟨some "2", false⟩
  mentions := []
  reactions := []
  referenced_message := parent

private def sharedComment : GitHubRawComment := ⟨some 9, ⟨some 4, false⟩, some 5⟩

private def fullWindow : CommunityFetchWindow := ⟨0, 10⟩

/-- A reply counts twice if its parent was deleted before it was read again, and a comment
on an issue is merged with the review comment that has its id. -/
theorem reread_reply_counts_twice :
    ¬MergesExactly fullWindow ((TwoCrawls.discord [replyReading (some ⟨some 1, some "3", false⟩)]
        [replyReading none]).staged "c" fullWindow) ∧
      ¬MergesExactly fullWindow ((TwoCrawls.github [.issueComments [sharedComment]]
        [.reviewComments [sharedComment]]).staged "c" fullWindow) := by
  constructor
  · intro merges
    have alike := (chat_mergesExactly_iff
      (chatRows_flatMap fun raw _ => discord_chatRows raw)).mp merges
    have same := (alike ⟨"7", "2", 5, true, some "3", some ("3", 1)⟩ (by decide +kernel)
      ⟨"7", "2", 5, true, none, none⟩ (by decide +kernel) rfl).1 rfl rfl
    exact absurd same.2.2.2 (by decide)
  · intro merges
    have alike := (gitHub_mergesExactly_iff _).mp merges
    exact (alike ⟨.issueComment, "9", "4", none, 5⟩ (by decide +kernel)
      ⟨.reviewComment, "9", "4", none, 5⟩ (by decide +kernel) rfl).2 rfl rfl rfl rfl

end Reputo.Community

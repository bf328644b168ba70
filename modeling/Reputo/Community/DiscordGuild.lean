import Mathlib.Data.List.TakeWhile
import Reputo.Community.Discord
import Reputo.Library.Resumption

/-!
# A guild

A guild answers with a fixed set of messages: those of a channel and of its threads, newest
first.  A page of messages has all that is owed up to its last message.
-/

namespace Reputo.Community

open Reputo.Library

namespace Discord

/-- The snowflake that a text writes. -/
def snowflakeOf (text : String) : Nat := Nat.ofDigitChars 10 text.toList 0

theorem snowflakeOf_toString (snowflake : Nat) : snowflakeOf (toString snowflake) = snowflake := by
  have digits : (toString snowflake).toList = Nat.toDigits 10 snowflake := Nat.toList_repr
  rw [snowflakeOf, digits, Nat.ofDigitChars_ten_toDigits]

/-- When a snowflake was made. -/
def snowflakeMs (snowflake : Nat) : Int := discordEpochMs + (snowflake >>> 22 : Nat)

/-- A message that has its snowflake as id, and its time. -/
structure GuildMessage where
  snowflake : Nat
  raw : DiscordRawMessage
  named : raw.id = some (toString snowflake)
  dated : raw.timestamp = some (snowflakeMs snowflake)

def GuildMessage.createdMs (message : GuildMessage) : Int := snowflakeMs message.snowflake

/-- A public thread of a channel that was archived. -/
structure ArchivedThread (channelId : String) where
  raw : DiscordRawThread
  id : String
  archivedAt : Int
  crawlable : toCrawlableThread channelId raw = some ⟨id, some archivedAt⟩

/-- A channel of a guild, with the messages of any channel or thread newest first, the active
threads of the guild, and the archived threads of the channel, last archived first. -/
structure Guild (channelId : String) where
  channel : DiscordRawChannel
  channelMeta : DiscordChannelMeta
  supported : toChannelMeta channel = some channelMeta
  messages : String → List GuildMessage
  newestFirst : ∀ id, (messages id).Pairwise fun newer older => older.snowflake < newer.snowflake
  activeThreads : List DiscordRawThread
  archivedThreads : List (ArchivedThread channelId)
  lastArchivedFirst : archivedThreads.Pairwise fun later earlier =>
    earlier.archivedAt < later.archivedAt
  quiet : ∀ thread ∈ archivedThreads, ∀ message ∈ messages thread.id,
    message.createdMs * 1000 ≤ thread.archivedAt
  forum : channelMeta.kind = .forum → messages channelId = []

def archivedThreadsPageLimit : Nat := 100

namespace Guild

variable {channelId : String}

def messagesBefore (guild : Guild channelId) (id : String) (snowflake : Nat) : List GuildMessage :=
  (guild.messages id).filter (·.snowflake < snowflake)

def archivedBefore (guild : Guild channelId) (before : Option Int) :
    List (ArchivedThread channelId) :=
  guild.archivedThreads.filter fun thread => before.all (thread.archivedAt < ·)

def answer : ∀ {α : Type}, DiscordRequest α → Guild channelId → α
  | _, .channel _, guild => .ok guild.channel
  | _, .messages id before, guild =>
      .ok (((guild.messagesBefore id (snowflakeOf before)).take messagesPageLimit).map (·.raw))
  | _, .activeThreads _, guild => .ok guild.activeThreads
  | _, .archivedThreads _ before, guild =>
      .ok ⟨((guild.archivedBefore before).take archivedThreadsPageLimit).map (·.raw),
        decide (archivedThreadsPageLimit < (guild.archivedBefore before).length)⟩

/-- The active public threads of the channel. -/
def activePublic (guild : Guild channelId) : List String :=
  (guild.activeThreads.filterMap (toCrawlableThread channelId)).map (·.id)

/-- The channel and its public threads. -/
def places (guild : Guild channelId) : List String :=
  channelId :: (guild.activePublic ++ guild.archivedThreads.map (·.id))

end Guild

/-! ## Rows of messages -/

section Rows

variable (resourceId : String) (window : CommunityFetchWindow)

/-- The rows of those messages that were created inside the window. -/
def rowsOf (messages : List GuildMessage) : Set CommunityActivityRecord :=
  {row | ∃ message ∈ messages, isWithinWindow message.createdMs window = true ∧
    row ∈ toActivityRecords message.raw resourceId window}

/-- The rows of several channels or threads, which are all rows of the one channel. -/
def Guild.rowsIn {channelId : String} (guild : Guild channelId) (ids : List String) :
    Set CommunityActivityRecord :=
  {row | ∃ id ∈ ids, row ∈ rowsOf channelId window (guild.messages id)}

/-- The rows of the channel and its public threads. -/
def Guild.windowRows {channelId : String} (guild : Guild channelId) :
    Set CommunityActivityRecord :=
  guild.rowsIn window guild.places

variable {resourceId window} {messages more : List GuildMessage}

theorem rowsOf_mono (fewer : ∀ message ∈ messages, message ∈ more) :
    rowsOf resourceId window messages ⊆ rowsOf resourceId window more := by
  rintro row ⟨message, member, within, derived⟩
  exact ⟨message, fewer message member, within, derived⟩

/-- The first snowflake that is not before the end of a window. -/
def finishSnowflake (window : CommunityFetchWindow) : Nat :=
  (max 0 (window.finish - discordEpochMs)).toNat <<< 22

theorem snowflakeForTimestamp_finish :
    snowflakeForTimestamp window.finish = toString (finishSnowflake window) := rfl

theorem snowflakeOf_finish :
    snowflakeOf (snowflakeForTimestamp window.finish) = finishSnowflake window := by
  rw [snowflakeForTimestamp_finish, snowflakeOf_toString]

theorem snowflakeMs_mono {older newer : Nat} (before : older ≤ newer) :
    snowflakeMs older ≤ snowflakeMs newer := by
  have divided : older >>> 22 ≤ newer >>> 22 := by
    rw [Nat.shiftRight_eq_div_pow, Nat.shiftRight_eq_div_pow]
    exact Nat.div_le_div_right before
  exact Int.add_le_add_left (Int.ofNat_le.mpr divided) discordEpochMs

theorem lt_shiftLeft_iff (snowflake time bits : Nat) :
    snowflake < time <<< bits ↔ snowflake >>> bits < time := by
  rw [Nat.shiftLeft_eq, Nat.shiftRight_eq_div_pow]
  exact (Nat.div_lt_iff_lt_mul (Nat.two_pow_pos bits)).symm

theorem lt_toNat_iff (time : Nat) (finish epoch : Int) :
    time < (max 0 (finish - epoch)).toNat ↔ epoch + time < finish := by
  omega

theorem lt_finishSnowflake (snowflake : Nat) :
    snowflake < finishSnowflake window ↔ snowflakeMs snowflake < window.finish :=
  (lt_shiftLeft_iff snowflake _ 22).trans
    (lt_toNat_iff (snowflake >>> 22) window.finish discordEpochMs)

/-- A message inside the window is before its end, and not before its start. -/
theorem within_iff (message : GuildMessage) :
    isWithinWindow message.createdMs window = true ↔
      window.start ≤ message.createdMs ∧ message.snowflake < finishSnowflake window := by
  rw [lt_finishSnowflake]
  rw [isWithinWindow, GuildMessage.createdMs, Bool.and_eq_true, decide_eq_true_iff,
    decide_eq_true_iff]

/-! ## Pages -/

section Pages

variable {last : Option String}

/-- The rows of a page are those of its messages up to the first from before the window. -/
theorem processMessages_records :
    (processMessages resourceId window (messages.map (·.raw)) last).1 =
      (messages.takeWhile fun message => window.start ≤ message.createdMs).flatMap
        fun message => toActivityRecords message.raw resourceId window := by
  induction messages generalizing last with
  | nil => rfl
  | cons message rest ih =>
      rw [List.map_cons, processMessages, message.dated, Option.any_some]
      by_cases early : snowflakeMs message.snowflake < window.start
      · have stops : ¬window.start ≤ message.createdMs := Int.not_le.mpr early
        rw [if_pos (decide_eq_true early), List.takeWhile_cons_of_neg (by simpa using stops)]
        rfl
      · have goes : window.start ≤ message.createdMs := Int.not_lt.mp early
        rw [if_neg (by simpa using early), List.takeWhile_cons_of_pos (by simpa using goes),
          List.flatMap_cons]
        exact congrArg (toActivityRecords message.raw resourceId window ++ ·) ih

theorem processMessages_reached :
    (processMessages resourceId window (messages.map (·.raw)) last).2.1 =
      messages.any fun message => message.createdMs < window.start := by
  induction messages generalizing last with
  | nil => rfl
  | cons message rest ih =>
      rw [List.map_cons, processMessages, message.dated, Option.any_some, List.any_cons]
      by_cases early : snowflakeMs message.snowflake < window.start
      · rw [if_pos (decide_eq_true early)]
        simp [GuildMessage.createdMs, early]
      · rw [if_neg (by simpa using early), ih]
        simp [GuildMessage.createdMs, early]

/-- A page without old messages ends with its last message. -/
theorem processMessages_last
    (young : ∀ message ∈ messages, window.start ≤ message.createdMs) :
    (processMessages resourceId window (messages.map (·.raw)) last).2.2 =
      (messages.getLast?.map fun message => toString message.snowflake).or last := by
  induction messages generalizing last with
  | nil => rfl
  | cons message rest ih =>
      have late : ¬snowflakeMs message.snowflake < window.start :=
        Int.not_lt.mpr (young message List.mem_cons_self)
      rw [List.map_cons, processMessages, message.dated, Option.any_some,
        if_neg (by simpa using late), ih fun other member =>
          young other (List.mem_cons_of_mem _ member), message.named]
      cases rest with
      | nil => rfl
      | cons next rest =>
          rw [List.getLast?_cons_cons, List.getLast?_eq_some_getLast (List.cons_ne_nil next rest)]
          rfl

/-- Newest first. -/
def NewestFirst (messages : List GuildMessage) : Prop :=
  messages.Pairwise fun newer older => older.snowflake < newer.snowflake

/-- Of messages newest first, the young ones stand before the first old one. -/
theorem mem_takeWhile_of_young (ordered : NewestFirst messages) {message : GuildMessage}
    (member : message ∈ messages) (young : window.start ≤ message.createdMs) :
    message ∈ messages.takeWhile fun message => window.start ≤ message.createdMs := by
  induction messages with
  | nil => exact member
  | cons first rest ih =>
      rcases List.pairwise_cons.mp ordered with ⟨before, others⟩
      rcases List.mem_cons.mp member with same | later
      · rw [same] at young ⊢
        rw [List.takeWhile_cons_of_pos (by simpa using young)]
        exact List.mem_cons_self
      · have goes : window.start ≤ first.createdMs :=
          young.trans (snowflakeMs_mono (before message later).le)
        rw [List.takeWhile_cons_of_pos (by simpa using goes)]
        exact List.mem_cons_of_mem _ (ih others later)

/-- A page of messages newest first. -/
def pageOf (resourceId : String) (window : CommunityFetchWindow) (messages : List GuildMessage) :
    MessagePageOutcome :=
  processMessagePage ((messages.take messagesPageLimit).map (·.raw)) resourceId window

theorem pageOf_records : (pageOf resourceId window messages).records =
    ((messages.take messagesPageLimit).takeWhile fun message =>
      window.start ≤ message.createdMs).flatMap
        fun message => toActivityRecords message.raw resourceId window :=
  processMessages_records

/-- The walk ends on an old message, on a short page and on one without ids. -/
theorem pageOf_done : (pageOf resourceId window messages).done =
    (((messages.take messagesPageLimit).any fun message => message.createdMs < window.start) ||
      (messages.take messagesPageLimit).length < messagesPageLimit ||
      (pageOf resourceId window messages).nextBefore.isNone) := by
  rw [pageOf, processMessagePage, processMessages_reached, List.length_map]

/-- Rows of a page are rows of its messages. -/
theorem mem_rowsOf_of_page (early : ∀ message ∈ messages,
      message.snowflake < finishSnowflake window) {row : CommunityActivityRecord}
    (read : row ∈ (pageOf resourceId window messages).records) :
    row ∈ rowsOf resourceId window messages := by
  rw [pageOf_records] at read
  rcases List.mem_flatMap.mp read with ⟨message, member, derived⟩
  have listed := List.mem_of_mem_take (List.takeWhile_subset _ member)
  have young := List.mem_takeWhile_imp member
  exact ⟨message, listed, (within_iff message).mpr ⟨by simpa using young, early message listed⟩,
    derived⟩

/-- The rows of the messages that a page shows. -/
theorem rowsOf_take_subset (ordered : NewestFirst messages) :
    rowsOf resourceId window (messages.take messagesPageLimit) ⊆
      {row | row ∈ (pageOf resourceId window messages).records} := by
  rintro row ⟨message, member, within, derived⟩
  have young := ((within_iff message).mp within).1
  have shown := mem_takeWhile_of_young (ordered.sublist (List.take_sublist _ _)) member young
  rw [Set.mem_ofPred_eq, pageOf_records]
  exact List.mem_flatMap.mpr ⟨message, shown, derived⟩

/-- Messages after a page are older than those that it shows. -/
theorem older_of_drop (ordered : NewestFirst messages) {shown later : GuildMessage}
    (first : shown ∈ messages.take messagesPageLimit)
    (member : later ∈ messages.drop messagesPageLimit) : later.snowflake < shown.snowflake := by
  rw [NewestFirst, ← List.take_append_drop messagesPageLimit messages] at ordered
  exact (List.pairwise_append.mp ordered).2.2 shown first later member

/-- After a page with an old message there are no more rows. -/
theorem rowsOf_subset_of_old (ordered : NewestFirst messages) {old : GuildMessage}
    (first : old ∈ messages.take messagesPageLimit) (early : old.createdMs < window.start) :
    rowsOf resourceId window messages ⊆
      rowsOf resourceId window (messages.take messagesPageLimit) := by
  rintro row ⟨message, member, within, derived⟩
  rw [← List.take_append_drop messagesPageLimit messages] at member
  rcases List.mem_append.mp member with shown | later
  · exact ⟨message, shown, within, derived⟩
  · have older := snowflakeMs_mono (older_of_drop ordered first later).le
    have young := ((within_iff message).mp within).1
    exact absurd (young.trans older) (Int.not_le.mpr early)

/-- A page ends the walk with all rows, or the walk goes on before one of its messages. -/
theorem pageOf_cases (ordered : NewestFirst messages) :
    ((pageOf resourceId window messages).done = true ∧ rowsOf resourceId window messages ⊆
      {row | row ∈ (pageOf resourceId window messages).records}) ∨
    ((pageOf resourceId window messages).done = false ∧ ∃ message ∈ messages,
      (pageOf resourceId window messages).nextBefore = some (toString message.snowflake) ∧
      rowsOf resourceId window messages ⊆
        {row | row ∈ (pageOf resourceId window messages).records} ∪
          rowsOf resourceId window
            (messages.filter fun other => other.snowflake < message.snowflake)) := by
  have shown := @rowsOf_take_subset resourceId window messages ordered
  by_cases old : ∃ message ∈ messages.take messagesPageLimit, message.createdMs < window.start
  · rcases old with ⟨message, member, early⟩
    left
    constructor
    · have reached : ((messages.take messagesPageLimit).any fun message =>
          message.createdMs < window.start) = true :=
        List.any_eq_true.mpr ⟨message, member, by simpa using early⟩
      rw [pageOf_done, reached, Bool.true_or, Bool.true_or]
    · exact (rowsOf_subset_of_old ordered member early).trans shown
  · have young : ∀ message ∈ messages.take messagesPageLimit,
        window.start ≤ message.createdMs := by
      intro message member
      exact Int.not_lt.mp fun early => old ⟨message, member, early⟩
    by_cases short : messages.length < messagesPageLimit
    · left
      constructor
      · simp [pageOf_done, short]
      · rw [List.take_of_length_le short.le] at shown
        exact shown
    · right
      have full : (messages.take messagesPageLimit).length = messagesPageLimit :=
        List.length_take_of_le (Nat.not_lt.mp short)
      have filled : messages.take messagesPageLimit ≠ [] := by
        intro empty
        rw [empty] at full
        cases full
      have ending : (pageOf resourceId window messages).nextBefore =
          some (toString ((messages.take messagesPageLimit).getLast filled).snowflake) := by
        rw [pageOf, processMessagePage, processMessages_last young,
          List.getLast?_eq_some_getLast filled]
        rfl
      have notReached : ((messages.take messagesPageLimit).any fun message =>
          message.createdMs < window.start) = false := by
        simpa using young
      refine ⟨?_, _, List.mem_of_mem_take (List.getLast_mem filled), ending, ?_⟩
      · simp [pageOf_done, notReached, ending, Nat.not_lt.mp short]
      · rintro row ⟨message, member, within, derived⟩
        rw [← List.take_append_drop messagesPageLimit messages] at member
        rcases List.mem_append.mp member with here | later
        · exact .inl (shown ⟨message, here, within, derived⟩)
        · have older := older_of_drop ordered (List.getLast_mem filled) later
          exact .inr ⟨message, List.mem_filter.mpr ⟨List.mem_of_mem_drop later,
            by simpa using older⟩, within, derived⟩

end Pages

end Rows

end Discord

end Reputo.Community

import Reputo.Community.DiscordGuild

/-!
# What an attempt of the Discord crawl reads

From each cursor a part of a guild is left, and an attempt reads all of it: threads page by page
under the cursor of their listing, archived threads listing by listing, and the channel's own
messages page by page.
-/

namespace Reputo.Community

open Reputo.Library

namespace Discord

variable {channelId : String} (guild : Guild channelId) (window : CommunityFetchWindow)
  (cursorText : CursorText DiscordResourceCursor)

/-! ## What is left from a cursor -/

namespace Guild

/-- The rows of messages before a snowflake. -/
def rowsBefore (id : String) (snowflake : Nat) : Set CommunityActivityRecord :=
  rowsOf channelId window (guild.messagesBefore id snowflake)

/-- The rows of the threads that are walked from an archive time on. -/
def threadsLeft (before : Option Int) : Set CommunityActivityRecord :=
  guild.rowsIn window
    ((if before.isSome then [] else guild.activePublic) ++ (guild.archivedBefore before).map (·.id))

/-- The snowflake that the channel's messages are asked for from a cursor. -/
def startOf (cursor : DiscordResourceCursor) : Nat :=
  snowflakeOf (cursor.before.getD (snowflakeForTimestamp window.finish))

def leftOf (cursor : DiscordResourceCursor) : Set CommunityActivityRecord :=
  match cursor.phase with
  | .messages => guild.rowsBefore window channelId (startOf window cursor) ∪
      guild.threadsLeft window cursor.archivedBefore
  | .threads => guild.threadsLeft window cursor.archivedBefore

/-- The records of batches, and what is left from their cursors. -/
def ledger : Ledger CommunityRecordBatch String CommunityActivityRecord where
  rows batch := {row | row ∈ batch.records}
  cursor := (·.cursor)
  left text := guild.leftOf window (parseCursor cursorText text)

/-- A batch under a cursor, with rows of the window. -/
structure Under (cursor : DiscordResourceCursor) (batch : CommunityRecordBatch) : Prop where
  cursor : batch.cursor = cursorText.stringify cursor
  records : ∀ row ∈ batch.records, row ∈ guild.windowRows window

variable {guild window cursorText}

theorem ledger_left (cursor : DiscordResourceCursor) :
    (guild.ledger window cursorText).left (some (cursorText.stringify cursor)) =
      guild.leftOf window cursor := by
  show guild.leftOf window ((cursorText.parse (cursorText.stringify cursor)).getD _) = _
  rw [cursorText.parse_stringify]
  rfl

theorem Under.left {cursor : DiscordResourceCursor} {batch : CommunityRecordBatch}
    (under : guild.Under window cursorText cursor batch) :
    (guild.ledger window cursorText).left (some ((guild.ledger window cursorText).cursor batch)) =
      guild.leftOf window cursor := by
  rw [← ledger_left, ← under.cursor]
  rfl

/-- Rows before the end of the window are all rows. -/
theorem rowsOf_subset_rowsBefore (id : String) :
    rowsOf channelId window (guild.messages id) ⊆
      guild.rowsBefore window id (finishSnowflake window) := by
  rintro row ⟨message, member, within, derived⟩
  refine ⟨message, List.mem_filter.mpr ⟨member, ?_⟩, within, derived⟩
  exact decide_eq_true ((within_iff message).mp within).2

theorem rowsBefore_subset (id : String) (snowflake : Nat) :
    guild.rowsBefore window id snowflake ⊆ rowsOf channelId window (guild.messages id) :=
  rowsOf_mono fun _ member => (List.mem_filter.mp member).1

theorem newestFirst_before (id : String) (snowflake : Nat) :
    NewestFirst (guild.messagesBefore id snowflake) :=
  (guild.newestFirst id).sublist List.filter_sublist

theorem messagesBefore_messagesBefore (id : String) {earlier later : Nat}
    (less : earlier ≤ later) :
    (guild.messagesBefore id later).filter (·.snowflake < earlier) =
      guild.messagesBefore id earlier := by
  rw [messagesBefore, messagesBefore, List.filter_filter]
  apply List.filter_congr
  intro message _
  rw [Bool.and_eq_left_iff_imp]
  exact fun before => decide_eq_true ((of_decide_eq_true before).trans_le less)

/-! ## Pages of messages -/

theorem mem_windowRows_of_page {id : String} (place : id ∈ guild.places) {before : Nat}
    (inside : before ≤ finishSnowflake window) {row : CommunityActivityRecord}
    (read : row ∈ (pageOf channelId window (guild.messagesBefore id before)).records) :
    row ∈ guild.windowRows window := by
  refine ⟨id, place, guild.rowsBefore_subset id before ?_⟩
  apply mem_rowsOf_of_page ?_ read
  intro message member
  exact (of_decide_eq_true (List.mem_filter.mp member).2).trans_le inside

/-- A page ends the walk with all rows, or the walk goes on before an earlier snowflake, with
fewer messages before it. -/
theorem page_cases (id : String) (before : Nat) :
    ((pageOf channelId window (guild.messagesBefore id before)).done = true ∧
      guild.rowsBefore window id before ⊆
        {row | row ∈ (pageOf channelId window (guild.messagesBefore id before)).records}) ∨
    ((pageOf channelId window (guild.messagesBefore id before)).done = false ∧
      ∃ next, (pageOf channelId window (guild.messagesBefore id before)).nextBefore =
          some (toString next) ∧ next < before ∧
        (guild.messagesBefore id next).length < (guild.messagesBefore id before).length ∧
        guild.rowsBefore window id before ⊆
          {row | row ∈ (pageOf channelId window (guild.messagesBefore id before)).records} ∪
            guild.rowsBefore window id next) := by
  rcases @pageOf_cases channelId window _ (guild.newestFirst_before id before) with
    ends | ⟨goes, message, member, next, covered⟩
  · exact .inl ends
  · right
    have less := of_decide_eq_true (List.mem_filter.mp member).2
    have fewer := guild.messagesBefore_messagesBefore id less.le
    rw [fewer] at covered
    refine ⟨goes, message.snowflake, next, less, ?_, covered⟩
    rw [← fewer]
    exact List.length_filter_lt_length_iff_exists.mpr ⟨message, member, by simp⟩

/-- A walk that ended, with the reasons that were remembered before. -/
def Unharmed (partialReasons : List String) (ended : Except CommunityApiError CrawlState) : Prop :=
  ∃ after : CrawlState, ended = .ok after ∧ after.partialReasons = partialReasons

/-- The walk of a thread under the cursor of its listing reads the thread. -/
theorem reads_threadMessages {threadId : String} (place : threadId ∈ guild.places)
    {cursor : DiscordResourceCursor}
    (listed : rowsOf channelId window (guild.messages threadId) ⊆ guild.leftOf window cursor)
    {fuel : Nat} {state : CrawlState} {before : Nat} (inside : before ≤ finishSnowflake window)
    (enough : (guild.messagesBefore threadId before).length < fuel) :
    Reads (fun operation => Guild.answer operation guild) (guild.ledger window cursorText)
      (guild.Under window cursorText cursor) (guild.rowsBefore window threadId before) ∅
      (Unharmed state.partialReasons)
      (crawlThreadMessages cursorText channelId window threadId cursor fuel state
        (toString before)) := by
  induction fuel generalizing state before with
  | zero => exact absurd enough (Nat.not_lt_zero _)
  | succ fuel ih =>
      rw [crawlThreadMessages]
      apply Reads.request_bind
      have answered : (Guild.answer (.messages threadId (toString before)) guild :
          Except CommunityApiError (List DiscordRawMessage)) =
          .ok (((guild.messagesBefore threadId before).take messagesPageLimit).map (·.raw)) := by
        rw [Guild.answer, snowflakeOf_toString]
      rw [answered]
      have records := fun row => @mem_windowRows_of_page _ guild window threadId place before
        inside row
      have cursorLeft (rows : Set CommunityActivityRecord)
          (within : rows ⊆ rowsOf channelId window (guild.messages threadId)) :
          rows ⊆ (guild.ledger window cursorText).left (some (cursorText.stringify cursor)) := by
        rw [ledger_left]
        exact within.trans listed
      have covers := @page_cases channelId guild window threadId before
      rw [pageOf] at covers
      change Reads _ _ _ _ _ _ (Generator.yield _ >>= _)
      rcases covers with ⟨ends, covered⟩ | ⟨goes, next, following, less, fewer, covered⟩
      · apply Reads.yield_bind
        · exact covered.trans (Set.subset_union_left (t := ∅))
        · exact cursorLeft ∅ (Set.empty_subset _)
        · exact ⟨rfl, records⟩
        · split
          · exact Reads.pure subset_rfl ⟨state.proven, rfl, rfl⟩
          · rw [if_pos ends]
            exact Reads.pure subset_rfl ⟨state.proven, rfl, rfl⟩
      · apply Reads.yield_bind covered
        · exact cursorLeft _ (guild.rowsBefore_subset threadId next)
        · exact ⟨rfl, records⟩
        · rw [following]
          simp only [goes, Bool.false_eq_true, if_false]
          exact @ih state.proven next (less.le.trans inside) (by omega)

/-! ## Threads -/

theorem rowsIn_cons (id : String) (ids : List String) :
    guild.rowsIn window (id :: ids) =
      rowsOf channelId window (guild.messages id) ∪ guild.rowsIn window ids := by
  ext row
  constructor
  · rintro ⟨other, member, read⟩
    rcases List.mem_cons.mp member with rfl | later
    · exact .inl read
    · exact .inr ⟨other, later, read⟩
  · rintro (read | ⟨other, member, read⟩)
    · exact ⟨id, List.mem_cons_self, read⟩
    · exact ⟨other, List.mem_cons_of_mem _ member, read⟩

theorem rowsIn_mono {ids more : List String} (fewer : ∀ id ∈ ids, id ∈ more) :
    guild.rowsIn window ids ⊆ guild.rowsIn window more := by
  rintro row ⟨id, member, read⟩
  exact ⟨id, fewer id member, read⟩

/-- More steps than any place has messages. -/
def Enough (guild : Guild channelId) (fuel : Nat) : Prop :=
  (∀ id ∈ guild.places, (guild.messages id).length < fuel) ∧ guild.archivedThreads.length < fuel

/-- Threads that a cursor leaves are read one after another under it. -/
theorem reads_threads {fuel : Nat} (enough : guild.Enough fuel) {cursor : DiscordResourceCursor}
    {threads : List DiscordCrawlableThread} (places : ∀ thread ∈ threads, thread.id ∈ guild.places)
    (listed : guild.rowsIn window (threads.map (·.id)) ⊆ guild.leftOf window cursor)
    {state : CrawlState} :
    Reads (fun operation => Guild.answer operation guild) (guild.ledger window cursorText)
      (guild.Under window cursorText cursor) (guild.rowsIn window (threads.map (·.id))) ∅
      (Unharmed state.partialReasons)
      (crawlThreads cursorText channelId window fuel cursor threads state) := by
  induction threads generalizing state with
  | nil =>
      refine Reads.pure ?_ ⟨state, rfl, rfl⟩
      rintro row ⟨id, member, _⟩
      cases member
  | cons thread rest ih =>
      have place := places thread List.mem_cons_self
      rw [List.map_cons, rowsIn_cons] at listed ⊢
      have own := Set.subset_union_left.trans listed
      have others := Set.subset_union_right.trans listed
      have walk := @reads_threadMessages channelId guild window cursorText thread.id place cursor
        own fuel state (finishSnowflake window) le_rfl
        ((List.length_filter_le _ _).trans_lt (enough.1 _ place))
      have started := walk.weaken (guild.rowsOf_subset_rowsBefore thread.id) subset_rfl
      have framed := started.frame fun batch under => under.left ▸ others
      rw [crawlThreads, snowflakeForTimestamp_finish]
      apply framed.bind
      rintro _ ⟨after, rfl, same⟩
      rw [Set.empty_union, ← same]
      exact ih (fun other member => places other (List.mem_cons_of_mem _ member)) others

/-! ## Listings of archived threads -/

theorem foldl_oldest (times : List Int) (first : Int) :
    ∃ oldest ∈ first :: times, times.foldl (fun oldest archived => match oldest with
      | none => some archived
      | some earlier => if archiveMs archived < archiveMs earlier then some archived
          else some earlier) (some first) = some oldest := by
  induction times generalizing first with
  | nil => exact ⟨first, List.mem_cons_self, rfl⟩
  | cons second rest ih =>
      by_cases earlier : archiveMs second < archiveMs first
      · simp only [List.foldl_cons, if_pos earlier]
        rcases ih second with ⟨oldest, member, found⟩
        exact ⟨oldest, List.mem_cons_of_mem _ member, found⟩
      · simp only [List.foldl_cons, if_neg earlier]
        rcases ih first with ⟨oldest, member, found⟩
        refine ⟨oldest, ?_, found⟩
        rcases List.mem_cons.mp member with rfl | later
        · exact List.mem_cons_self
        · exact List.mem_cons_of_mem _ (List.mem_cons_of_mem _ later)

/-- The oldest archive time is one of the listing. -/
theorem oldestArchive_cases (threads : List DiscordCrawlableThread) :
    (oldestArchive threads = none ∧ threads.filterMap (·.archiveTimestamp) = []) ∨
      ∃ oldest ∈ threads.filterMap (·.archiveTimestamp), oldestArchive threads = some oldest := by
  rw [oldestArchive]
  cases threads.filterMap (·.archiveTimestamp) with
  | nil => exact .inl ⟨rfl, rfl⟩
  | cons first rest => exact .inr (foldl_oldest rest first)

section Listing

variable (collation : Collation)

/-- The threads of one listing, as they are walked. -/
def listed (guild : Guild channelId) (before : Option Int) : List DiscordCrawlableThread :=
  toCrawlableThreads collation
    (((guild.archivedBefore before).take archivedThreadsPageLimit).map (·.raw)) channelId

variable {collation} {before : Option Int}

theorem mem_listed {thread : DiscordCrawlableThread} :
    thread ∈ guild.listed collation before ↔
      ∃ archived ∈ (guild.archivedBefore before).take archivedThreadsPageLimit,
        thread = ⟨archived.id, some archived.archivedAt⟩ := by
  rw [listed, toCrawlableThreads, RowOrder.mem_orderBy, List.filterMap_map]
  have same : ((fun raw => toCrawlableThread channelId raw) ∘ fun archived :
      ArchivedThread channelId => archived.raw) =
      fun archived => some ⟨archived.id, some archived.archivedAt⟩ :=
    funext fun archived => archived.crawlable
  rw [same, List.filterMap_eq_map', List.mem_map]
  simp only [eq_comm]

/-- A thread that was archived before the window has no rows in it. -/
theorem rowsOf_of_early {thread : ArchivedThread channelId}
    (archived : thread ∈ guild.archivedThreads)
    (early : archiveMs thread.archivedAt < window.start) :
    rowsOf channelId window (guild.messages thread.id) ⊆ ∅ := by
  rintro row ⟨message, member, within, _⟩
  have young := ((within_iff message).mp within).1
  have quiet := guild.quiet thread archived message member
  rw [archiveMs] at early
  omega

theorem mem_archivedThreads {thread : ArchivedThread channelId}
    (member : thread ∈ guild.archivedBefore before) : thread ∈ guild.archivedThreads :=
  (List.mem_filter.mp member).1

/-- The threads of a listing that are walked have all its rows. -/
theorem rowsIn_take_subset :
    guild.rowsIn window
        (((guild.archivedBefore before).take archivedThreadsPageLimit).map (·.id)) ⊆
      guild.rowsIn window
        (((guild.listed collation before).filter (mayHaveMessages window)).map (·.id)) := by
  rintro row ⟨id, member, read⟩
  rcases List.mem_map.mp member with ⟨thread, shown, rfl⟩
  have archived := mem_archivedThreads (List.mem_of_mem_take shown)
  by_cases early : archiveMs thread.archivedAt < window.start
  · exact absurd (rowsOf_of_early archived early read) (Set.notMem_empty row)
  · refine ⟨thread.id, List.mem_map.mpr ⟨⟨thread.id, some thread.archivedAt⟩, ?_, rfl⟩, read⟩
    apply List.mem_filter.mpr
    exact ⟨mem_listed.mpr ⟨thread, shown, rfl⟩, decide_eq_true (Int.not_lt.mp early)⟩

theorem archiveTime_of_shown {thread : ArchivedThread channelId}
    (shown : thread ∈ (guild.archivedBefore before).take archivedThreadsPageLimit) :
    thread.archivedAt ∈ (guild.listed collation before).filterMap (·.archiveTimestamp) :=
  List.mem_filterMap.mpr ⟨_, mem_listed.mpr ⟨thread, shown, rfl⟩, rfl⟩

theorem shown_of_archiveTime {archivedAt : Int}
    (member : archivedAt ∈ (guild.listed collation before).filterMap (·.archiveTimestamp)) :
    ∃ thread ∈ (guild.archivedBefore before).take archivedThreadsPageLimit,
      thread.archivedAt = archivedAt := by
  rcases List.mem_filterMap.mp member with ⟨thread, listed, time⟩
  rcases mem_listed.mp listed with ⟨archived, shown, rfl⟩
  exact ⟨archived, shown, Option.some.inj time⟩

/-- Threads after a listing were archived before those that it shows. -/
theorem earlier_of_drop {shown later : ArchivedThread channelId}
    (first : shown ∈ (guild.archivedBefore before).take archivedThreadsPageLimit)
    (member : later ∈ (guild.archivedBefore before).drop archivedThreadsPageLimit) :
    later.archivedAt < shown.archivedAt := by
  have ordered : (guild.archivedBefore before).Pairwise fun later earlier =>
      earlier.archivedAt < later.archivedAt :=
    guild.lastArchivedFirst.sublist List.filter_sublist
  rw [← List.take_append_drop archivedThreadsPageLimit (guild.archivedBefore before)] at ordered
  exact (List.pairwise_append.mp ordered).2.2 shown first later member

theorem archivedBefore_some {thread : ArchivedThread channelId}
    (member : thread ∈ guild.archivedBefore before) :
    guild.archivedBefore (some thread.archivedAt) =
      (guild.archivedBefore before).filter (·.archivedAt < thread.archivedAt) := by
  have own := (List.mem_filter.mp member).2
  rw [archivedBefore, archivedBefore, List.filter_filter]
  apply List.filter_congr
  intro other _
  rw [Option.all_some, eq_comm, Bool.and_eq_left_iff_imp]
  intro earlier
  rw [Option.all_eq_true] at own ⊢
  intro time same
  exact decide_eq_true ((of_decide_eq_true earlier).trans (of_decide_eq_true (own time same)))

/-- The walk ends after a listing. -/
def LastListing (window : CommunityFetchWindow) (collation : Collation) (guild : Guild channelId)
    (before : Option Int) : Prop :=
  let oldest := oldestArchive (guild.listed collation before)
  ¬(decide (archivedThreadsPageLimit < (guild.archivedBefore before).length)) = true ∨
    (oldest.any fun archived => decide (archiveMs archived < window.start)) = true ∨
    (oldest = none ∨ oldest = before)

/-- Nothing is left after the last listing. -/
theorem left_of_last (last : guild.LastListing window collation before) :
    guild.rowsIn window
      (((guild.archivedBefore before).drop archivedThreadsPageLimit).map (·.id)) ⊆ ∅ := by
  rintro row ⟨id, member, read⟩
  rcases List.mem_map.mp member with ⟨thread, later, rfl⟩
  have archived := mem_archivedThreads (List.mem_of_mem_drop later)
  have more : archivedThreadsPageLimit < (guild.archivedBefore before).length :=
    Nat.lt_of_not_le fun short => by
      rw [List.drop_of_length_le short] at later
      cases later
  rcases oldestArchive_cases (guild.listed collation before) with
    ⟨_, empty⟩ | ⟨oldest, member, found⟩
  · rcases List.exists_mem_of_ne_nil ((guild.archivedBefore before).take archivedThreadsPageLimit)
      (List.ne_nil_of_length_pos (by rw [List.length_take_of_le more.le]; decide)) with
      ⟨shown, first⟩
    have time := @archiveTime_of_shown channelId guild collation before shown first
    rw [empty] at time
    cases time
  · rcases shown_of_archiveTime member with ⟨shown, first, rfl⟩
    rw [LastListing, found, Option.any_some] at last
    rcases last with noMore | past | none | stuck
    · exact absurd (decide_eq_true more) noMore
    · have earlier := earlier_of_drop first later
      have early : archiveMs thread.archivedAt < window.start := by
        have shownEarly := of_decide_eq_true past
        rw [archiveMs] at shownEarly ⊢
        omega
      exact rowsOf_of_early archived early read
    · cases none
    · have own := (List.mem_filter.mp (List.mem_of_mem_take first)).2
      rw [← stuck, Option.all_some] at own
      exact absurd (of_decide_eq_true own) (Int.lt_irrefl _)

/-- What is left after another listing is before the next archive time. -/
theorem next_of_not_last (goes : ¬guild.LastListing window collation before) :
    ∃ next, oldestArchive (guild.listed collation before) = some next ∧
      (guild.archivedBefore (some next)).length < (guild.archivedBefore before).length ∧
      guild.rowsIn window
        (((guild.archivedBefore before).drop archivedThreadsPageLimit).map (·.id)) ⊆
          guild.rowsIn window ((guild.archivedBefore (some next)).map (·.id)) := by
  rcases oldestArchive_cases (guild.listed collation before) with
    ⟨none, _⟩ | ⟨oldest, member, found⟩
  · exact absurd (.inr (.inr (.inl none))) goes
  · rcases shown_of_archiveTime member with ⟨shown, first, rfl⟩
    have own := List.mem_of_mem_take first
    refine ⟨shown.archivedAt, found, ?_, ?_⟩
    · rw [archivedBefore_some own]
      exact List.length_filter_lt_length_iff_exists.mpr ⟨shown, own, by simp⟩
    · apply rowsIn_mono
      intro id listed
      rcases List.mem_map.mp listed with ⟨thread, later, rfl⟩
      apply List.mem_map.mpr
      refine ⟨thread, ?_, rfl⟩
      rw [archivedBefore_some own]
      exact List.mem_filter.mpr ⟨List.mem_of_mem_drop later,
        decide_eq_true (earlier_of_drop first later)⟩

end Listing

/-! ## The phases -/

/-- A cursor that the crawl hands out. -/
structure Sound (window : CommunityFetchWindow) (cursor : DiscordResourceCursor) : Prop where
  own : cursor.phase = .messages → cursor.archivedBefore = none
  before : ∃ before ≤ finishSnowflake window,
    cursor.before.getD (snowflakeForTimestamp window.finish) = toString before

/-- A batch under a sound cursor, with rows of the window. -/
def Proper (guild : Guild channelId) (window : CommunityFetchWindow)
    (cursorText : CursorText DiscordResourceCursor) (batch : CommunityRecordBatch) : Prop :=
  ∃ cursor, Sound window cursor ∧ guild.Under window cursorText cursor batch

theorem Under.proper {cursor : DiscordResourceCursor} {batch : CommunityRecordBatch}
    (under : guild.Under window cursorText cursor batch) (sound : Sound window cursor) :
    guild.Proper window cursorText batch :=
  ⟨cursor, sound, under⟩

theorem sound_threads (archivedBefore : Option Int) :
    Sound window { phase := .threads, archivedBefore } where
  own impossible := by cases impossible
  before := ⟨finishSnowflake window, le_rfl, rfl⟩

/-- Active threads are walked in the order of their ids. -/
theorem mem_activePublic {collation : Collation} {id : String} :
    id ∈ guild.activePublic ↔
      id ∈ (toCrawlableThreads collation guild.activeThreads channelId).map (·.id) := by
  rw [activePublic, List.mem_map, List.mem_map]
  simp only [toCrawlableThreads, RowOrder.mem_orderBy]

section Phases

variable {collation : Collation} {fuel : Nat} (enough : guild.Enough fuel)

include enough

/-- The archived threads from an archive time on are read. -/
theorem reads_archivedThreads {steps : Nat} {state : CrawlState} {before : Option Int}
    (further : (guild.archivedBefore before).length < steps) :
    Reads (fun operation => Guild.answer operation guild) (guild.ledger window cursorText)
      (guild.Proper window cursorText)
      (guild.rowsIn window ((guild.archivedBefore before).map (·.id))) ∅
      (Unharmed state.partialReasons)
      (crawlArchivedThreads collation cursorText channelId window fuel steps state before) := by
  induction steps generalizing state before with
  | zero => exact absurd further (Nat.not_lt_zero _)
  | succ steps ih =>
      have walked := @rowsIn_take_subset channelId guild window collation before
      have shown : ∀ thread ∈ (guild.listed collation before).filter (mayHaveMessages window),
          ∃ archived ∈ guild.archivedBefore before, archived.id = thread.id := by
        intro thread member
        rcases mem_listed.mp (List.mem_filter.mp member).1 with ⟨archived, first, rfl⟩
        exact ⟨archived, List.mem_of_mem_take first, rfl⟩
      have left : guild.rowsIn window
          ((guild.archivedBefore before).map (·.id)) ⊆
            guild.leftOf window { phase := .threads, archivedBefore := before } :=
        rowsIn_mono fun id member => List.mem_append_right _ member
      have walk := @reads_threads channelId guild window cursorText fuel enough
        { phase := .threads, archivedBefore := before }
        ((guild.listed collation before).filter (mayHaveMessages window)) (by
          intro thread member
          rcases shown thread member with ⟨archived, listed, same⟩
          rw [← same]
          apply List.mem_cons_of_mem
          exact List.mem_append_right _ (List.mem_map_of_mem (mem_archivedThreads listed)))
        (by
          apply Set.Subset.trans (rowsIn_mono ?_) left
          intro id member
          rcases List.mem_map.mp member with ⟨thread, listed, rfl⟩
          rcases shown thread listed with ⟨archived, stored, same⟩
          exact List.mem_map.mpr ⟨archived, stored, same⟩) state.proven
      have rest : guild.rowsIn window
          (((guild.archivedBefore before).drop archivedThreadsPageLimit).map (·.id)) ⊆
            guild.leftOf window { phase := .threads, archivedBefore := before } := by
        apply Set.Subset.trans (rowsIn_mono ?_) left
        intro id member
        exact (List.drop_sublist _ _).map _ |>.subset member
      have framed := (walk.frame fun batch under => under.left ▸ rest).fine_mono
        fun batch under => under.proper (sound_threads before)
      have owed : guild.rowsIn window ((guild.archivedBefore before).map (·.id)) ⊆
          guild.rowsIn window
            (((guild.listed collation before).filter (mayHaveMessages window)).map (·.id)) ∪
          guild.rowsIn window
            (((guild.archivedBefore before).drop archivedThreadsPageLimit).map (·.id)) := by
        rintro row ⟨id, member, read⟩
        rw [← List.take_append_drop archivedThreadsPageLimit (guild.archivedBefore before),
          List.map_append] at member
        rcases List.mem_append.mp member with first | later
        · exact .inl (walked ⟨id, first, read⟩)
        · exact .inr ⟨id, later, read⟩
      rw [crawlArchivedThreads]
      apply Reads.request_bind
      apply Reads.bind (framed.weaken owed subset_rfl)
      rintro _ ⟨after, rfl, same⟩
      rw [Set.empty_union]
      have nothing (cursor : DiscordResourceCursor) (sound : Sound window cursor) :
          guild.Proper window cursorText ⟨[], cursorText.stringify cursor⟩ :=
        ⟨cursor, sound, rfl, fun _ member => absurd member List.not_mem_nil⟩
      by_cases last : guild.LastListing window collation before
      · apply Reads.yield_bind
        · exact (left_of_last last).trans (Set.empty_subset _)
        · exact Set.empty_subset _
        · exact nothing _ (sound_threads _)
        · split
          case isTrue => exact Reads.pure subset_rfl ⟨after, rfl, same⟩
          case isFalse goes => exact absurd last goes
      · rcases next_of_not_last last with ⟨next, found, fewer, covered⟩
        have following : (oldestArchive (guild.listed collation before)).or before = some next := by
          rw [found, Option.some_or]
        apply Reads.yield_bind
        · exact covered.trans Set.subset_union_right
        · change _ ⊆ (guild.ledger window cursorText).left (some (cursorText.stringify
            { phase := .threads
              archivedBefore := (oldestArchive (guild.listed collation before)).or before }))
          rw [ledger_left, following]
          exact rowsIn_mono fun id member => List.mem_append_right _ member
        · exact nothing _ (sound_threads _)
        · split
          case isTrue ends => exact absurd ends last
          case isFalse =>
              change Reads _ _ _ _ _ _ (crawlArchivedThreads collation cursorText channelId window
                fuel steps after ((oldestArchive (guild.listed collation before)).or before))
              have reasons : after.partialReasons = state.partialReasons := same
              rw [following, ← reasons]
              exact ih (by omega)

/-- A crawl that is complete. -/
def Complete (channelId : String) (ended : Except CommunityApiError CommunityResourceCoverage) :
    Prop :=
  ended = .ok (coverage channelId .complete none)

theorem reads_toFinish {before : Option Int} {state : CrawlState}
    (clean : state.partialReasons = []) :
    Reads (fun operation => Guild.answer operation guild) (guild.ledger window cursorText)
      (guild.Proper window cursorText)
      (guild.rowsIn window ((guild.archivedBefore before).map (·.id))) ∅ (Complete channelId)
      (crawlArchivedThreads collation cursorText channelId window fuel fuel state before >>=
        fun walked => match walked with
          | Except.error error => pure (Except.error error)
          | Except.ok state => pure (Except.ok (finish channelId state))) := by
  apply Reads.bind (reads_archivedThreads enough ((List.length_filter_le _ _).trans_lt enough.2))
  rintro _ ⟨ended, rfl, same⟩
  apply Reads.pure subset_rfl
  rw [Complete, finish, if_pos (same.trans clean)]

/-- The threads that a cursor leaves are read, and the crawl is complete. -/
theorem reads_threadPhase {guildId : String} {cursor : DiscordResourceCursor} {state : CrawlState}
    (clean : state.partialReasons = []) :
    Reads (fun operation => Guild.answer operation guild) (guild.ledger window cursorText)
      (guild.Proper window cursorText) (guild.threadsLeft window cursor.archivedBefore) ∅
      (Complete channelId)
      (crawlThreadPhase collation cursorText channelId window fuel guildId cursor state) := by
  rw [crawlThreadPhase, threadsLeft]
  split
  case isTrue begun =>
      rw [List.nil_append]
      exact reads_toFinish enough clean
  case isFalse first =>
      have fresh : cursor.archivedBefore = none := Option.not_isSome_iff_eq_none.mp first
      rw [fresh]
      have active (id : String)
          (member : id ∈ (toCrawlableThreads collation guild.activeThreads channelId).map (·.id)) :
          id ∈ guild.activePublic :=
        mem_activePublic.mpr member
      have left : guild.rowsIn window
          (guild.activePublic ++ (guild.archivedBefore none).map (·.id)) ⊆
            guild.leftOf window { phase := .threads } :=
        subset_rfl
      have walk := @reads_threads channelId guild window cursorText fuel enough
        { phase := .threads } (toCrawlableThreads collation guild.activeThreads channelId)
        (fun thread member => List.mem_cons_of_mem _
          (List.mem_append_left _ (active _ (List.mem_map_of_mem member))))
        ((rowsIn_mono fun id member => List.mem_append_left _ (active id member)).trans left) state
      have rest : guild.rowsIn window ((guild.archivedBefore none).map (·.id)) ⊆
          guild.leftOf window { phase := .threads } :=
        (rowsIn_mono fun id member => List.mem_append_right _ member).trans left
      have framed := (walk.frame fun batch under => under.left ▸ rest).fine_mono
        fun batch under => under.proper (sound_threads none)
      have owed : guild.rowsIn window
          (guild.activePublic ++ (guild.archivedBefore none).map (·.id)) ⊆
          guild.rowsIn window
            ((toCrawlableThreads collation guild.activeThreads channelId).map (·.id)) ∪
          guild.rowsIn window ((guild.archivedBefore none).map (·.id)) := by
        rintro row ⟨id, member, read⟩
        rcases List.mem_append.mp member with early | late
        · exact .inl ⟨id, mem_activePublic.mp early, read⟩
        · exact .inr ⟨id, late, read⟩
      apply Reads.request_bind
      apply Reads.bind (framed.weaken owed subset_rfl)
      rintro _ ⟨after, rfl, same⟩
      rw [Set.empty_union]
      exact reads_toFinish enough (same.trans clean)

/-- A batch of the channel's own messages, from which all threads are left. -/
def Own (guild : Guild channelId) (window : CommunityFetchWindow)
    (cursorText : CursorText DiscordResourceCursor) (batch : CommunityRecordBatch) : Prop :=
  ∃ cursor, Sound window cursor ∧ cursor.archivedBefore = none ∧
    guild.Under window cursorText cursor batch

omit enough in
theorem sound_messages {before : Nat} (inside : before ≤ finishSnowflake window) :
    Sound window { phase := .messages, before := some (toString before) } where
  own _ := rfl
  before := ⟨before, inside, rfl⟩

omit enough in
/-- The channel's own messages are read page by page. -/
theorem reads_channelMessages {steps : Nat} {state : CrawlState} {before : Nat}
    (inside : before ≤ finishSnowflake window)
    (further : (guild.messagesBefore channelId before).length < steps) :
    Reads (fun operation => Guild.answer operation guild) (guild.ledger window cursorText)
      (guild.Own window cursorText) (guild.rowsBefore window channelId before) ∅
      (fun ended => ∃ after : CrawlState, ended = .ok (.inr after) ∧
        after.partialReasons = state.partialReasons)
      (crawlChannelMessages cursorText channelId window steps state (toString before)) := by
  induction steps generalizing state before with
  | zero => exact absurd further (Nat.not_lt_zero _)
  | succ steps ih =>
      have place : channelId ∈ guild.places := List.mem_cons_self
      have records := fun row => @mem_windowRows_of_page _ guild window channelId place before
        inside row
      have answered : (Guild.answer (.messages channelId (toString before)) guild :
          Except CommunityApiError (List DiscordRawMessage)) =
          .ok (((guild.messagesBefore channelId before).take messagesPageLimit).map (·.raw)) := by
        rw [Guild.answer, snowflakeOf_toString]
      rw [crawlChannelMessages]
      apply Reads.request_bind
      rw [answered]
      have covers := @page_cases channelId guild window channelId before
      rw [pageOf] at covers
      dsimp only
      rcases covers with ⟨ends, covered⟩ | ⟨goes, next, following, less, fewer, covered⟩
      · rw [if_pos ends]
        apply Reads.yield_bind
        · exact covered.trans (Set.subset_union_left (t := ∅))
        · exact Set.empty_subset _
        · exact ⟨_, sound_threads none, rfl, rfl, records⟩
        · exact Reads.pure subset_rfl ⟨state.proven, rfl, rfl⟩
      · have earlier := less.le.trans inside
        rw [if_neg (Bool.eq_false_iff.mp goes), following]
        apply Reads.yield_bind covered
        · change _ ⊆ (guild.ledger window cursorText).left
            (some (cursorText.stringify { phase := .messages, before := some (toString next) }))
          rw [ledger_left]
          intro row read
          left
          rw [startOf, Option.getD_some, snowflakeOf_toString]
          exact read
        · exact ⟨_, sound_messages earlier, rfl, rfl, records⟩
        · exact @ih state.proven next earlier (by omega)

/-- What a sound cursor leaves is read, and the crawl is complete. -/
theorem reads_phases {cursor : DiscordResourceCursor} (sound : Sound window cursor)
    {state : CrawlState} (clean : state.partialReasons = []) :
    Reads (fun operation => Guild.answer operation guild) (guild.ledger window cursorText)
      (guild.Proper window cursorText) (guild.leftOf window cursor) ∅ (Complete channelId)
      (crawlPhases collation cursorText channelId window fuel guild.channelMeta cursor state) := by
  rw [crawlPhases]
  split
  case isTrue own =>
      rcases sound.before with ⟨before, inside, start⟩
      have fresh := sound.own own.1
      have walk := @reads_channelMessages channelId guild window cursorText fuel state
        before inside ((List.length_filter_le _ _).trans_lt (enough.1 _ List.mem_cons_self))
      have rest (batch : CommunityRecordBatch) (sent : guild.Own window cursorText batch) :
          guild.threadsLeft window none ⊆ (guild.ledger window cursorText).left
            (some ((guild.ledger window cursorText).cursor batch)) := by
        rcases sent with ⟨other, _, same, under⟩
        rw [under.left, leftOf, same]
        split
        · exact Set.subset_union_right
        · exact subset_rfl
      have proper (batch : CommunityRecordBatch) (sent : guild.Own window cursorText batch) :
          guild.Proper window cursorText batch := by
        rcases sent with ⟨other, fine, _, under⟩
        exact under.proper fine
      have owed : guild.leftOf window cursor =
          guild.rowsBefore window channelId before ∪ guild.threadsLeft window none := by
        rw [leftOf, own.1, startOf, start, snowflakeOf_toString, fresh]
      rw [owed, start]
      apply Reads.bind ((walk.frame rest).fine_mono proper)
      rintro _ ⟨after, rfl, same⟩
      rw [Set.empty_union, ← fresh]
      exact reads_threadPhase enough (same.trans clean)
  case isFalse past =>
      have left : guild.leftOf window cursor ⊆ guild.threadsLeft window cursor.archivedBefore := by
        rw [leftOf]
        split
        case h_1 messages =>
            have forum : guild.channelMeta.kind = .forum :=
              Decidable.not_not.mp fun kind => past ⟨messages, kind⟩
            rintro row (own | later)
            · rcases own with ⟨message, member, _⟩
              rw [messagesBefore, guild.forum forum] at member
              cases member
            · exact later
        case h_2 => exact subset_rfl
      exact (reads_threadPhase enough clean).weaken left subset_rfl

/-- Every attempt reads what its cursor leaves. -/
theorem readsLeft_iterateRecords (collation : Collation) :
    ReadsLeft (guild.ledger window cursorText) Guild.answer (guild.Proper window cursorText)
      (Complete channelId) guild
      fun cursor => iterateRecords collation cursorText fuel ⟨channelId, window, cursor⟩ := by
  intro cursor handed
  have sound : Sound window (parseCursor cursorText cursor) := by
    cases cursor with
    | none => exact ⟨fun _ => rfl, finishSnowflake window, le_rfl, rfl⟩
    | some text =>
        rcases handed text rfl with ⟨batch, ⟨other, fine, under⟩, same⟩
        have written : cursorText.stringify other = text := under.cursor.symm.trans same
        rw [← written]
        change Sound window ((cursorText.parse (cursorText.stringify other)).getD _)
        rw [cursorText.parse_stringify]
        exact fine
  beta_reduce
  rw [iterateRecords]
  apply Reads.request_bind
  dsimp only [Guild.answer]
  rw [guild.supported]
  exact reads_phases enough sound rfl

end Phases

end Guild

end Discord

end Reputo.Community

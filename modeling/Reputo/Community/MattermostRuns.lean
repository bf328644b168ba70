import Reputo.Community.MattermostWalk

/-!
# Crawling a channel in use

On a sound channel a crawl yields exactly what was said before the end of the window, whenever
it runs, unless it is served a late reply to a post in the window.
-/

namespace Reputo.Community

open Reputo.Library

namespace Mattermost

/-! ## What the walk has still to read -/

section Owed

variable (resourceId : String) (window : CommunityFetchWindow) (account : String → Option Bool)

/-- The plain rows of a post from before the end of the window were kept, or it is left. -/
def Owed (platform : Channel) (kept : List CommunityActivityRecord) (left : String → Prop) :
    Prop :=
  ∀ entry ∈ platform.entries, entry.createdMs < window.finish →
    (∀ row ∈ (platform.entryRecords (flagOf account) resourceId window entry).filter
      (!isReaction ·), row ∈ kept) ∨ left entry.id

/-- An entry that follows a post. -/
def Followed (platform : Channel) (before : Option String) (id : String) : Prop :=
  ∃ rest, platform.followers before = some rest ∧ id ∈ rest.map (·.id)

variable {resourceId window account}
variable {platform after : Channel} {kept : List CommunityActivityRecord}

theorem Owed.change {event : ChannelEvent} {before : Option String} (sound : platform.Sound)
    (keeps : event.KeepsWindow window platform)
    (happened : Channel.happen event platform = some after)
    (owed : Owed resourceId window account platform kept (Followed platform before)) :
    Owed resourceId window account after kept (Followed after before) := by
  intro entry member early
  rcases (shownIn_of_happen sound keeps happened).2 entry member early
    with ⟨same, sameMember, sameId, created, scored, root⟩
  rw [plain_entryRecords, ← scored, ← root, ← plain_entryRecords, ← sameId]
  rcases owed same sameMember (created ▸ early) with all | ⟨rest, followed, listed⟩
  · exact Or.inl all
  · rcases Channel.followers_of_happen happened followed with ⟨later, followedLater, stays, _⟩
    exact Or.inr ⟨later, followedLater, stays _ listed⟩

theorem Owed.mono {more : List CommunityActivityRecord} {left : String → Prop}
    (owed : Owed resourceId window account platform kept left)
    (subset : ∀ row ∈ kept, row ∈ more) : Owed resourceId window account platform more left := by
  intro entry member early
  rcases owed entry member early with all | later
  · exact Or.inl fun row derived => subset row (all row derived)
  · exact Or.inr later

/-- At the front everything is left. -/
theorem owed_begin (platform : Channel) (kept : List CommunityActivityRecord) :
    Owed resourceId window account platform kept (Followed platform none) :=
  fun _ member _ => Or.inr ⟨platform.entries, rfl, List.mem_map_of_mem member⟩

theorem filterMap_post_length {entries : List ChannelEntry}
    (sound : ∀ entry ∈ entries, entry.Sound) :
    (entries.filterMap (·.post)).length = entries.length := by
  induction entries with
  | nil => rfl
  | cons entry rest ih =>
      rcases sound entry List.mem_cons_self with ⟨raw, own, _⟩
      rw [List.filterMap_cons_some own, List.length_cons, List.length_cons,
        ih fun later member => sound later (List.mem_cons_of_mem _ member)]

/-- What stands behind a page follows its oldest post, and is older than the window where the
walk ends. -/
theorem behind_page (window : CommunityFetchWindow) {before : Option String} {entries : List ChannelEntry}
    (sound : platform.Sound) (followed : platform.followers before = some entries)
    {entry : ChannelEntry} (member : entry ∈ entries.drop MATTERMOST_POSTS_PER_PAGE) :
    Followed platform (nextCursor ⟨before⟩ (toMattermostPostPage
        (platform.payload (entries.take MATTERMOST_POSTS_PER_PAGE)))).before entry.id ∧
      (walkEnds window ⟨before⟩ (toMattermostPostPage
        (platform.payload (entries.take MATTERMOST_POSTS_PER_PAGE))) = true →
        entry.createdMs < window.start) := by
  have within (other : ChannelEntry)
      (listed : other ∈ entries.take MATTERMOST_POSTS_PER_PAGE) : other ∈ platform.entries :=
    mem_entries_of_followers followed (List.mem_of_mem_take listed)
  have posts := Channel.payload_posts within
  have full : (entries.take MATTERMOST_POSTS_PER_PAGE).length = MATTERMOST_POSTS_PER_PAGE := by
    have beyond := List.length_pos_of_mem member
    rw [List.length_drop] at beyond
    rw [List.length_take]
    omega
  have length : (toMattermostPostPage (platform.payload
      (entries.take MATTERMOST_POSTS_PER_PAGE))).posts.length = MATTERMOST_POSTS_PER_PAGE := by
    rw [posts, filterMap_post_length fun other listed => sound.posts other (within other listed),
      full]
  have some_oldest : oldestPost (toMattermostPostPage (platform.payload
      (entries.take MATTERMOST_POSTS_PER_PAGE))).posts ≠ none := by
    cases page : entries.take MATTERMOST_POSTS_PER_PAGE with
    | nil =>
        rw [page] at full
        cases full
    | cons first rest =>
        rw [page] at posts within
        rcases sound.posts first (within first List.mem_cons_self) with ⟨raw, own, named, dated⟩
        rw [posts, List.filterMap_cons_some own]
        have found : datedPost raw = some ⟨first.id, first.createdMs⟩ := by
          simp only [datedPost, named, dated]
        exact oldestPost_ne_none found
  cases chosen : oldestPost (toMattermostPostPage (platform.payload
      (entries.take MATTERMOST_POSTS_PER_PAGE))).posts with
  | none => exact absurd chosen some_oldest
  | some oldest =>
      rcases exists_of_oldest within chosen with ⟨found, listed, raw, own, named, dated⟩
      rcases sound.posts found (within found listed) with ⟨same, sameOwn, foundNamed, foundDated⟩
      rw [own] at sameOwn
      cases sameOwn
      have id : oldest.id = found.id := Option.some.inj (named.symm.trans foundNamed)
      have created : oldest.createdMs = found.createdMs :=
        Option.some.inj (dated.symm.trans foundDated)
      rcases List.append_of_mem listed with ⟨front, rest, split⟩
      have whole : entries = front ++ found :: (rest ++ entries.drop MATTERMOST_POSTS_PER_PAGE) := by
        rw [← List.cons_append, ← List.append_assoc, ← split, List.take_append_drop]
      have behind := Channel.followers_of_split followed whole
      have later : entry ∈ rest ++ entries.drop MATTERMOST_POSTS_PER_PAGE :=
        List.mem_append_right _ member
      rw [nextCursor, chosen, walkEnds, chosen]
      simp only
      constructor
      · rw [id]
        exact ⟨_, behind, List.mem_map_of_mem later⟩
      · intro ends
        rcases Channel.split_of_followers followed with ⟨first, all, apart⟩
        have older : entry.createdMs ≤ found.createdMs := by
          have ordered := sound.ordered
          rw [all, whole] at ordered
          have behindFound := (List.pairwise_append.mp (List.pairwise_append.mp ordered).2.1).2.1
          exact (List.pairwise_cons.mp behindFound).1 entry later
        have other : some oldest.id ≠ before := by
          intro same
          apply apart oldest.id same.symm
          rw [id]
          exact List.mem_map_of_mem (List.mem_of_mem_take listed)
        rw [length] at ends
        simp only [other, decide_false, Bool.or_false, Nat.lt_irrefl, decide_eq_true_iff] at ends
        omega

/-- After a page, what is left follows its oldest post, and nothing is left where the walk
ends. -/
theorem Owed.served {before : Option String} {entries : List ChannelEntry}
    (sound : platform.Sound) (followed : platform.followers before = some entries)
    (owed : Owed resourceId window account platform kept (Followed platform before)) :
    let payload := platform.payload (entries.take MATTERMOST_POSTS_PER_PAGE)
    let more := kept ++ servedRecords resourceId window account payload
    Owed resourceId window account platform more (Followed platform
        (nextCursor ⟨before⟩ (toMattermostPostPage payload)).before) ∧
      (walkEnds window ⟨before⟩ (toMattermostPostPage payload) = true →
        Owed resourceId window account platform more fun _ => False) := by
  have within (other : ChannelEntry)
      (listed : other ∈ entries.take MATTERMOST_POSTS_PER_PAGE) : other ∈ platform.entries :=
    mem_entries_of_followers followed (List.mem_of_mem_take listed)
  -- each entry was kept before, is on the page, or stands behind it
  have places (entry : ChannelEntry) (member : entry ∈ platform.entries)
      (early : entry.createdMs < window.finish) :
      (∀ row ∈ (platform.entryRecords (flagOf account) resourceId window entry).filter
        (!isReaction ·), row ∈ kept ++ servedRecords resourceId window account
          (platform.payload (entries.take MATTERMOST_POSTS_PER_PAGE))) ∨
        entry ∈ entries.drop MATTERMOST_POSTS_PER_PAGE := by
    rcases owed entry member early with all | ⟨rest, same, listed⟩
    · exact Or.inl fun row derived => List.mem_append_left _ (all row derived)
    · rw [followed] at same
      cases same
      rcases List.mem_map.mp listed with ⟨other, otherMember, sameId⟩
      have sameEntry := List.inj_on_of_nodup_map platform.nodup
        (mem_entries_of_followers followed otherMember) member sameId
      rw [sameEntry, ← List.take_append_drop MATTERMOST_POSTS_PER_PAGE entries,
        List.mem_append] at otherMember
      rcases otherMember with here | later
      · left
        intro row derived
        apply List.mem_append_right
        rw [servedRecords, mattermostPageRecords_payload within]
        exact List.mem_flatMap.mpr ⟨entry, here, (List.mem_filter.mp derived).1⟩
      · exact Or.inr later
  constructor
  · intro entry member early
    rcases places entry member early with all | later
    · exact Or.inl all
    · exact Or.inr (behind_page window sound followed later).1
  · intro ends entry member early
    rcases places entry member early with all | later
    · exact Or.inl all
    · left
      intro row derived
      rw [plain_entryRecords_of_early sound member
        ((behind_page window sound followed later).2 ends)] at derived
      exact absurd derived List.not_mem_nil

/-- A page without late replies says plainly what the channel has in the window. -/
theorem servedRecords_exact {channel : Channel} {entries : List ChannelEntry}
    {before : Option String} (followed : platform.followers before = some entries)
    (shown : platform.ShownIn window channel)
    (spared : ∀ entry ∈ entries.take MATTERMOST_POSTS_PER_PAGE,
      ¬platform.LateReply window entry) {row : CommunityActivityRecord}
    (member : row ∈ servedRecords resourceId window account
      (platform.payload (entries.take MATTERMOST_POSTS_PER_PAGE)))
    (plain : isReaction row = false) :
    row ∈ channel.windowRows (flagOf account) resourceId window := by
  have within (other : ChannelEntry)
      (listed : other ∈ entries.take MATTERMOST_POSTS_PER_PAGE) : other ∈ platform.entries :=
    mem_entries_of_followers followed (List.mem_of_mem_take listed)
  rw [servedRecords, mattermostPageRecords_payload within] at member
  rcases List.mem_flatMap.mp member with ⟨entry, listed, derived⟩
  apply shown.windowRows
  by_cases early : entry.createdMs < window.finish
  · rw [Channel.windowRows, List.mem_filter]
    refine ⟨List.mem_flatMap.mpr ⟨entry, ?_, derived⟩, by rw [plain]; rfl⟩
    exact List.mem_filter.mpr ⟨within entry listed, decide_eq_true early⟩
  · have plainRow : row ∈ (platform.entryRecords (flagOf account) resourceId window entry).filter
        (!isReaction ·) := List.mem_filter.mpr ⟨derived, by rw [plain]; rfl⟩
    rw [plain_entryRecords_of_late (Int.not_lt.mp early) (spared entry listed)] at plainRow
    exact absurd plainRow List.not_mem_nil

end Owed

/-! ## Runs -/

/-- One channel becomes another while posts from before the end of a window stay. -/
inductive Becomes (window : CommunityFetchWindow) (channel : Channel) : Channel → Prop
  | start : Becomes window channel channel
  | next {before after : Channel} {event : ChannelEvent} (earlier : Becomes window channel before)
      (keeps : event.KeepsWindow window before)
      (happened : Channel.happen event before = some after) : Becomes window channel after

section Reads

variable (cursorText : CursorText MattermostResourceCursor) (resourceId : String)
  (window : CommunityFetchWindow) (channel : Channel)

/-- The rows of the page that is to be yielded. -/
def pendingRecords (progress : WalkProgress) : List CommunityActivityRecord :=
  (progress.served.map (servedRecords resourceId window channel.account)).getD []

structure Reads (platform : Channel) (yielded : List CommunityRecordBatch)
    (progress : WalkProgress) : Prop where
  located : Located cursorText channel.account platform yielded progress
  sound : platform.Sound
  shown : channel.ShownIn window platform
  within : platform.ShownIn window channel
  owed : Owed resourceId window channel.account platform
    (keptRows yielded ++ pendingRecords resourceId window channel progress)
    (Followed platform progress.before)
  finished : progress.ended = true → Owed resourceId window channel.account platform
    (keptRows yielded ++ pendingRecords resourceId window channel progress) fun _ => False
  exact : ∀ row ∈ keptRows yielded ++ pendingRecords resourceId window channel progress,
    isReaction row = false → row ∈ channel.windowRows (flagOf channel.account) resourceId window
  resumable : ∀ (index : Nat) (batch : CommunityRecordBatch), yielded[index]? = some batch →
    ∀ cursor : MattermostResourceCursor, batch.cursor = cursorText.stringify cursor →
    Owed resourceId window channel.account platform (keptRows (yielded.take (index + 1)))
      (Followed platform cursor.before)

variable {cursorText resourceId window channel}
variable {platform after : Channel} {yielded : List CommunityRecordBatch}
  {progress : WalkProgress}

theorem reads_begin (sound : platform.Sound) (shown : channel.ShownIn window platform)
    (within : platform.ShownIn window channel) (same : platform.account = channel.account) :
    Reads cursorText resourceId window channel platform []
      (WalkProgress.begins cursorText none) where
  located := by
    rw [← same]
    exact located_begin platform
  sound := sound
  shown := shown
  within := within
  owed := owed_begin platform _
  finished ended := by cases ended
  exact _ none := absurd none List.not_mem_nil
  resumable _ _ none := by cases none

theorem Owed.change_finished {kept : List CommunityActivityRecord} {event : ChannelEvent}
    (sound : platform.Sound) (keeps : event.KeepsWindow window platform)
    (happened : Channel.happen event platform = some after)
    (owed : Owed resourceId window channel.account platform kept fun _ => False) :
    Owed resourceId window channel.account after kept fun _ => False := by
  intro entry member early
  rcases (shownIn_of_happen sound keeps happened).2 entry member early
    with ⟨same, sameMember, _, created, scored, root⟩
  rw [plain_entryRecords, ← scored, ← root, ← plain_entryRecords]
  exact owed same sameMember (created ▸ early)

theorem Reads.change {event : ChannelEvent}
    (reads : Reads cursorText resourceId window channel platform yielded progress)
    (keeps : event.KeepsWindow window platform)
    (happened : Channel.happen event platform = some after) :
    Reads cursorText resourceId window channel after yielded progress where
  located := reads.located.change happened
  sound := reads.sound.happen keeps happened
  shown := reads.shown.trans (shownIn_of_happen reads.sound keeps happened).1
  within := (shownIn_of_happen reads.sound keeps happened).2.trans reads.within
  owed := reads.owed.change reads.sound keeps happened
  finished ended := (reads.finished ended).change_finished reads.sound keeps happened
  exact := reads.exact
  resumable index batch found cursor text :=
    (reads.resumable index batch found cursor text).change reads.sound keeps happened

/-- On a sound channel posts have their own ids. -/
theorem sound_ownIds (sound : platform.Sound) {entry : ChannelEntry}
    (member : entry ∈ platform.entries) {raw : MattermostRawPost} (own : raw ∈ entry.post)
    {id : String} (named : id ∈ nonEmpty raw.id) : id = entry.id := by
  rcases sound.posts entry member with ⟨other, otherOwn, otherNamed, _⟩
  rw [Option.mem_def.mp own] at otherOwn
  cases otherOwn
  exact Option.some.inj (named.symm.trans otherNamed)

theorem Reads.served
    (reads : Reads cursorText resourceId window channel platform yielded progress)
    (channelId : String) (empty : progress.served = none)
    {entries : List ChannelEntry} (followed : platform.followers progress.before = some entries)
    (spared : ∀ entry ∈ entries.take MATTERMOST_POSTS_PER_PAGE,
      ¬platform.LateReply window entry) :
    Reads cursorText resourceId window channel platform yielded (recordWalk window progress
      (.request (.posts channelId progress.before))
      (.ok (platform.payload (entries.take MATTERMOST_POSTS_PER_PAGE)))) := by
  have nothing : pendingRecords resourceId window channel progress = [] := by
    rw [pendingRecords, empty]
    rfl
  have kept : Owed resourceId window channel.account platform (keptRows yielded)
      (Followed platform progress.before) := by
    have owed := reads.owed
    rw [nothing, List.append_nil] at owed
    exact owed
  rcases kept.served reads.sound followed with ⟨owed, finished⟩
  refine ⟨?_, reads.sound, reads.shown, reads.within, owed, finished, ?_, reads.resumable⟩
  · apply reads.located.served window channelId followed
    intro entry listed raw own id named
    exact sound_ownIds reads.sound
      (mem_entries_of_followers followed (List.mem_of_mem_take listed)) own named
  · intro row member plain
    rcases List.mem_append.mp member with earlier | here
    · exact reads.exact row (List.mem_append_left _ earlier) plain
    · exact servedRecords_exact followed reads.within spared here plain

theorem Reads.yield
    (reads : Reads cursorText resourceId window channel platform yielded progress)
    {batch : CommunityRecordBatch}
    (guaranteed : Guaranteed cursorText resourceId window channel.account progress
      (.yield batch)) :
    Reads cursorText resourceId window channel platform (yielded ++ [batch])
      { progress with served := none } := by
  rcases guaranteed with ⟨text, payload, served, records⟩
  have pending : pendingRecords resourceId window channel progress = batch.records := by
    rw [pendingRecords, served, records]
    rfl
  have kept : keptRows (yielded ++ [batch]) ++
      pendingRecords resourceId window channel { progress with served := none } =
      keptRows yielded ++ pendingRecords resourceId window channel progress := by
    rw [keptRows_append, pending]
    exact List.append_nil _
  refine ⟨reads.located.yield text, reads.sound, reads.shown, reads.within, ?_, ?_, ?_, ?_⟩
  · rw [kept]
    exact reads.owed
  · rw [kept]
    exact reads.finished
  · rw [kept]
    exact reads.exact
  · intro index other found cursor otherText
    rw [List.getElem?_append] at found
    split at found
    · rename_i inside
      rw [List.take_append_of_le_length (Nat.succ_le_of_lt inside)]
      exact reads.resumable index other found cursor otherText
    · rename_i beyond
      have last : index = yielded.length := by
        have short := (List.getElem?_eq_some_iff.mp found).1
        rw [List.length_singleton] at short
        omega
      rw [last, Nat.sub_self] at found
      cases found
      have same : cursor = ⟨progress.before⟩ := by
        have parsed := congrArg cursorText.parse (otherText.symm.trans text)
        rw [cursorText.parse_stringify, cursorText.parse_stringify] at parsed
        exact Option.some.inj parsed
      have owed := reads.owed
      rw [pending, ← keptRows_append] at owed
      rw [last, same, List.take_of_length_le (Nat.le_of_eq (by rw [List.length_append]; rfl))]
      exact owed

theorem Reads.resume
    (reads : Reads cursorText resourceId window channel platform yielded progress) (kept : Nat) :
    Reads cursorText resourceId window channel platform (yielded.take kept)
      (WalkProgress.begins cursorText
        (CrawlRun.cursorAfter (·.cursor) (yielded.take kept))) := by
  have resumable (index : Nat) (batch : CommunityRecordBatch)
      (found : (yielded.take kept)[index]? = some batch) (cursor : MattermostResourceCursor)
      (text : batch.cursor = cursorText.stringify cursor) :
      Owed resourceId window channel.account platform
        (keptRows ((yielded.take kept).take (index + 1))) (Followed platform cursor.before) := by
    rw [List.getElem?_take] at found
    split at found
    · rename_i inside
      rw [List.take_take, Nat.min_eq_left (Nat.succ_le_of_lt inside)]
      exact reads.resumable index batch found cursor text
    · cases found
  refine ⟨reads.located.resume kept, reads.sound, reads.shown, reads.within, ?_, ?_, ?_,
    resumable⟩
  · rcases parseCursor_cursorAfter cursorText (yielded.take kept)
      with ⟨_, begun⟩ | ⟨batch, last, at_⟩
    · rw [begun]
      exact owed_begin platform _
    · rcases reads.located.cursors batch (List.mem_of_mem_take (List.mem_of_getLast? last))
        with ⟨cursor, text, _⟩
      have found := last
      rw [List.getLast?_eq_getElem?] at found
      have nonempty : 0 < (yielded.take kept).length := by
        have inside := (List.getElem?_eq_some_iff.mp found).1
        omega
      have owed := resumable _ batch found cursor text
      rw [Nat.sub_add_cancel nonempty, List.take_length] at owed
      rw [at_ cursor text]
      exact owed.mono fun row member => List.mem_append_left _ member
  · intro ended
    cases ended
  · intro row member plain
    apply reads.exact row _ plain
    apply List.mem_append_left
    rcases List.mem_append.mp member with earlier | none
    · rcases List.mem_flatMap.mp earlier with ⟨batch, stored, own⟩
      exact List.mem_flatMap.mpr ⟨batch, List.mem_of_mem_take stored, own⟩
    · exact absurd none List.not_mem_nil

theorem Becomes.related {later : Channel} (sound : channel.Sound)
    (becomes : Becomes window channel later) :
    later.Sound ∧ channel.ShownIn window later ∧ later.ShownIn window channel ∧
      later.account = channel.account := by
  induction becomes with
  | start => exact ⟨sound, .refl channel, .refl channel, rfl⟩
  | next earlier keeps happened ih =>
      rcases ih with ⟨sound, shown, within, same⟩
      rcases shownIn_of_happen sound keeps happened with ⟨forward, back⟩
      exact ⟨sound.happen keeps happened, shown.trans forward, back.trans within,
        (Channel.account_of_happen happened).trans same⟩

variable {fuel : Nat}

theorem reads_of_reachable {later : Channel} (sound : channel.Sound)
    (becomes : Becomes window channel later) {run : WalkRun}
    (reachable : (walkSystem cursorText fuel resourceId window later).Reachable
      (KeepsWindowApart window) run) :
    Reads cursorText resourceId window channel run.platform run.yielded run.progress ∧
      run.running.Obeys (walkProtocol cursorText resourceId window channel.account)
        (WalkRead fuel resourceId) run.progress := by
  rcases becomes.related sound with ⟨laterSound, shown, within, same⟩
  refine CrawlRun.protocol_invariant (walkProtocol cursorText resourceId window channel.account)
    (WalkRead fuel resourceId) (Reads cursorText resourceId window channel)
    (reads_begin laterSound shown within same) (iterateRecords_obeys none) ?_ ?_ ?_ ?_ reachable
  · intro α operation next run asked allowed reads guaranteed
    cases operation with
    | usersByIds ids => exact ⟨answer_usersByIds reads.located ids, reads⟩
    | posts channelId before =>
        rcases guaranteed with ⟨same, _, empty⟩
        cases same
        rcases reads.located.place with ⟨rest, followed, _⟩
        have spared := CrawlRun.RequestMeets.of_request allowed asked rest followed
        rw [answer_posts followed]
        exact ⟨⟨_, rfl⟩, reads.served channelId empty followed spared⟩
  · intro batch platform yielded progress reads guaranteed
    exact ⟨trivial, reads.yield guaranteed⟩
  · intro run kept reads _
    exact ⟨reads.resume kept, iterateRecords_obeys _⟩
  · intro run event after reads keeps happened
    exact reads.change keeps happened

/-- The walk ends on every channel that lists its posts under their own ids; and on a sound
channel, whenever it runs, a crawl without late replies yields exactly the rows of the posts
that were created before the end of the window. -/
theorem crawl_readsWindow (cursorText : CursorText MattermostResourceCursor) (fuel : Nat)
    (resourceId : String) (window : CommunityFetchWindow) (channel : Channel) :
    (∀ run result, (walkSystem cursorText fuel resourceId window channel).Reachable
        ListsOwnIds run → run.result = some result → run.platform.entries.length < fuel →
      result = .ok (coverage resourceId .complete none)) ∧
    (channel.Sound → ∀ later, Becomes window channel later → ∀ run result,
      (walkSystem cursorText fuel resourceId window later).Reachable (KeepsWindowApart window)
        run → run.result = some result → run.platform.entries.length < fuel →
      result = .ok (coverage resourceId .complete none) ∧
      ∀ row, isReaction row = false → (row ∈ keptRows run.yielded ↔
        row ∈ channel.windowRows (flagOf channel.account) resourceId window)) := by
  constructor
  · exact fun run result reachable ended fits => walk_ends reachable ended fits
  · intro sound later becomes run result reachable ended fits
    rcases reads_of_reachable sound becomes reachable with ⟨reads, obeyed⟩
    rw [CrawlRun.running_of_result ended] at obeyed
    have read : WalkRead fuel resourceId run.progress result := obeyed
    rcases reads.located.place with ⟨rest, _, room⟩
    cases result with
    | error error =>
        have used := read.failed error rfl
        omega
    | ok outcome =>
        rcases read.read outcome rfl with ⟨complete, finished, empty⟩
        have nothing : pendingRecords resourceId window channel run.progress = [] := by
          rw [pendingRecords, empty]
          rfl
        refine ⟨congrArg _ complete, ?_⟩
        intro row plain
        constructor
        · exact fun member => reads.exact row (List.mem_append_left _ member) plain
        · intro owed
          have owedNow := reads.shown.windowRows owed
          rcases List.mem_filter.mp owedNow with ⟨derived, plainRow⟩
          rcases List.mem_flatMap.mp derived with ⟨entry, listed, own⟩
          rcases List.mem_filter.mp listed with ⟨member, early⟩
          rcases reads.finished finished entry member (of_decide_eq_true early) with all | none
          · rw [nothing, List.append_nil] at all
            exact all row (List.mem_filter.mpr ⟨own, plainRow⟩)
          · cases none

end Reads

/-! ## A late reply -/

/-- Cursors as the id behind a mark. -/
private def markedText : CursorText MattermostResourceCursor where
  stringify cursor := match cursor.before with
    | none => String.ofList []
    | some id => String.ofList ('>' :: id.toList)
  parse text := match text.toList with
    | [] => some ⟨none⟩
    | _ :: id => some ⟨some (String.ofList id)⟩
  parse_stringify := by
    intro ⟨before⟩
    cases before <;> simp

private def postedAt (id userId : String) (createAt : Int) (rootId : String) : ChannelEntry :=
  ⟨id, some ⟨some id, some userId, some createAt, none, some rootId, none, []⟩⟩

private def yearWindow : CommunityFetchWindow := ⟨1000, 2000⟩

/-- A post in the window and a reply in it. -/
private def calmChannel : Channel where
  entries := [postedAt "reply" "b" 1600 "root", postedAt "root" "a" 1500 ""]
  nodup := by decide
  account := fun _ => some false

private theorem calmChannel_sound : calmChannel.Sound :=
  ⟨by decide +kernel, by decide +kernel, by decide +kernel⟩

private def yearAttempt (cursor : Option String) :
    MattermostCrawl (Except CommunityApiError CommunityResourceCoverage) :=
  iterateRecords markedText 10 ⟨"channel", yearWindow, cursor⟩

private def performYear (channel : Channel) (actions : List (CrawlAction ChannelEvent)) :
    WalkRun :=
  System.performAll
    (CrawlRun.perform yearAttempt (·.cursor) Channel.answer Channel.happen
      (WalkProgress.begins markedText) (recordWalk yearWindow))
    (CrawlRun.continueAfter yearAttempt (·.cursor) (WalkProgress.begins markedText) channel [])
    actions

private theorem performYear_reachable {channel : Channel}
    {permitted : WalkRun → CrawlAction ChannelEvent → Prop}
    {actions : List (CrawlAction ChannelEvent)}
    (along : System.AllAlong
      (CrawlRun.perform yearAttempt (·.cursor) Channel.answer Channel.happen
        (WalkProgress.begins markedText) (recordWalk yearWindow))
      (fun before action => permitted before action ∧ True)
      (CrawlRun.continueAfter yearAttempt (·.cursor) (WalkProgress.begins markedText) channel [])
      actions) :
    (walkSystem markedText 10 "channel" yearWindow channel).Reachable permitted
      (performYear channel actions) :=
  System.reachable_performAll (.start rfl) along

/-- A message is posted after the window, and the crawl is resumed when it was read. -/
private def calmActions : List (CrawlAction ChannelEvent) :=
  [.proceed, .change (.add (postedAt "message" "b" 2500 "")), .proceed, .proceed, .resume 1] ++
    List.replicate 3 .proceed

theorem crawl_readsWindow_sample :
    (.ok (coverage "channel" .complete none) :
        Except CommunityApiError CommunityResourceCoverage) =
        .ok (coverage "channel" .complete none) ∧
      ∀ row, isReaction row = false →
        (row ∈ keptRows (performYear calmChannel calmActions).yielded ↔
          row ∈ calmChannel.windowRows (flagOf calmChannel.account) "channel" yearWindow) :=
  (crawl_readsWindow markedText 10 "channel" yearWindow calmChannel).2 calmChannel_sound
    calmChannel .start (performYear calmChannel calmActions) _
    (performYear_reachable (by decide +kernel)) (by decide +kernel) (by decide +kernel)

/-- The same channel when a reply came after the window. -/
private def lateActions : List (CrawlAction ChannelEvent) :=
  .change (.add (postedAt "late" "c" 2500 "root")) :: List.replicate 3 .proceed

private def lateReceived : CommunityActivityRecord :=
  ⟨CommunityChatActivityType.replyReceived, "a", some "c", "channel", "late", 1500, 1, false,
    false⟩

/-- A crawl after a late reply has a row more than one before it. -/
theorem lateReply_crawled :
    ¬∀ (run : WalkRun) (result : Except CommunityApiError CommunityResourceCoverage),
      (walkSystem markedText 10 "channel" yearWindow calmChannel).Reachable
        (KeepsWindow yearWindow) run →
      run.result = some result → run.platform.entries.length < 10 →
      ∀ row, isReaction row = false → (row ∈ keptRows run.yielded ↔
        row ∈ calmChannel.windowRows (flagOf calmChannel.account) "channel" yearWindow) := by
  intro exactly
  have read : lateReceived ∈ keptRows (performYear calmChannel lateActions).yielded := by
    decide +kernel
  have unsaid : lateReceived ∉
      calmChannel.windowRows (flagOf calmChannel.account) "channel" yearWindow := by
    decide +kernel
  exact unsaid ((exactly _ (.ok (coverage "channel" .complete none))
    (performYear_reachable (by decide +kernel)) (by decide +kernel) (by decide +kernel)
    lateReceived (by decide +kernel)).mp read)

end Mattermost

end Reputo.Community

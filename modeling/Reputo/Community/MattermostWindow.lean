import Reputo.Community.MattermostChannel

/-!
# What a channel has in a window

The rows of the posts that were created before the end of a window do not change when others
are added, or posts that were created later are edited.  A later reply has a row in the
window where its root was created in it.
-/

namespace Reputo.Community

open Reputo.Library

namespace Mattermost

/-! ## Sound channels -/

/-- The creation of a post; entries of sound channels have one. -/
def ChannelEntry.createdMs (entry : ChannelEntry) : Int :=
  (entry.post.bind (·.create_at)).getD 0

/-- A post that is stored under its own id, with the time of its creation. -/
def ChannelEntry.Sound (entry : ChannelEntry) : Prop :=
  ∃ raw ∈ entry.post, nonEmpty raw.id = some entry.id ∧ raw.create_at = some entry.createdMs

instance (entry : ChannelEntry) : Decidable entry.Sound :=
  inferInstanceAs (Decidable (∃ raw ∈ entry.post, nonEmpty raw.id = some entry.id ∧
    raw.create_at = some entry.createdMs))

/-- The id of the root of a reply. -/
def ChannelEntry.rootId (entry : ChannelEntry) : Option String :=
  entry.post.bind fun raw => nonEmpty raw.root_id

/-- Posts in the order of their creation, newest first, each newer than its root. -/
structure Channel.Sound (channel : Channel) : Prop where
  posts : ∀ entry ∈ channel.entries, entry.Sound
  ordered : channel.entries.Pairwise fun newer older => older.createdMs ≤ newer.createdMs
  roots : ∀ entry ∈ channel.entries, ∀ root ∈ channel.entries, entry.rootId = some root.id →
    root.createdMs ≤ entry.createdMs

/-- Only the reactions of a post may be others. -/
def SameButReactions (post other : Option MattermostRawPost) : Prop :=
  post.map (fun raw => { raw with reactions := [] }) =
    other.map fun raw => { raw with reactions := [] }

/-- After the end of the window posts are added at the front, and of those created before
only the reactions change. -/
def ChannelEvent.KeepsWindow (window : CommunityFetchWindow) (channel : Channel) :
    ChannelEvent → Prop
  | .add entry => entry.Sound ∧ window.finish ≤ entry.createdMs ∧
      (∀ older ∈ channel.entries, older.createdMs ≤ entry.createdMs) ∧
      (∀ older ∈ channel.entries, older.rootId ≠ some entry.id) ∧
      entry.rootId ≠ some entry.id
  | .edit id post => ∀ entry ∈ channel.entries, entry.id = id →
      if entry.createdMs < window.finish then SameButReactions entry.post post
      else (ChannelEntry.mk id post).Sound ∧
        (ChannelEntry.mk id post).createdMs = entry.createdMs ∧
        (ChannelEntry.mk id post).rootId = entry.rootId

instance (post other : Option MattermostRawPost) : Decidable (SameButReactions post other) :=
  inferInstanceAs (Decidable (_ = _))

instance (window : CommunityFetchWindow) (channel : Channel) : (event : ChannelEvent) →
    Decidable (event.KeepsWindow window channel)
  | .add _ => inferInstanceAs (Decidable (_ ∧ _ ∧ _ ∧ _ ∧ _))
  | .edit id post => inferInstanceAs (Decidable (∀ entry ∈ channel.entries, entry.id = id →
      if entry.createdMs < window.finish then SameButReactions entry.post post
      else (ChannelEntry.mk id post).Sound ∧
        (ChannelEntry.mk id post).createdMs = entry.createdMs ∧
        (ChannelEntry.mk id post).rootId = entry.rootId))

section SameButReactions

variable {raw other : MattermostRawPost} {post edited : Option MattermostRawPost}

theorem SameButReactions.toScoreablePost (same : SameButReactions post edited) :
    post.bind toScoreablePost = edited.bind toScoreablePost := by
  have ignored (value : Option MattermostRawPost) : value.bind Community.toScoreablePost =
      (value.map fun raw => { raw with reactions := [] }).bind Community.toScoreablePost := by
    cases value <;> rfl
  rw [ignored post, ignored edited, same]

theorem SameButReactions.createdMs {id : String} (same : SameButReactions post edited) :
    (ChannelEntry.mk id post).createdMs = (ChannelEntry.mk id edited).createdMs := by
  have ignored (value : Option MattermostRawPost) : value.bind (·.create_at) =
      (value.map fun raw => { raw with reactions := [] }).bind (·.create_at) := by
    cases value <;> rfl
  simp only [ChannelEntry.createdMs]
  rw [ignored post, ignored edited, same]

theorem SameButReactions.rootId {id : String} (same : SameButReactions post edited) :
    (ChannelEntry.mk id post).rootId = (ChannelEntry.mk id edited).rootId := by
  have ignored (value : Option MattermostRawPost) :
      (value.bind fun raw => nonEmpty raw.root_id) =
      (value.map fun raw => { raw with reactions := [] }).bind fun raw => nonEmpty raw.root_id := by
    cases value <;> rfl
  simp only [ChannelEntry.rootId]
  rw [ignored post, ignored edited, same]

end SameButReactions

/-! ## Rows -/

section Rows

variable (isBot : String → Bool) (resourceId : String) (window : CommunityFetchWindow)

/-- The rows of the post of an entry, in its channel. -/
def Channel.entryRecords (channel : Channel) (entry : ChannelEntry) :
    List CommunityActivityRecord :=
  entry.post.toList.flatMap fun raw => (toScoreablePost raw).toList.flatMap fun post =>
    toMattermostActivityRecords isBot resourceId window post raw channel.wholePage

def isReaction (row : CommunityActivityRecord) : Bool :=
  row.type = CommunityChatActivityType.reactionReceived

/-- What the posts created before the end of the window say, apart from reactions. -/
def Channel.windowRows (channel : Channel) : List CommunityActivityRecord :=
  ((channel.entries.filter (·.createdMs < window.finish)).flatMap
    (channel.entryRecords isBot resourceId window)).filter (!isReaction ·)

/-- A reply created after the window to a post in it. -/
def Channel.LateReply (channel : Channel) (entry : ChannelEntry) : Prop :=
  window.finish ≤ entry.createdMs ∧ ∃ raw ∈ entry.post, ∃ post ∈ toScoreablePost raw,
    ∃ root ∈ rootPost post channel.wholePage, isWithinWindow root.occurredAt window = true

instance (channel : Channel) (entry : ChannelEntry) :
    Decidable (channel.LateReply window entry) :=
  inferInstanceAs (Decidable (_ ∧ ∃ raw ∈ entry.post, ∃ post ∈ toScoreablePost raw,
    ∃ root ∈ rootPost post channel.wholePage, isWithinWindow root.occurredAt window = true))

variable {isBot resourceId window}


/-- Apart from reactions, the rows of a post depend on nothing but the post and its root. -/
theorem filter_toMattermostActivityRecords (post : MattermostPost) (raw : MattermostRawPost)
    (page : MattermostPostPage) :
    (toMattermostActivityRecords isBot resourceId window post raw page).filter (!isReaction ·) =
      (postRecord isBot resourceId post (ownType post) ((rootPost post page).map (·.userId)) 1 ::
        ((rootPost post page).toList.map (rootRecord isBot resourceId post))).filter
        fun record => isWithinWindow record.occurredAt window := by
  have own : isReaction (postRecord isBot resourceId post (ownType post)
      ((rootPost post page).map (·.userId)) 1) = false := by
    simp only [isReaction, postRecord, ownType]
    split <;> rfl
  have reactions : ((toReactionCounts raw).map (fun reaction => postRecord isBot resourceId post
      CommunityChatActivityType.reactionReceived (some reaction.1) reaction.2)).filter
      (!isReaction ·) = [] := by
    rw [List.filter_eq_nil_iff]
    intro row member
    rcases List.mem_map.mp member with ⟨reaction, _, same⟩
    rw [← same]
    simp [isReaction, postRecord]
  have received : ((rootPost post page).toList.map (rootRecord isBot resourceId post)).filter
      (!isReaction ·) = (rootPost post page).toList.map (rootRecord isBot resourceId post) := by
    rw [List.filter_eq_self]
    intro row member
    rcases List.mem_map.mp member with ⟨root, _, same⟩
    rw [← same]
    rfl
  rw [toMattermostActivityRecords, List.filter_filter]
  rw [show (fun record : CommunityActivityRecord =>
      (!isReaction record) && isWithinWindow record.occurredAt window) =
      fun record => isWithinWindow record.occurredAt window && !isReaction record from
      funext fun record => Bool.and_comm _ _, ← List.filter_filter, List.filter_cons_of_pos
      (by rw [own]; rfl), List.filter_append, reactions, received, List.nil_append]

/-- The rows of a post apart from those of reactions. -/
def plainRows (isBot : String → Bool) (resourceId : String) (window : CommunityFetchWindow)
    (post : MattermostPost) (root : Option MattermostPost) : List CommunityActivityRecord :=
  (postRecord isBot resourceId post (ownType post) (root.map (·.userId)) 1 ::
    root.toList.map (rootRecord isBot resourceId post)).filter
    fun record => isWithinWindow record.occurredAt window

/-- The root of the post of an entry. -/
def Channel.rootOf (channel : Channel) (entry : ChannelEntry) : Option MattermostPost :=
  (entry.rootId.bind channel.postOf).bind toScoreablePost

theorem rootPost_eq_rootOf {channel : Channel} {entry : ChannelEntry} {raw : MattermostRawPost}
    {post : MattermostPost} (own : entry.post = some raw)
    (scoreable : toScoreablePost raw = some post) :
    rootPost post channel.wholePage = channel.rootOf entry := by
  rw [rootPost, Channel.rootOf, ChannelEntry.rootId, own, Option.bind_some,
    Channel.toScoreablePost_rootId scoreable]
  rfl

/-- The plain rows of an entry come from its post and the root of it. -/
theorem plain_entryRecords (channel : Channel) (entry : ChannelEntry) :
    (channel.entryRecords isBot resourceId window entry).filter (!isReaction ·) =
      (entry.post.bind toScoreablePost).toList.flatMap fun post =>
        plainRows isBot resourceId window post (channel.rootOf entry) := by
  rw [Channel.entryRecords]
  cases own : entry.post with
  | none => rfl
  | some raw =>
      rw [Option.toList_some, List.flatMap_singleton, Option.bind_some]
      cases scoreable : toScoreablePost raw with
      | none => rfl
      | some post =>
          rw [Option.toList_some, List.flatMap_singleton, List.flatMap_singleton,
            filter_toMattermostActivityRecords, rootPost_eq_rootOf own scoreable]
          rfl

/-- A page of entries yields the rows of their posts. -/
theorem mattermostPageRecords_payload {channel : Channel} {page : List ChannelEntry}
    (within : ∀ entry ∈ page, entry ∈ channel.entries) :
    mattermostPageRecords isBot resourceId window (toMattermostPostPage (channel.payload page)) =
      page.flatMap (channel.entryRecords isBot resourceId window) := by
  rw [mattermostPageRecords, Channel.payload_posts within]
  have inner (entries : List ChannelEntry) (listed : ∀ entry ∈ entries, entry ∈ page) :
      ((entries.filterMap (·.post)).flatMap fun raw => (toScoreablePost raw).toList.flatMap
        fun post => toMattermostActivityRecords isBot resourceId window post raw
          (toMattermostPostPage (channel.payload page))) =
      entries.flatMap (channel.entryRecords isBot resourceId window) := by
    induction entries with
    | nil => rfl
    | cons entry rest ih =>
        have others := ih fun later member => listed later (List.mem_cons_of_mem _ member)
        rw [List.flatMap_cons, Channel.entryRecords, ← others]
        cases own : entry.post with
        | none =>
            rw [List.filterMap_cons_none own]
            rfl
        | some raw =>
            rw [List.filterMap_cons_some own, List.flatMap_cons, Option.toList_some,
              List.flatMap_singleton]
            congr 1
            cases scoreable : toScoreablePost raw with
            | none => rfl
            | some post =>
                rw [Option.toList_some, List.flatMap_singleton, List.flatMap_singleton,
                  toMattermostActivityRecords, toMattermostActivityRecords,
                  Channel.payload_rootPost (listed entry List.mem_cons_self) own scoreable]
  exact inner page fun _ member => member

theorem toScoreablePost_occurredAt {raw : MattermostRawPost} {post : MattermostPost}
    (scoreable : toScoreablePost raw = some post) : raw.create_at = some post.occurredAt := by
  rw [toScoreablePost] at scoreable
  split at scoreable
  · cases scoreable
  · split at scoreable
    · cases scoreable
    · split at scoreable
      · rename_i created
        cases scoreable
        exact (Option.filter_eq_some_iff.mp created).1
      · cases scoreable

/-- A post is scored at the time of its creation. -/
theorem ChannelEntry.occurredAt_eq {entry : ChannelEntry} {post : MattermostPost}
    (scoreable : entry.post.bind toScoreablePost = some post) :
    post.occurredAt = entry.createdMs := by
  rcases Option.bind_eq_some_iff.mp scoreable with ⟨raw, own, scoreable⟩
  rw [createdMs, own, Option.bind_some, toScoreablePost_occurredAt scoreable]
  rfl

/-- A post that was created after the window has plain rows only as a late reply. -/
theorem plain_entryRecords_of_late {channel : Channel} {entry : ChannelEntry}
    (late : window.finish ≤ entry.createdMs) (spared : ¬channel.LateReply window entry) :
    (channel.entryRecords isBot resourceId window entry).filter (!isReaction ·) = [] := by
  rw [plain_entryRecords]
  cases scoreable : entry.post.bind toScoreablePost with
  | none => rfl
  | some post =>
      rw [Option.toList_some, List.flatMap_singleton, plainRows, List.filter_eq_nil_iff]
      intro row member
      rcases List.mem_cons.mp member with own | received
      · rw [own, postRecord, ChannelEntry.occurredAt_eq scoreable, isWithinWindow]
        simp only [Bool.and_eq_true, decide_eq_true_iff]
        omega
      · rcases List.mem_map.mp received with ⟨root, rootMember, same⟩
        intro within
        rw [← same, rootRecord] at within
        rcases Option.bind_eq_some_iff.mp scoreable with ⟨raw, own, scoreable⟩
        refine spared ⟨late, raw, own, post, scoreable, root, ?_, within⟩
        rw [rootPost_eq_rootOf own scoreable]
        exact Option.mem_toList.mp rootMember

/-- The root of a reply is the post of an entry. -/
theorem exists_of_rootOf {channel : Channel} {entry : ChannelEntry} {root : MattermostPost}
    (found : channel.rootOf entry = some root) :
    ∃ other ∈ channel.entries, entry.rootId = some other.id ∧
      other.post.bind toScoreablePost = some root := by
  rcases Option.bind_eq_some_iff.mp found with ⟨raw, stored, scoreable⟩
  rcases Option.bind_eq_some_iff.mp stored with ⟨id, named, posted⟩
  rcases Option.bind_eq_some_iff.mp posted with ⟨other, located, own⟩
  have sameId : other.id = id := by simpa using List.find?_some located
  refine ⟨other, List.mem_of_find?_eq_some located, ?_, ?_⟩
  · rw [named, sameId]
  · rw [own]
    exact scoreable

/-- A post that was created before the window has no plain rows, and neither has its root. -/
theorem plain_entryRecords_of_early {channel : Channel} (sound : channel.Sound)
    {entry : ChannelEntry} (member : entry ∈ channel.entries)
    (early : entry.createdMs < window.start) :
    (channel.entryRecords isBot resourceId window entry).filter (!isReaction ·) = [] := by
  rw [plain_entryRecords]
  cases scoreable : entry.post.bind toScoreablePost with
  | none => rfl
  | some post =>
      rw [Option.toList_some, List.flatMap_singleton, plainRows, List.filter_eq_nil_iff]
      intro row rowMember
      rcases List.mem_cons.mp rowMember with own | received
      · rw [own, postRecord, ChannelEntry.occurredAt_eq scoreable, isWithinWindow]
        simp only [Bool.and_eq_true, decide_eq_true_iff]
        omega
      · rcases List.mem_map.mp received with ⟨root, rootMember, same⟩
        rw [← same, rootRecord, isWithinWindow]
        simp only [Bool.and_eq_true, decide_eq_true_iff]
        rcases exists_of_rootOf (Option.mem_toList.mp rootMember)
          with ⟨other, otherMember, named, otherScoreable⟩
        have older := sound.roots entry member other otherMember named
        rw [ChannelEntry.occurredAt_eq otherScoreable]
        omega

end Rows

/-! ## Histories -/

/-- What is told of the posts before the end of a window on one channel, is on the other. -/
def Channel.ShownIn (window : CommunityFetchWindow) (channel other : Channel) : Prop :=
  ∀ entry ∈ channel.entries, entry.createdMs < window.finish → ∃ same ∈ other.entries,
    same.id = entry.id ∧ same.createdMs = entry.createdMs ∧
      same.post.bind toScoreablePost = entry.post.bind toScoreablePost ∧
      other.rootOf same = channel.rootOf entry

section Histories

variable {window : CommunityFetchWindow} {channel after : Channel}

theorem Channel.ShownIn.refl (channel : Channel) : channel.ShownIn window channel :=
  fun entry member _ => ⟨entry, member, rfl, rfl, rfl, rfl⟩

theorem Channel.ShownIn.trans {first second third : Channel} (left : first.ShownIn window second)
    (right : second.ShownIn window third) : first.ShownIn window third := by
  intro entry member early
  rcases left entry member early with ⟨same, sameMember, id, created, scored, root⟩
  rcases right same sameMember (created ▸ early) with ⟨last, lastMember, id', created', scored',
    root'⟩
  exact ⟨last, lastMember, id'.trans id, created'.trans created, scored'.trans scored,
    root'.trans root⟩

theorem Channel.ShownIn.windowRows {isBot : String → Bool} {resourceId : String}
    {left right : Channel} (shown : left.ShownIn window right) {row : CommunityActivityRecord}
    (member : row ∈ left.windowRows isBot resourceId window) :
    row ∈ right.windowRows isBot resourceId window := by
  rcases List.mem_filter.mp member with ⟨derived, plain⟩
  rcases List.mem_flatMap.mp derived with ⟨entry, listed, own⟩
  rcases List.mem_filter.mp listed with ⟨entryMember, early⟩
  rcases shown entry entryMember (of_decide_eq_true early) with ⟨same, sameMember, _, created,
    scored, root⟩
  have ownPlain : row ∈ (left.entryRecords isBot resourceId window entry).filter (!isReaction ·) :=
    List.mem_filter.mpr ⟨own, plain⟩
  rw [plain_entryRecords, ← scored, ← root, ← plain_entryRecords] at ownPlain
  rw [Channel.windowRows, List.mem_filter]
  refine ⟨List.mem_flatMap.mpr ⟨same, ?_, (List.mem_filter.mp ownPlain).1⟩, plain⟩
  rw [List.mem_filter, created]
  exact ⟨sameMember, early⟩

/-- What an admitted edit leaves of an entry. -/
theorem editedTo_sound {id : String} {post : Option MattermostRawPost}
    (sound : channel.Sound) (keeps : (ChannelEvent.edit id post).KeepsWindow window channel)
    {entry : ChannelEntry} (member : entry ∈ channel.entries) :
    (entry.editedTo id post).Sound ∧ (entry.editedTo id post).createdMs = entry.createdMs ∧
      (entry.editedTo id post).rootId = entry.rootId := by
  rw [ChannelEntry.editedTo]
  by_cases same : entry.id = id
  · rw [if_pos same]
    have admitted := keeps entry member same
    cases same
    split at admitted
    · have created : (ChannelEntry.mk entry.id post).createdMs = entry.createdMs :=
        admitted.createdMs.symm
      refine ⟨?_, created, admitted.rootId.symm⟩
      rcases sound.posts entry member with ⟨raw, own, named, dated⟩
      rw [SameButReactions, Option.mem_def.mp own] at admitted
      cases post with
      | none => cases admitted
      | some edited =>
          have fields := Option.some.inj admitted
          refine ⟨edited, rfl, ?_, ?_⟩
          · have ids := congrArg MattermostRawPost.id fields
            rw [← named]
            exact congrArg nonEmpty ids.symm
          · have times := congrArg MattermostRawPost.create_at fields
            rw [created, ← dated]
            exact times.symm
    · exact admitted
  · rw [if_neg same]
    exact ⟨sound.posts entry member, rfl, rfl⟩

theorem Channel.Sound.happen {event : ChannelEvent} (sound : channel.Sound)
    (keeps : event.KeepsWindow window channel)
    (happened : Channel.happen event channel = some after) : after.Sound := by
  cases event with
  | add entry =>
      rcases Channel.happen_add happened with ⟨fresh, same⟩
      cases same
      rcases keeps with ⟨own, _, newest, unnamed, notOwn⟩
      refine ⟨?_, List.pairwise_cons.mpr ⟨newest, sound.ordered⟩, ?_⟩
      · intro other member
        rcases List.mem_cons.mp member with same | older
        · rw [same]
          exact own
        · exact sound.posts other older
      · intro other member root rootMember named
        rcases List.mem_cons.mp rootMember with same | olderRoot
        · cases same
          rcases List.mem_cons.mp member with same | older
          · cases same
            exact absurd named notOwn
          · exact absurd named (unnamed other older)
        · rcases List.mem_cons.mp member with same | older
          · cases same
            exact newest root olderRoot
          · exact sound.roots other older root olderRoot named
  | edit id post =>
      cases happened
      refine ⟨?_, ?_, ?_⟩
      · intro other member
        rcases List.mem_map.mp member with ⟨entry, stored, same⟩
        cases same
        exact (editedTo_sound sound keeps stored).1
      · rw [Channel.edit, List.pairwise_map]
        refine sound.ordered.imp_of_mem ?_
        intro newer older newerMember olderMember before
        rw [(editedTo_sound sound keeps newerMember).2.1,
          (editedTo_sound sound keeps olderMember).2.1]
        exact before
      · intro other member root rootMember named
        rcases List.mem_map.mp member with ⟨entry, stored, same⟩
        rcases List.mem_map.mp rootMember with ⟨rootEntry, rootStored, sameRoot⟩
        cases same
        cases sameRoot
        rw [(editedTo_sound sound keeps stored).2.2, ChannelEntry.id_editedTo] at named
        rw [(editedTo_sound sound keeps stored).2.1, (editedTo_sound sound keeps rootStored).2.1]
        exact sound.roots entry stored rootEntry rootStored named

/-- Entries under other ids have their roots as before. -/
theorem rootOf_add {entry older : ChannelEntry}
    (fresh : entry.id ∉ channel.entries.map (·.id)) (unnamed : older.rootId ≠ some entry.id) :
    (channel.add entry fresh).rootOf older = channel.rootOf older := by
  rw [Channel.rootOf, Channel.rootOf]
  cases named : older.rootId with
  | none => rfl
  | some root =>
      have other : entry.id ≠ root := by
        intro same
        rw [named, same] at unnamed
        exact unnamed rfl
      rw [Option.bind_some, Option.bind_some, Channel.postOf, Channel.add,
        List.find?_cons_of_neg (by simpa using other)]
      rfl

theorem find?_edit (channel : Channel) (id : String) (post : Option MattermostRawPost)
    (query : String) :
    (channel.edit id post).entries.find? (·.id = query) =
      (channel.entries.find? (·.id = query)).map (·.editedTo id post) := by
  rw [Channel.edit, List.find?_map]
  congr 2
  funext entry
  rw [Function.comp, ChannelEntry.id_editedTo]

/-- The root of a post before the end of the window is edited in its reactions only. -/
theorem rootOf_edit {id : String} {post : Option MattermostRawPost} (sound : channel.Sound)
    (keeps : (ChannelEvent.edit id post).KeepsWindow window channel) {entry : ChannelEntry}
    (member : entry ∈ channel.entries) (early : entry.createdMs < window.finish) :
    (channel.edit id post).rootOf (entry.editedTo id post) = channel.rootOf entry := by
  rw [Channel.rootOf, Channel.rootOf, (editedTo_sound sound keeps member).2.2]
  cases named : entry.rootId with
  | none => rfl
  | some root =>
      rw [Option.bind_some, Option.bind_some, Channel.postOf, Channel.postOf, find?_edit]
      cases found : channel.entries.find? (·.id = root) with
      | none => rfl
      | some other =>
          have stored := List.mem_of_find?_eq_some found
          have sameId : other.id = root := by simpa using List.find?_some found
          rw [Option.map_some, Option.bind_some, Option.bind_some, ChannelEntry.editedTo]
          split
          · rename_i here
            have admitted := keeps other stored here
            have older := sound.roots entry member other stored (by rw [named, sameId])
            rw [if_pos (Int.lt_of_le_of_lt older early)] at admitted
            exact admitted.toScoreablePost.symm
          · rfl

theorem shownIn_of_happen {event : ChannelEvent} (sound : channel.Sound)
    (keeps : event.KeepsWindow window channel)
    (happened : Channel.happen event channel = some after) :
    channel.ShownIn window after ∧ after.ShownIn window channel := by
  cases event with
  | add entry =>
      rcases Channel.happen_add happened with ⟨fresh, same⟩
      cases same
      rcases keeps with ⟨_, late, _, unnamed, _⟩
      constructor
      · intro older member early
        exact ⟨older, List.mem_cons_of_mem _ member, rfl, rfl, rfl,
          rootOf_add fresh (unnamed older member)⟩
      · intro other member early
        rcases List.mem_cons.mp member with same | older
        · rw [same] at early
          omega
        · exact ⟨other, older, rfl, rfl, rfl, (rootOf_add fresh (unnamed other older)).symm⟩
  | edit id post =>
      cases happened
      have scored (entry : ChannelEntry) (member : entry ∈ channel.entries)
          (early : entry.createdMs < window.finish) :
          (entry.editedTo id post).post.bind toScoreablePost = entry.post.bind toScoreablePost := by
        rw [ChannelEntry.editedTo]
        split
        · rename_i here
          have admitted := keeps entry member here
          rw [if_pos early] at admitted
          exact admitted.toScoreablePost.symm
        · rfl
      constructor
      · intro entry member early
        exact ⟨entry.editedTo id post, List.mem_map_of_mem member, entry.id_editedTo id post,
          (editedTo_sound sound keeps member).2.1, scored entry member early,
          rootOf_edit sound keeps member early⟩
      · intro other member early
        rcases List.mem_map.mp member with ⟨entry, stored, same⟩
        cases same
        rw [(editedTo_sound sound keeps stored).2.1] at early
        exact ⟨entry, stored, (entry.id_editedTo id post).symm,
          (editedTo_sound sound keeps stored).2.1.symm, (scored entry stored early).symm,
          (rootOf_edit sound keeps stored early).symm⟩

end Histories

end Mattermost

end Reputo.Community

import Reputo.Community.MattermostWindow

/-!
# The walk through a channel

An attempt asks for a page, looks up the accounts of its posts and yields its rows.  Each page
after which it goes on leaves fewer posts to follow, so it ends on every channel whose posts
are listed under their own ids.
-/

namespace Reputo.Community

open Reputo.Library

namespace Mattermost

/-! ## What an attempt has read -/

/-- The post after which the walk goes on, whether it ended, the pages after which it went on,
and the page whose rows were not yielded yet. -/
structure WalkProgress where
  before : Option String
  ended : Bool
  pages : Nat
  served : Option MattermostRawPostList
  deriving DecidableEq, Repr

def WalkProgress.begins (cursorText : CursorText MattermostResourceCursor)
    (cursor : Option String) : WalkProgress :=
  ⟨(parseCursor cursorText cursor).before, false, 0, none⟩

def pagesAfter (pages : Nat) (ended : Bool) : Nat := if ended then pages else pages + 1

theorem pagesAfter_le (pages : Nat) (ended : Bool) : pagesAfter pages ended ≤ pages + 1 := by
  cases ended with
  | true => exact Nat.le_succ _
  | false => exact Nat.le_refl _

/-- A page that is served is recorded until its rows are yielded. -/
def recordWalk (window : CommunityFetchWindow) : ∀ {α : Type}, WalkProgress →
    Yielding MattermostRequest CommunityRecordBatch α → α → WalkProgress
  | _, progress, .request (.posts _ _), .ok payload =>
      ⟨(nextCursor ⟨progress.before⟩ (toMattermostPostPage payload)).before,
        walkEnds window ⟨progress.before⟩ (toMattermostPostPage payload),
        pagesAfter progress.pages
          (walkEnds window ⟨progress.before⟩ (toMattermostPostPage payload)),
        some payload⟩
  | _, progress, .yield _, _ => { progress with served := none }
  | _, progress, .request _, _ => progress

/-! ## Runs -/

abbrev WalkRun :=
  Library.CrawlRun Channel MattermostRequest CommunityRecordBatch
    (Except CommunityApiError CommunityResourceCoverage) WalkProgress

section Walk

variable (cursorText : CursorText MattermostResourceCursor) (fuel : Nat) (resourceId : String)
  (window : CommunityFetchWindow)

/-- The crawl of a channel on which events happen meanwhile. -/
def walkSystem (channel : Channel) : System WalkRun (CrawlAction ChannelEvent) :=
  CrawlRun.system (fun cursor => iterateRecords cursorText fuel ⟨resourceId, window, cursor⟩)
    (·.cursor) Channel.answer Channel.happen (WalkProgress.begins cursorText)
    (recordWalk window) channel

/-- The posts of the page that is served have their own ids, where they have one. -/
def ServesOwnIds : ∀ {α : Type}, MattermostRequest α → Channel → Prop
  | _, .posts _ before, channel => ∀ entries ∈ channel.followers before,
      ∀ entry ∈ entries.take MATTERMOST_POSTS_PER_PAGE, ∀ raw ∈ entry.post,
      ∀ id ∈ nonEmpty raw.id, id = entry.id
  | _, .usersByIds _, _ => True

/-- The page that is served has no late reply to a post in the window. -/
def ServesNoLateReply : ∀ {α : Type}, MattermostRequest α → Channel → Prop
  | _, .posts _ before, channel => ∀ entries ∈ channel.followers before,
      ∀ entry ∈ entries.take MATTERMOST_POSTS_PER_PAGE, ¬channel.LateReply window entry
  | _, .usersByIds _, _ => True

instance : ∀ {α : Type} (operation : MattermostRequest α) (channel : Channel),
    Decidable (ServesNoLateReply window operation channel)
  | _, .posts _ before, channel => inferInstanceAs (Decidable (∀ entries ∈ channel.followers before,
      ∀ entry ∈ entries.take MATTERMOST_POSTS_PER_PAGE, ¬channel.LateReply window entry))
  | _, .usersByIds _, _ => isTrue trivial

/-- Pages list posts under their own ids. -/
def ListsOwnIds (run : WalkRun) : CrawlAction ChannelEvent → Prop
  | .proceed => run.RequestMeets ServesOwnIds
  | _ => True

/-- Posts from before the end of the window stay as they are. -/
def KeepsWindow (run : WalkRun) : CrawlAction ChannelEvent → Prop
  | .change event => event.KeepsWindow window run.platform
  | _ => True

/-- And no late reply is served. -/
def KeepsWindowApart (run : WalkRun) : CrawlAction ChannelEvent → Prop
  | .proceed => run.RequestMeets (ServesNoLateReply window)
  | .change event => event.KeepsWindow window run.platform
  | .resume _ => True

instance (run : WalkRun) : (action : CrawlAction ChannelEvent) →
    Decidable (KeepsWindow window run action)
  | .change event => inferInstanceAs (Decidable (event.KeepsWindow window run.platform))
  | .proceed | .resume _ => isTrue trivial

instance (run : WalkRun) : (action : CrawlAction ChannelEvent) →
    Decidable (KeepsWindowApart window run action)
  | .change event => inferInstanceAs (Decidable (event.KeepsWindow window run.platform))
  | .proceed => inferInstanceAs (Decidable (run.RequestMeets (ServesNoLateReply window)))
  | .resume _ => isTrue trivial

end Walk

/-! ## The oldest post of a page -/

section Oldest

/-- The first of two dated posts, unless the second is older. -/
def olderOf (oldest : Option OldestPost) (post : MattermostRawPost) : Option OldestPost :=
  match datedPost post, oldest with
  | none, _ => oldest
  | some dated, none => some dated
  | some dated, some earlier =>
      if dated.createdMs < earlier.createdMs then some dated else some earlier

theorem oldestPost_eq_foldl (posts : List MattermostRawPost) :
    oldestPost posts = posts.foldl olderOf none :=
  rfl

theorem olderOf_of_none {post : MattermostRawPost} (undated : datedPost post = none)
    (oldest : Option OldestPost) : olderOf oldest post = oldest := by
  simp [olderOf, undated]

/-- Whatever is chosen is one of the two. -/
theorem olderOf_of_some {post : MattermostRawPost} {dated : OldestPost}
    (found : datedPost post = some dated) (oldest : Option OldestPost) :
    olderOf oldest post = some dated ∨ (oldest.isSome = true ∧ olderOf oldest post = oldest) := by
  cases oldest with
  | none => exact Or.inl (by simp [olderOf, found])
  | some earlier =>
      by_cases older : dated.createdMs < earlier.createdMs
      · exact Or.inl (by simp [olderOf, found, older])
      · exact Or.inr ⟨rfl, by simp [olderOf, found, older]⟩

theorem olderOf_eq_some {oldest : Option OldestPost} {post : MattermostRawPost}
    {found : OldestPost} (chosen : olderOf oldest post = some found) :
    datedPost post = some found ∨ oldest = some found := by
  cases dated : datedPost post with
  | none =>
      rw [olderOf_of_none dated] at chosen
      exact Or.inr chosen
  | some own =>
      rcases olderOf_of_some dated oldest with same | ⟨_, same⟩
      · rw [same] at chosen
        exact Or.inl chosen
      · rw [same] at chosen
        exact Or.inr chosen

theorem foldl_olderOf_eq_some {posts : List MattermostRawPost} {oldest : Option OldestPost}
    {found : OldestPost} (chosen : posts.foldl olderOf oldest = some found) :
    (∃ post ∈ posts, datedPost post = some found) ∨ oldest = some found := by
  induction posts generalizing oldest with
  | nil => exact Or.inr chosen
  | cons post rest ih =>
      rcases ih chosen with ⟨other, member, dated⟩ | here
      · exact Or.inl ⟨other, List.mem_cons_of_mem _ member, dated⟩
      · rcases olderOf_eq_some here with dated | earlier
        · exact Or.inl ⟨post, List.mem_cons_self, dated⟩
        · exact Or.inr earlier

theorem exists_of_oldestPost {posts : List MattermostRawPost} {found : OldestPost}
    (chosen : oldestPost posts = some found) :
    ∃ post ∈ posts, datedPost post = some found := by
  rcases foldl_olderOf_eq_some chosen with found | none
  · exact found
  · cases none

theorem foldl_olderOf_isSome {posts : List MattermostRawPost} {oldest : Option OldestPost}
    (begun : oldest.isSome = true) : (posts.foldl olderOf oldest).isSome = true := by
  induction posts generalizing oldest with
  | nil => exact begun
  | cons post rest ih =>
      apply ih
      cases dated : datedPost post with
      | none =>
          rw [olderOf_of_none dated]
          exact begun
      | some own =>
          rcases olderOf_of_some dated oldest with same | ⟨there, same⟩
          · rw [same]
            rfl
          · rw [same]
            exact there

/-- A page with a dated post has an oldest one. -/
theorem oldestPost_ne_none {post : MattermostRawPost} {rest : List MattermostRawPost}
    {dated : OldestPost} (found : datedPost post = some dated) :
    oldestPost (post :: rest) ≠ none := by
  have begun : (olderOf none post).isSome = true := by
    rcases olderOf_of_some found none with same | ⟨there, _⟩
    · rw [same]
      rfl
    · cases there
  have chosen : (rest.foldl olderOf (olderOf none post)).isSome = true :=
    foldl_olderOf_isSome begun
  intro none
  rw [oldestPost_eq_foldl, List.foldl_cons] at none
  rw [none] at chosen
  cases chosen

end Oldest

/-! ## What an attempt guarantees -/

section Protocol

variable (cursorText : CursorText MattermostResourceCursor) (fuel : Nat) (resourceId : String)
  (window : CommunityFetchWindow) (account : String → Option Bool)

/-- The flag that the server has for an account. -/
def flagOf (account : String → Option Bool) (id : String) : Bool := account id = some true

/-- The rows of a page, with the flags that the server has. -/
def servedRecords (payload : MattermostRawPostList) : List CommunityActivityRecord :=
  mattermostPageRecords (flagOf account) resourceId window (toMattermostPostPage payload)

/-- A page is requested when nothing is left to be yielded, and a batch has its rows. -/
def Guaranteed : ∀ {α : Type}, WalkProgress → Yielding MattermostRequest CommunityRecordBatch α →
    Prop
  | _, progress, .request (.posts _ before) =>
      before = progress.before ∧ progress.ended = false ∧ progress.served = none
  | _, _, .request (.usersByIds _) => True
  | _, progress, .yield batch => batch.cursor = cursorText.stringify ⟨progress.before⟩ ∧
      ∃ payload, progress.served = some payload ∧
        batch.records = servedRecords resourceId window account payload

def CountedOn : ∀ {α : Type}, WalkProgress → Yielding MattermostRequest CommunityRecordBatch α →
    α → Prop
  | _, _, .request (.posts _ _), reply => ∃ payload, reply = .ok payload
  | _, _, .request (.usersByIds ids), reply =>
      reply = .ok (ids.filterMap fun id => (account id).map fun bot => ⟨some id, bot⟩)
  | _, _, .yield _, _ => True

def walkProtocol : Protocol (Yielding MattermostRequest CommunityRecordBatch) WalkProgress where
  guarantees progress operation :=
    Guaranteed cursorText resourceId window account progress operation
  counts progress operation reply := CountedOn account progress operation reply
  record := recordWalk window

/-- The flags that are known are those of the server. -/
def Truthful (bots : BotByAccountId) : Prop :=
  ∀ id flag, bots id = some flag → flag = flagOf account id

variable {cursorText fuel resourceId window account}
variable {bots : BotByAccountId}

theorem Truthful.isBot (truthful : Truthful account bots) {id : String} (known : bots id ≠ none) :
    bots.isBot id = flagOf account id := by
  cases found : bots id with
  | none => exact absurd found known
  | some flag =>
      rw [← truthful id flag found, BotByAccountId.isBot, found]
      simp

/-- An answer tells what the server has on the accounts that were asked for. -/
theorem answered_truthful (ids : List String) (truthful : Truthful account bots) :
    let found := bots.answered
      (ids.filterMap fun id => (account id).map fun bot => ⟨some id, bot⟩)
    Truthful account found ∧ (∀ id, bots id ≠ none → found id ≠ none) ∧
      ∀ id ∈ ids, id ≠ "" → account id ≠ none → found id ≠ none := by
  induction ids generalizing bots with
  | nil => exact ⟨truthful, fun _ known => known, fun _ absent => absurd absent List.not_mem_nil⟩
  | cons asked rest ih =>
      simp only at ih ⊢
      cases own : account asked with
      | none =>
          rw [List.filterMap_cons_none (by rw [own]; rfl)]
          rcases ih truthful with ⟨truthful, kept, found⟩
          refine ⟨truthful, kept, ?_⟩
          intro id member named has
          rcases List.mem_cons.mp member with same | later
          · rw [same] at has
            exact absurd own has
          · exact found id later named has
      | some bot =>
          rw [List.filterMap_cons_some (by rw [own]; rfl), BotByAccountId.answered,
            List.foldl_cons]
          by_cases named : asked = ""
          · have unnamed : nonEmpty (some asked) = none := by
              rw [named]
              rfl
            simp only [unnamed]
            rcases ih truthful with ⟨truthful, kept, found⟩
            refine ⟨truthful, kept, ?_⟩
            intro id member idNamed has
            rcases List.mem_cons.mp member with same | later
            · exact absurd (same.trans named) idNamed
            · exact found id later idNamed has
          · have present : nonEmpty (some asked) = some asked := by
              rw [nonEmpty, Option.filter_some, if_pos (decide_eq_true named)]
            simp only [present]
            have updated : Truthful account (Function.update bots asked (some bot)) := by
              intro id flag known
              by_cases same : id = asked
              · rw [same, Function.update_self] at known
                rw [same, flagOf, own, ← Option.some.inj known]
                simp
              · rw [Function.update_of_ne same] at known
                exact truthful id flag known
            rcases ih updated with ⟨truthful, kept, found⟩
            refine ⟨truthful, ?_, ?_⟩
            · intro id known
              apply kept
              by_cases same : id = asked
              · rw [same, Function.update_self]
                exact Option.some_ne_none _
              · rw [Function.update_of_ne same]
                exact known
            · intro id member idNamed has
              rcases List.mem_cons.mp member with same | later
              · apply kept
                rw [same, Function.update_self]
                exact Option.some_ne_none _
              · exact found id later idNamed has

/-- Accounts were looked up, and nothing else was read. -/
structure LookedUp (account : String → Option Bool) (before : WalkProgress)
    (holds : BotByAccountId → Prop) (after : WalkProgress)
    (result : Except CommunityApiError BotByAccountId) : Prop where
  same : after = before
  found : ∃ bots, result = .ok bots ∧ Truthful account bots ∧ holds bots

theorem lookupChunks_obeys {room : Nat} {unknown : List String} {progress : WalkProgress}
    (enough : unknown.length ≤ room) (truthful : Truthful account bots) :
    (lookupChunks room unknown bots).Obeys
      (walkProtocol cursorText resourceId window account)
      (LookedUp account progress fun found => (∀ id, bots id ≠ none → found id ≠ none) ∧
        ∀ id ∈ unknown, id ≠ "" → account id ≠ none → found id ≠ none) progress := by
  induction room generalizing unknown bots with
  | zero =>
      have empty := List.length_eq_zero_iff.mp (Nat.le_zero.mp enough)
      rw [empty]
      exact Program.obeys_pure ⟨rfl, bots, rfl, truthful, fun _ known => known,
        fun _ absent => absurd absent List.not_mem_nil⟩
  | succ room ih =>
      cases unknown with
      | nil =>
          exact Program.obeys_pure ⟨rfl, bots, rfl, truthful, fun _ known => known,
            fun _ absent => absurd absent List.not_mem_nil⟩
      | cons asked rest =>
          rw [lookupChunks]
          · refine Program.obeys_perform_bind trivial ?_
            intro reply replied
            cases replied
            rcases answered_truthful ((asked :: rest).take MATTERMOST_USER_LOOKUP_CHUNK) truthful
              with ⟨told, kept, found⟩
            have shorter : ((asked :: rest).drop MATTERMOST_USER_LOOKUP_CHUNK).length ≤ room := by
              rw [List.length_drop, MATTERMOST_USER_LOOKUP_CHUNK]
              omega
            refine (ih shorter told).weaken ?_
            intro after result ⟨same, bots, whole, truthful, keptLater, foundLater⟩
            refine ⟨same, bots, whole, truthful, fun id known => keptLater id (kept id known), ?_⟩
            intro id member named has
            rw [← List.take_append_drop MATTERMOST_USER_LOOKUP_CHUNK (asked :: rest),
              List.mem_append] at member
            rcases member with here | later
            · exact keptLater id (found id here named has)
            · exact foundLater id later named has
          · exact fun empty => by cases empty

theorem prime_obeys {accounts : List String} {progress : WalkProgress}
    (named : ∀ id ∈ accounts, id ≠ "") (truthful : Truthful account bots) :
    (prime accounts bots).Obeys (walkProtocol cursorText resourceId window account)
      (LookedUp account progress fun found => ∀ id ∈ accounts, found id ≠ none) progress := by
  rw [prime]
  refine Program.obeys_bind (lookupChunks_obeys (Nat.le_refl _) truthful) ?_
  intro after result ⟨same, found, whole, told, kept, looked⟩
  cases same
  cases whole
  refine Program.obeys_pure ⟨rfl, _, rfl, ?_, ?_⟩
  · intro id flag known
    rw [BotByAccountId.unanswered] at known
    cases own : found id with
    | some other =>
        rw [own] at known
        rw [← Option.some.inj known]
        exact told id other own
    | none =>
        rw [own] at known
        simp only at known
        split at known
        · rename_i asked
          have id_named := named id (mem_distinctBy_id.mp (List.mem_filter.mp asked).1)
          have unanswered : account id = none := by
            by_contra has
            exact looked id asked id_named has own
          rw [flagOf, unanswered, ← Option.some.inj known]
          simp
        · cases known
  · intro query member
    rw [BotByAccountId.unanswered]
    cases own : found query with
    | some flag => exact Option.some_ne_none _
    | none =>
        have unknown : bots query = none := by
          by_contra known
          exact kept query known own
        have asked : query ∈ (distinctBy id accounts).filter fun id => bots id = none :=
          List.mem_filter.mpr ⟨mem_distinctBy_id.mpr member, decide_eq_true unknown⟩
        simp only
        rw [if_pos asked]
        exact Option.some_ne_none _

theorem toScoreablePost_userId {raw : MattermostRawPost} {post : MattermostPost}
    (scoreable : toScoreablePost raw = some post) : post.userId ≠ "" := by
  rw [toScoreablePost] at scoreable
  split at scoreable
  · cases scoreable
  · split at scoreable
    · cases scoreable
    · split at scoreable
      · rename_i named _
        cases scoreable
        exact of_decide_eq_true (Option.filter_eq_some_iff.mp named).2
      · cases scoreable

theorem accountIds_named {page : MattermostPostPage} {id : String}
    (member : id ∈ accountIds page) : id ≠ "" := by
  rcases List.mem_flatMap.mp member with ⟨post, listed, own⟩
  rcases List.mem_filterMap.mp listed with ⟨raw, _, scoreable⟩
  rcases List.mem_cons.mp own with same | rootMember
  · rw [same]
    exact toScoreablePost_userId scoreable
  · rcases Option.map_eq_some_iff.mp (Option.mem_toList.mp rootMember) with ⟨root, found, same⟩
    rcases Option.bind_eq_some_iff.mp found with ⟨rootRaw, _, rootScoreable⟩
    rw [← same]
    exact toScoreablePost_userId rootScoreable

/-- The rows of a page depend on the flags of its accounts only. -/
theorem mattermostPageRecords_congr {isBot other : String → Bool} {page : MattermostPostPage}
    (same : ∀ id ∈ accountIds page, isBot id = other id) :
    mattermostPageRecords isBot resourceId window page =
      mattermostPageRecords other resourceId window page := by
  rw [mattermostPageRecords, mattermostPageRecords]
  apply List.flatMap_congr
  intro raw listed
  apply List.flatMap_congr
  intro post scoreable
  have member : post ∈ page.posts.filterMap toScoreablePost :=
    List.mem_filterMap.mpr ⟨raw, listed, Option.mem_toList.mp scoreable⟩
  have own : isBot post.userId = other post.userId :=
    same _ (List.mem_flatMap.mpr ⟨post, member, List.mem_cons_self⟩)
  have ownRecord (type : String) (counterparty : Option String) (count : Nat) :
      postRecord isBot resourceId post type counterparty count =
        postRecord other resourceId post type counterparty count := by
    rw [postRecord, postRecord, own]
  have received : (rootPost post page).toList.map (rootRecord isBot resourceId post) =
      (rootPost post page).toList.map (rootRecord other resourceId post) := by
    apply List.map_congr_left
    intro root found
    have rootSame : isBot root.userId = other root.userId := by
      refine same _ (List.mem_flatMap.mpr ⟨post, member, List.mem_cons_of_mem _ ?_⟩)
      rw [Option.mem_toList.mp found]
      exact List.mem_singleton_self _
    rw [rootRecord, rootRecord, rootSame]
  simp only [toMattermostActivityRecords, ownRecord, received]

/-- The walk was read to its end. -/
structure WalkRead (fuel : Nat) (resourceId : String) (after : WalkProgress)
    (result : Except CommunityApiError CommunityResourceCoverage) : Prop where
  failed : ∀ error, result = .error error → fuel ≤ after.pages
  read : ∀ outcome, result = .ok outcome → outcome = coverage resourceId .complete none ∧
    after.ended = true ∧ after.served = none

theorem walk_obeys {gas : Nat} {cursor : MattermostResourceCursor} {progressProven : Bool}
    {progress : WalkProgress} (truthful : Truthful account bots)
    (enough : fuel ≤ gas + progress.pages) (at_ : cursor = ⟨progress.before⟩)
    (going : progress.ended = false) (empty : progress.served = none) :
    (walk cursorText resourceId window gas cursor progressProven bots).Obeys
      (walkProtocol cursorText resourceId window account) (WalkRead fuel resourceId)
      progress := by
  induction gas generalizing cursor progress progressProven bots with
  | zero =>
      refine Program.obeys_pure ⟨?_, ?_⟩
      · intro error _
        omega
      · intro outcome whole
        cases whole
  | succ gas ih =>
      cases at_
      rw [walk]
      refine Program.obeys_perform_bind ⟨rfl, going, empty⟩ ?_
      intro reply ⟨payload, replied⟩
      cases replied
      refine Program.obeys_bind (prime_obeys (fun id => accountIds_named) truthful) ?_
      intro after result ⟨same, found, whole, told, known⟩
      cases same
      cases whole
      refine Program.obeys_perform_bind ⟨rfl, payload, rfl, ?_⟩ ?_
      · exact mattermostPageRecords_congr fun id member => told.isBot (known id member)
      · intro _ _
        cases ends : walkEnds window ⟨progress.before⟩ (toMattermostPostPage payload) with
        | true =>
            rw [if_pos rfl]
            refine Program.obeys_pure ⟨?_, ?_⟩
            · intro error failed
              cases failed
            · intro outcome whole
              cases whole
              exact ⟨rfl, ends, rfl⟩
        | false =>
            rw [if_neg Bool.false_ne_true]
            have recorded : (walkProtocol cursorText resourceId window account).record
                ((walkProtocol cursorText resourceId window account).record progress
                  (.request (.posts resourceId progress.before)) (.ok payload))
                (.yield ⟨mattermostPageRecords found.isBot resourceId window
                  (toMattermostPostPage payload), cursorText.stringify
                  (nextCursor ⟨progress.before⟩ (toMattermostPostPage payload))⟩) () =
                ⟨(nextCursor ⟨progress.before⟩ (toMattermostPostPage payload)).before, false,
                  progress.pages + 1, none⟩ := by
              simp only [walkProtocol, recordWalk, ends, pagesAfter]
              rfl
            rw [recorded]
            refine ih told ?_ rfl rfl rfl
            rw [Nat.add_right_comm] at enough
            exact enough

theorem truthful_none : Truthful account fun _ => none := by
  intro id flag known
  cases known

theorem iterateRecords_obeys (cursor : Option String) :
    (iterateRecords cursorText fuel ⟨resourceId, window, cursor⟩).Obeys
      (walkProtocol cursorText resourceId window account) (WalkRead fuel resourceId)
      (WalkProgress.begins cursorText cursor) :=
  walk_obeys truthful_none (Nat.le_add_right fuel 0) rfl rfl rfl

end Protocol

/-! ## Where the walk is -/

section Located

variable (cursorText : CursorText MattermostResourceCursor) (account : String → Option Bool)

/-- A cursor from which the walk can go on. -/
def Placed (platform : Channel) (batch : CommunityRecordBatch) : Prop :=
  ∃ cursor : MattermostResourceCursor, batch.cursor = cursorText.stringify cursor ∧
    ∃ rest, platform.followers cursor.before = some rest

/-- Each page after which the walk goes on leaves fewer posts to follow. -/
structure Located (platform : Channel) (yielded : List CommunityRecordBatch)
    (progress : WalkProgress) : Prop where
  account : platform.account = account
  place : ∃ rest, platform.followers progress.before = some rest ∧
    progress.pages + rest.length ≤ platform.entries.length
  cursors : ∀ batch ∈ yielded, Placed cursorText platform batch

variable {cursorText account} {window : CommunityFetchWindow} {resourceId : String}
variable {platform after : Channel} {yielded : List CommunityRecordBatch}
  {progress : WalkProgress}

theorem located_begin (channel : Channel) :
    Located cursorText channel.account channel [] (WalkProgress.begins cursorText none) where
  account := rfl
  place := ⟨channel.entries, rfl, Nat.le_of_eq (Nat.zero_add _)⟩
  cursors _ none := absurd none List.not_mem_nil

theorem Located.change {event : ChannelEvent}
    (located : Located cursorText account platform yielded progress)
    (happened : Channel.happen event platform = some after) :
    Located cursorText account after yielded progress where
  account := (Channel.account_of_happen happened).trans located.account
  place := by
    rcases located.place with ⟨rest, followed, room⟩
    rcases Channel.followers_of_happen happened followed with ⟨later, followedLater, _, keeps⟩
    exact ⟨later, followedLater, keeps _ room⟩
  cursors := by
    intro batch member
    rcases located.cursors batch member with ⟨cursor, text, rest, followed⟩
    rcases Channel.followers_of_happen happened followed with ⟨later, followedLater, _⟩
    exact ⟨cursor, text, later, followedLater⟩

/-- The cursor of an attempt after the batches that are kept. -/
theorem parseCursor_cursorAfter (cursorText : CursorText MattermostResourceCursor)
    (kept : List CommunityRecordBatch) :
    (kept = [] ∧ (WalkProgress.begins cursorText
        (CrawlRun.cursorAfter (·.cursor) kept)).before = none) ∨
      ∃ batch, kept.getLast? = some batch ∧ ∀ cursor, batch.cursor = cursorText.stringify cursor →
        (WalkProgress.begins cursorText (CrawlRun.cursorAfter (·.cursor) kept)).before =
          cursor.before := by
  cases last : kept.getLast? with
  | none =>
      have empty := List.getLast?_eq_none_iff.mp last
      exact Or.inl ⟨empty, by rw [empty]; rfl⟩
  | some batch =>
      refine Or.inr ⟨batch, rfl, ?_⟩
      intro cursor text
      rw [CrawlRun.cursorAfter, last, Option.map_some, WalkProgress.begins, parseCursor, text,
        cursorText.parse_stringify]
      rfl

theorem Located.resume (located : Located cursorText account platform yielded progress)
    (kept : Nat) :
    Located cursorText account platform (yielded.take kept) (WalkProgress.begins cursorText
      (CrawlRun.cursorAfter (·.cursor) (yielded.take kept))) where
  account := located.account
  cursors batch member := located.cursors batch (List.mem_of_mem_take member)
  place := by
    rcases parseCursor_cursorAfter cursorText (yielded.take kept) with ⟨_, begun⟩ | ⟨batch, last, at_⟩
    · rw [begun]
      exact ⟨platform.entries, rfl, Nat.le_of_eq (Nat.zero_add _)⟩
    · rcases located.cursors batch (List.mem_of_mem_take (List.mem_of_getLast? last))
        with ⟨cursor, text, rest, followed⟩
      rcases Channel.split_of_followers followed with ⟨front, whole, _⟩
      have room : 0 + rest.length ≤ platform.entries.length := by
        rw [whole, List.length_append]
        omega
      rw [at_ cursor text]
      exact ⟨rest, followed, room⟩

/-- The oldest post of a page is that of an entry. -/
theorem exists_of_oldest {channel : Channel} {page : List ChannelEntry}
    (within : ∀ entry ∈ page, entry ∈ channel.entries) {oldest : OldestPost}
    (chosen : oldestPost (toMattermostPostPage (channel.payload page)).posts = some oldest) :
    ∃ entry ∈ page, ∃ raw ∈ entry.post, nonEmpty raw.id = some oldest.id ∧
      raw.create_at = some oldest.createdMs := by
  rw [Channel.payload_posts within] at chosen
  rcases exists_of_oldestPost chosen with ⟨raw, listed, dated⟩
  rcases List.mem_filterMap.mp listed with ⟨entry, member, own⟩
  refine ⟨entry, member, raw, own, ?_⟩
  rw [datedPost] at dated
  split at dated
  · rename_i named created
    cases dated
    exact ⟨named, created⟩
  · cases dated

theorem mem_entries_of_followers {before : Option String} {entries : List ChannelEntry}
    (followed : platform.followers before = some entries) {entry : ChannelEntry}
    (member : entry ∈ entries) : entry ∈ platform.entries := by
  rcases Channel.split_of_followers followed with ⟨front, whole, _⟩
  rw [whole]
  exact List.mem_append_right _ member

/-- A page is served after the post that was asked for. -/
theorem answer_posts {before : Option String} {entries : List ChannelEntry}
    (followed : platform.followers before = some entries) :
    Channel.answer (.posts resourceId before) platform =
      .ok (platform.payload (entries.take MATTERMOST_POSTS_PER_PAGE)) := by
  rw [Channel.answer, followed]

theorem Located.served (window : CommunityFetchWindow) (channelId : String)
    (located : Located cursorText account platform yielded progress)
    {entries : List ChannelEntry} (followed : platform.followers progress.before = some entries)
    (own : ∀ entry ∈ entries.take MATTERMOST_POSTS_PER_PAGE, ∀ raw ∈ entry.post,
      ∀ id ∈ nonEmpty raw.id, id = entry.id) :
    Located cursorText account platform yielded (recordWalk window progress
      (.request (.posts channelId progress.before))
      (.ok (platform.payload (entries.take MATTERMOST_POSTS_PER_PAGE)))) where
  account := located.account
  cursors := located.cursors
  place := by
    rcases located.place with ⟨rest, same, room⟩
    rw [followed] at same
    cases same
    have within (entry : ChannelEntry)
        (member : entry ∈ entries.take MATTERMOST_POSTS_PER_PAGE) : entry ∈ platform.entries :=
      mem_entries_of_followers followed (List.mem_of_mem_take member)
    simp only [recordWalk, nextCursor, walkEnds]
    cases chosen : oldestPost (toMattermostPostPage
        (platform.payload (entries.take MATTERMOST_POSTS_PER_PAGE))).posts with
    | none => exact ⟨entries, followed, room⟩
    | some oldest =>
        rcases exists_of_oldest within chosen with ⟨entry, member, raw, stored, named, _⟩
        rcases List.append_of_mem (List.mem_of_mem_take member) with ⟨front, rest, split⟩
        have later := Channel.followers_of_split followed split
        rw [← own entry member raw stored oldest.id named] at later
        refine ⟨rest, later, ?_⟩
        have shorter : rest.length < entries.length := by
          rw [split, List.length_append, List.length_cons]
          omega
        exact Nat.le_trans (Nat.add_le_add_right (pagesAfter_le _ _) _) (by omega)

theorem Located.yield (located : Located cursorText account platform yielded progress)
    {batch : CommunityRecordBatch}
    (cursor : batch.cursor = cursorText.stringify ⟨progress.before⟩) :
    Located cursorText account platform (yielded ++ [batch]) { progress with served := none } where
  account := located.account
  place := located.place
  cursors := by
    intro other member
    rcases List.mem_append.mp member with earlier | last
    · exact located.cursors other earlier
    · rw [List.mem_singleton.mp last]
      rcases located.place with ⟨rest, followed, _⟩
      exact ⟨_, cursor, rest, followed⟩

/-- Accounts are looked up between a page and its batch. -/
theorem answer_usersByIds (located : Located cursorText account platform yielded progress)
    (ids : List String) :
    CountedOn account progress (.request (.usersByIds ids))
      (Channel.answer (.usersByIds ids) platform) := by
  rw [CountedOn, Channel.answer, located.account]

variable {fuel : Nat}

/-- The walk ends on every channel that lists its posts under their own ids. -/
theorem walk_ends {channel : Channel} {run : WalkRun}
    {result : Except CommunityApiError CommunityResourceCoverage}
    (reachable : (walkSystem cursorText fuel resourceId window channel).Reachable ListsOwnIds run)
    (ended : run.result = some result) (fits : run.platform.entries.length < fuel) :
    result = .ok (coverage resourceId .complete none) := by
  have walked := CrawlRun.protocol_invariant
    (walkProtocol cursorText resourceId window channel.account) (WalkRead fuel resourceId)
    (Located cursorText channel.account) (located_begin channel) (iterateRecords_obeys none)
    ?requested ?yields ?resumed ?changed reachable
  · rcases walked with ⟨located, obeyed⟩
    rw [CrawlRun.running_of_result ended] at obeyed
    have read : WalkRead fuel resourceId run.progress result := obeyed
    rcases located.place with ⟨rest, _, room⟩
    cases result with
    | error error =>
        have used := read.failed error rfl
        omega
    | ok outcome => rw [(read.read outcome rfl).1]
  case requested =>
    intro α operation next run asked allowed located guaranteed
    cases operation with
    | usersByIds ids => exact ⟨answer_usersByIds located ids, located⟩
    | posts channelId before =>
        rcases guaranteed with ⟨same, _, _⟩
        cases same
        rcases located.place with ⟨rest, followed, _⟩
        have own := CrawlRun.RequestMeets.of_request allowed asked rest followed
        rw [answer_posts followed]
        exact ⟨⟨_, rfl⟩, located.served window channelId followed own⟩
  case yields =>
    intro batch platform yielded progress located guaranteed
    exact ⟨trivial, located.yield guaranteed.1⟩
  case resumed =>
    intro run kept located _
    exact ⟨located.resume kept, iterateRecords_obeys _⟩
  case changed =>
    intro run event after located _ happened
    exact located.change happened

end Located

end Mattermost

end Reputo.Community

import Reputo.Community.MattermostFetch
import Reputo.Library.Crawl

/-!
# A channel in use

The posts of a channel, newest first.  A page lists the posts that follow a given one, with
the roots of their threads.  New posts come at the front; a listed post may be malformed, or
missing from the posts of the page.
-/

namespace Reputo.Community

open Reputo.Library

namespace Mattermost

/-- A place of the listing, and what the posts of a page have under its id. -/
structure ChannelEntry where
  id : String
  post : Option MattermostRawPost
  deriving DecidableEq, Repr

/-- The entries newest first, and the flags of the accounts. -/
structure Channel where
  entries : List ChannelEntry
  nodup : (entries.map (·.id)).Nodup
  account : String → Option Bool

/-- A post is added at the front, or edited in its place. -/
inductive ChannelEvent where
  | add (entry : ChannelEntry)
  | edit (id : String) (post : Option MattermostRawPost)
  deriving DecidableEq, Repr

def ChannelEntry.editedTo (entry : ChannelEntry) (id : String) (post : Option MattermostRawPost) :
    ChannelEntry :=
  if entry.id = id then { entry with post } else entry

theorem ChannelEntry.id_editedTo (entry : ChannelEntry) (id : String)
    (post : Option MattermostRawPost) : (entry.editedTo id post).id = entry.id := by
  rw [editedTo]
  split <;> rfl

/-- The entries after the one with an id. -/
def entriesAfter (id : String) : List ChannelEntry → Option (List ChannelEntry)
  | [] => none
  | entry :: rest => if entry.id = id then some rest else entriesAfter id rest

namespace Channel

def add (channel : Channel) (entry : ChannelEntry)
    (fresh : entry.id ∉ channel.entries.map (·.id)) : Channel where
  entries := entry :: channel.entries
  nodup := List.nodup_cons.mpr ⟨fresh, channel.nodup⟩
  account := channel.account

def edit (channel : Channel) (id : String) (post : Option MattermostRawPost) : Channel where
  entries := channel.entries.map (·.editedTo id post)
  nodup := by
    rw [List.map_map, show ((·.id) ∘ fun entry => ChannelEntry.editedTo entry id post) = (·.id) from
      funext fun entry => entry.id_editedTo id post]
    exact channel.nodup
  account := channel.account

def happen (event : ChannelEvent) (channel : Channel) : Option Channel :=
  match event with
  | .add entry =>
      if fresh : entry.id ∉ channel.entries.map (·.id) then some (channel.add entry fresh)
      else none
  | .edit id post => some (channel.edit id post)

/-- What is stored under an id. -/
def postOf (channel : Channel) (id : String) : Option MattermostRawPost :=
  (channel.entries.find? (·.id = id)).bind (·.post)

/-- The entries that follow a post, or all of them. -/
def followers (channel : Channel) : Option String → Option (List ChannelEntry)
  | none => some channel.entries
  | some id => entriesAfter id channel.entries

def rootIds (entries : List ChannelEntry) : List String :=
  entries.filterMap fun entry => entry.post.bind fun raw => nonEmpty raw.root_id

/-- A page of entries, with the posts that are listed and the roots of their threads. -/
def payload (channel : Channel) (entries : List ChannelEntry) : MattermostRawPostList where
  order := entries.map (·.id)
  posts := (entries.map (·.id) ++ rootIds entries).filterMap fun id =>
    (channel.postOf id).map (id, ·)

def answer : ∀ {α : Type}, MattermostRequest α → Channel → α
  | _, .posts _ before, channel => match channel.followers before with
      | none => .error (.http 404)
      | some entries => .ok (channel.payload (entries.take MATTERMOST_POSTS_PER_PAGE))
  | _, .usersByIds ids, channel =>
      .ok (ids.filterMap fun id => (channel.account id).map fun bot => ⟨some id, bot⟩)

/-- The whole channel as one page. -/
def wholePage (channel : Channel) : MattermostPostPage where
  posts := channel.entries.filterMap (·.post)
  byId := channel.postOf

/-! ## Events -/

section Happen

variable {channel after : Channel} {entry : ChannelEntry}

-- The equations are made here, once for all proofs below.
section
attribute [local simp] entriesAfter
end

theorem happen_add (happened : happen (.add entry) channel = some after) :
    ∃ fresh : entry.id ∉ channel.entries.map (·.id), after = channel.add entry fresh := by
  rw [happen] at happened
  split at happened
  · rename_i fresh
    exact ⟨fresh, (Option.some.inj happened).symm⟩
  · cases happened

theorem account_of_happen {event : ChannelEvent} (happened : happen event channel = some after) :
    after.account = channel.account := by
  cases event with
  | add entry =>
      rcases happen_add happened with ⟨fresh, same⟩
      rw [same]
      rfl
  | edit id post =>
      cases happened
      rfl

theorem entriesAfter_map_editedTo (before id : String) (post : Option MattermostRawPost)
    (entries : List ChannelEntry) :
    entriesAfter before (entries.map (·.editedTo id post)) =
      (entriesAfter before entries).map fun rest => rest.map (·.editedTo id post) := by
  induction entries with
  | nil => rfl
  | cons entry rest ih =>
      rw [List.map_cons, entriesAfter, entriesAfter, ChannelEntry.id_editedTo]
      split
      · rfl
      · exact ih

theorem mem_ids_of_entriesAfter {before : String} {entries rest : List ChannelEntry}
    (found : entriesAfter before entries = some rest) : before ∈ entries.map (·.id) := by
  induction entries with
  | nil => cases found
  | cons entry others ih =>
      rw [entriesAfter] at found
      split at found
      · rename_i here
        rw [List.map_cons, here]
        exact List.mem_cons_self
      · exact List.mem_cons_of_mem _ (ih found)

/-- What follows an entry stands behind it. -/
theorem split_of_entriesAfter {before : String} {entries rest : List ChannelEntry}
    (found : entriesAfter before entries = some rest) :
    ∃ front entry, entries = front ++ entry :: rest ∧ entry.id = before := by
  induction entries with
  | nil => cases found
  | cons entry others ih =>
      rw [entriesAfter] at found
      split at found
      · rename_i here
        cases found
        exact ⟨[], entry, rfl, here⟩
      · rcases ih found with ⟨front, named, split, same⟩
        exact ⟨entry :: front, named, congrArg (entry :: ·) split, same⟩

theorem entriesAfter_append {front rest : List ChannelEntry} {entry : ChannelEntry}
    (nodup : ((front ++ entry :: rest).map (·.id)).Nodup) :
    entriesAfter entry.id (front ++ entry :: rest) = some rest := by
  induction front with
  | nil => rw [List.nil_append, entriesAfter, if_pos rfl]
  | cons first others ih =>
      rw [List.cons_append, List.map_cons, List.nodup_cons] at nodup
      have other : first.id ≠ entry.id := by
        intro same
        apply nodup.1
        rw [same]
        exact List.mem_map_of_mem (List.mem_append_right _ List.mem_cons_self)
      rw [List.cons_append, entriesAfter, if_neg other]
      exact ih nodup.2

/-- The followers of a post are the last entries of the channel, without the post. -/
theorem split_of_followers {before : Option String} {entries : List ChannelEntry}
    (found : channel.followers before = some entries) :
    ∃ front, channel.entries = front ++ entries ∧ ∀ id ∈ before, id ∉ entries.map (·.id) := by
  cases before with
  | none =>
      cases found
      exact ⟨[], rfl, fun _ none => by cases none⟩
  | some id =>
      rcases split_of_entriesAfter found with ⟨front, entry, split, named⟩
      refine ⟨front ++ [entry], ?_, ?_⟩
      · rw [split, List.append_assoc]
        rfl
      · intro other same
        cases same
        have nodup := channel.nodup
        rw [split, List.map_append, List.map_cons, named] at nodup
        exact (List.nodup_cons.mp (List.nodup_append.mp nodup).2.1).1

/-- What stands behind a follower follows it. -/
theorem followers_of_split {before : Option String} {entries front rest : List ChannelEntry}
    {entry : ChannelEntry} (found : channel.followers before = some entries)
    (split : entries = front ++ entry :: rest) :
    channel.followers (some entry.id) = some rest := by
  rcases split_of_followers found with ⟨first, whole, _⟩
  have all : channel.entries = (first ++ front) ++ entry :: rest := by
    rw [whole, split, List.append_assoc]
  have nodup := channel.nodup
  rw [all] at nodup
  rw [followers, all]
  exact entriesAfter_append nodup

/-- What follows a post keeps its places, whatever happens. -/
theorem ids_followers_of_happen {event : ChannelEvent} {before : String}
    {rest : List ChannelEntry} (happened : happen event channel = some after)
    (found : entriesAfter before channel.entries = some rest) :
    ∃ later, entriesAfter before after.entries = some later ∧
      later.map (·.id) = rest.map (·.id) := by
  cases event with
  | add entry =>
      rcases happen_add happened with ⟨fresh, same⟩
      have other : entry.id ≠ before := by
        intro same
        rw [same] at fresh
        exact fresh (mem_ids_of_entriesAfter found)
      refine ⟨rest, ?_, rfl⟩
      rw [same, add, entriesAfter, if_neg other]
      exact found
  | edit id post =>
      cases happened
      refine ⟨rest.map (·.editedTo id post), ?_, ?_⟩
      · rw [edit, entriesAfter_map_editedTo, found]
        rfl
      · rw [List.map_map]
        exact List.map_congr_left fun entry _ => entry.id_editedTo id post

theorem length_le_of_happen {event : ChannelEvent} (happened : happen event channel = some after) :
    channel.entries.length ≤ after.entries.length := by
  cases event with
  | add entry =>
      rcases happen_add happened with ⟨fresh, same⟩
      rw [same]
      exact Nat.le_succ _
  | edit id post =>
      cases happened
      exact Nat.le_of_eq (List.length_map _).symm

/-- A post is followed by those that followed it; so many pages leave room for them. -/
theorem followers_of_happen {event : ChannelEvent} {before : Option String}
    {rest : List ChannelEntry} (happened : happen event channel = some after)
    (found : channel.followers before = some rest) :
    ∃ later, after.followers before = some later ∧
      (∀ id ∈ rest.map (·.id), id ∈ later.map (·.id)) ∧
      ∀ pages, pages + rest.length ≤ channel.entries.length →
        pages + later.length ≤ after.entries.length := by
  cases before with
  | some id =>
      rcases ids_followers_of_happen happened found with ⟨later, followed, same⟩
      refine ⟨later, followed, fun id member => same ▸ member, ?_⟩
      intro pages room
      have lengths := congrArg List.length same
      rw [List.length_map, List.length_map] at lengths
      have grown := length_le_of_happen happened
      omega
  | none =>
      cases found
      refine ⟨after.entries, rfl, ?_, ?_⟩
      · intro id member
        cases event with
        | add entry =>
            rcases happen_add happened with ⟨fresh, same⟩
            rw [same]
            exact List.mem_cons_of_mem _ member
        | edit edited post =>
            cases happened
            rw [edit, List.map_map, List.map_congr_left fun entry _ => entry.id_editedTo edited post]
            exact member
      · intro pages room
        omega

end Happen

/-! ## Pages -/

section Pages

theorem lookup_filterMap {β : Type} (keys : List String) (find : String → Option β)
    (query : String) :
    List.lookup query (keys.filterMap fun id => (find id).map (id, ·)) =
      if query ∈ keys then find query else none := by
  induction keys with
  | nil => rfl
  | cons key rest ih =>
      by_cases same : query = key
      · rw [if_pos (by rw [same]; exact List.mem_cons_self), ← same]
        cases found : find query with
        | none =>
            rw [List.filterMap_cons_none (by rw [found]; rfl), ih, found, ite_self]
        | some value =>
            rw [List.filterMap_cons_some (by rw [found]; rfl), List.lookup_cons_self]
      · have others : query ∈ key :: rest ↔ query ∈ rest := by
          rw [List.mem_cons]
          exact or_iff_right same
        simp only [others, ← ih]
        cases found : find key with
        | none => rw [List.filterMap_cons_none (by rw [found]; rfl)]
        | some value =>
            have apart : (query == key) = false := beq_eq_false_iff_ne.mpr same
            rw [List.filterMap_cons_some (by rw [found]; rfl), List.lookup_cons, apart]

variable {channel : Channel} {page : List ChannelEntry}

theorem postOf_of_mem {entry : ChannelEntry} (member : entry ∈ channel.entries) :
    channel.postOf entry.id = entry.post := by
  rw [postOf]
  cases found : channel.entries.find? (·.id = entry.id) with
  | none =>
      have missing := List.find?_eq_none.mp found entry member
      simp at missing
  | some other =>
      have same : other.id = entry.id := by simpa using List.find?_some found
      rw [List.inj_on_of_nodup_map channel.nodup (List.mem_of_find?_eq_some found) member same]
      rfl

theorem payload_byId (channel : Channel) (page : List ChannelEntry) (id : String) :
    (toMattermostPostPage (channel.payload page)).byId id =
      if id ∈ page.map (·.id) ++ rootIds page then channel.postOf id else none :=
  lookup_filterMap _ _ id

/-- A page has the posts of its entries, apart from those that are missing. -/
theorem payload_posts (within : ∀ entry ∈ page, entry ∈ channel.entries) :
    (toMattermostPostPage (channel.payload page)).posts = page.filterMap (·.post) := by
  have listed (entry : ChannelEntry) (member : entry ∈ page) :
      (toMattermostPostPage (channel.payload page)).byId entry.id = entry.post := by
    rw [payload_byId, if_pos (List.mem_append_left _ (List.mem_map_of_mem member)),
      postOf_of_mem (within entry member)]
  have order : (toMattermostPostPage (channel.payload page)).posts =
      page.filterMap fun entry => (toMattermostPostPage (channel.payload page)).byId entry.id :=
    List.filterMap_map
  rw [order]
  exact List.filterMap_congr listed

theorem toScoreablePost_rootId {raw : MattermostRawPost} {post : MattermostPost}
    (scoreable : toScoreablePost raw = some post) : post.rootId = nonEmpty raw.root_id := by
  rw [toScoreablePost] at scoreable
  split at scoreable
  · cases scoreable
  · split at scoreable
    · cases scoreable
    · split at scoreable
      · cases scoreable
        rfl
      · cases scoreable

/-- The root of a listed reply is the one of the channel. -/
theorem payload_rootPost {entry : ChannelEntry} {raw : MattermostRawPost} {post : MattermostPost}
    (member : entry ∈ page) (own : entry.post = some raw)
    (scoreable : toScoreablePost raw = some post) :
    rootPost post (toMattermostPostPage (channel.payload page)) =
      rootPost post channel.wholePage := by
  rw [rootPost, rootPost]
  cases root : post.rootId with
  | none => rfl
  | some id =>
      have carried : id ∈ rootIds page := by
        rw [rootIds, List.mem_filterMap]
        refine ⟨entry, member, ?_⟩
        rw [own, Option.bind_some, ← toScoreablePost_rootId scoreable, root]
      rw [Option.bind_some, Option.bind_some, payload_byId,
        if_pos (List.mem_append_right _ carried)]
      rfl

end Pages

end Channel

end Mattermost

end Reputo.Community

import Mathlib.Data.List.Dedup
import Mathlib.Data.List.Perm.Subperm
import Reputo.Deepfunding.Mirror

/-!
# Each item once

The mirror holds each item once exactly as far as the portal serves each item once, and the
page loops end exactly if a null page is reached.
-/

namespace Reputo.Deepfunding

open Reputo.Library

variable {α ρ σ : Type} {κ : Type}

/-! ## What is served, and what is stored -/

/-- An endpoint serves items up to where `next_page` is null. -/
def Serves (endpoint : Endpoint α) (items : List α) : Prop :=
  ∃ fuel pages, fetchPages endpoint fuel 0 firstPage = some pages ∧
    items = pages.flatMap (·.data)

/-- One record is stored for each distinct item. -/
def StoresOnce (key : α → κ) (normalize : α → ρ) (served : List α) (stored : List ρ) : Prop :=
  ∃ kept : List α, stored = kept.map normalize ∧ (kept.map key).Nodup ∧
    (∀ item ∈ kept, item ∈ served) ∧ ∀ item ∈ served, key item ∈ kept.map key

/-- What a portal serves in pages. -/
structure Served where
  milestones : List Milestone
  reviews : List Review
  comments : List Comment
  votes : List CommentVote
  users : List User

structure Portal.ServesAll (portal : Portal) (served : Served) : Prop where
  milestones : Serves portal.milestonePages served.milestones
  reviews : Serves portal.reviews served.reviews
  comments : Serves portal.comments served.comments
  votes : Serves portal.votes served.votes
  users : Serves portal.users served.users

structure DeepFundingPortalDb.StoresEachOnce (db : DeepFundingPortalDb) (served : Served) :
    Prop where
  milestones : StoresOnce (·.id) normalizeMilestoneToRecord served.milestones
    (db.milestones.rows.map Prod.snd)
  reviews : StoresOnce (·.review_id) normalizeReviewToRecord served.reviews
    (db.reviews.rows.map Prod.snd)
  comments : StoresOnce (·.comment_id) normalizeCommentToRecord served.comments
    db.comments.rows
  votes : StoresOnce (fun vote => (vote.voter_id, vote.comment_id)) normalizeCommentVoteToRecord
    served.votes db.commentVotes.rows
  users : StoresOnce (·.id) normalizeUserToRecord served.users db.users.rows

/-- Where the lists reach null, and what is served whole can be stored, the mirror is made and
holds each item once. -/
def MirrorsEachOnce (portal : Portal) : Prop :=
  ∀ served base, portal.ServesAll served → mirrorWhole portal = .ok base →
    ∃ fuel db, deepfundingSync none portal fuel = some (.ok db) ∧ db.StoresEachOnce served

/-- The `next_page` that a loop comes to after some requests. -/
def nextAt (endpoint : Endpoint α) : Nat → NextPage
  | 0 => firstPage
  | count + 1 =>
      match (nextAt endpoint count).request with
      | none => .null
      | some page => (endpoint count page).pagination.next_page

/-- A `next_page` that does not advance from the page that was asked for. -/
def NextPage.Behind (page : Option Int) : NextPage → Prop
  | .null => False
  | .missing => True
  | .number next => ∃ asked, page = some asked ∧ next ≤ asked

/-- Some response does not advance. -/
def Stalls (endpoint : Endpoint α) : Prop :=
  ∃ count page, (nextAt endpoint count).request = some page ∧
    (nextAt endpoint (count + 1)).Behind page

/-- The page loops end on responses that stop advancing. -/
structure PageLoopsEnd (portal : Portal) : Prop where
  milestones : Stalls portal.milestonePages → ∃ fuel, (portal.fetchMilestones fuel).isSome
  reviews : Stalls portal.reviews → ∃ fuel, (portal.fetchReviews fuel).isSome
  comments : Stalls portal.comments → ∃ fuel, (portal.fetchComments fuel).isSome
  votes : Stalls portal.votes → ∃ fuel, (portal.fetchCommentVotes fuel).isSome
  users : Stalls portal.users → ∃ fuel, (portal.fetchUsers fuel).isSome

/-! ## When that is so -/

/-- No item is served twice. -/
structure Served.Distinct (served : Served) : Prop where
  milestones : (served.milestones.map (·.id)).Nodup
  reviews : (served.reviews.map (·.review_id)).Nodup
  comments : (served.comments.map (·.comment_id)).Nodup
  votes : (served.votes.map fun vote => (vote.voter_id, vote.comment_id)).Nodup
  users : (served.users.map (·.id)).Nodup

/-- A portal whose lists all reach null serves no item twice. -/
def ServesEachOnce (portal : Portal) : Prop :=
  ∀ served base, portal.ServesAll served → mirrorWhole portal = .ok base → served.Distinct

/-- A response that does not advance is followed by a null page. -/
def RecoversFromStalls (endpoint : Endpoint α) : Prop :=
  Stalls endpoint → ∃ count, nextAt endpoint count = .null

structure Portal.Recovers (portal : Portal) : Prop where
  milestones : RecoversFromStalls portal.milestonePages
  reviews : RecoversFromStalls portal.reviews
  comments : RecoversFromStalls portal.comments
  votes : RecoversFromStalls portal.votes
  users : RecoversFromStalls portal.users

/-! ## Chunks -/

theorem flatten_slices (array : List α) (size chunks : Nat) :
    ((List.range chunks).map fun position =>
      (array.drop (position * size)).take size).flatten = array.take (chunks * size) := by
  induction chunks with
  | zero => simp
  | succ chunks ih =>
      rw [List.range_succ, List.map_append, List.flatten_append, ih, List.map_singleton,
        List.flatten_singleton, Nat.succ_mul, List.take_add]

/-- Chunks are the array again. -/
theorem flatten_chunkArray (array : List α) {size : Nat} (positive : 0 < size) :
    (chunkArray array size).flatten = array := by
  rw [chunkArray, flatten_slices, List.take_of_length_le]
  have rounded := Nat.lt_div_mul_add (a := array.length + (size - 1)) positive
  omega

theorem foldlM_chunks (insert : σ → ρ → Option σ) (normalize : α → ρ) (table : σ)
    (chunks : List (List α)) :
    chunks.foldlM (fun table chunk => (chunk.map normalize).foldlM insert table) table =
      (chunks.flatten.map normalize).foldlM insert table := by
  induction chunks generalizing table with
  | nil => rfl
  | cons chunk rest ih =>
      rw [List.foldlM_cons, List.flatten_cons, List.map_append, List.foldlM_append]
      exact congrArg _ (funext ih)

section CreateMany

variable {insert : σ → ρ → Option σ} {normalize : α → ρ} {table after : σ} {items : List α}

/-- Chunks make no difference. -/
theorem createMany_eq :
    createMany insert normalize table items = (items.map normalize).foldlM insert table := by
  rw [createMany, foldlM_chunks, flatten_chunkArray items (by decide)]

theorem createMany_nil : createMany insert normalize table [] = some table := by
  rw [createMany_eq]
  rfl

theorem createMany_append (more : List α) :
    createMany insert normalize table (items ++ more) =
      (createMany insert normalize table items).bind
        fun after => createMany insert normalize after more := by
  simp only [createMany_eq, List.map_append, List.foldlM_append]
  rfl

end CreateMany

/-- A numbered table takes all rows. -/
theorem insert_all_numbered (table : NumberedTable ρ) (rows : List ρ) :
    ∃ after, rows.foldlM NumberedTable.insert table = some after ∧
      after.rows.map Prod.snd = table.rows.map Prod.snd ++ rows := by
  induction rows generalizing table with
  | nil => exact ⟨table, rfl, (List.append_nil _).symm⟩
  | cons row rest ih =>
      rcases ih ⟨table.rows ++ [(table.sequence + 1, row)], table.sequence + 1⟩ with
        ⟨after, inserted, rows⟩
      refine ⟨after, inserted, ?_⟩
      rw [rows, List.map_append, List.append_assoc]
      rfl

/-! ## Page loops -/

section Loops

variable {endpoint : Endpoint α} {insert : σ → ρ → Option σ} {normalize : α → ρ}
  {failure : InsertFailure} {table after : σ}

theorem fetchPages_mono {fuel more count : Nat} {nextPage : NextPage} {pages : List (Page α)}
    (fetched : fetchPages endpoint fuel count nextPage = some pages) (enough : fuel ≤ more) :
    fetchPages endpoint more count nextPage = some pages := by
  induction fuel generalizing more count nextPage pages with
  | zero =>
      unfold fetchPages at fetched ⊢
      cases asked : nextPage.request with
      | none =>
          rw [asked] at fetched
          exact fetched
      | some page =>
          rw [asked] at fetched
          cases fetched
  | succ fuel ih =>
      unfold fetchPages at fetched ⊢
      cases asked : nextPage.request with
      | none =>
          rw [asked] at fetched
          exact fetched
      | some page =>
          rw [asked] at fetched
          cases more with
          | zero => exact absurd enough (Nat.not_succ_le_zero fuel)
          | succ more =>
              rcases Option.map_eq_some_iff.mp fetched with ⟨rest, others, same⟩
              exact Option.map_eq_some_iff.mpr
                ⟨rest, ih others (Nat.le_of_succ_le_succ enough), same⟩

theorem Serves.unique {items others : List α} (first : Serves endpoint items)
    (second : Serves endpoint others) : items = others := by
  rcases first with ⟨fuel, pages, fetched, same⟩
  rcases second with ⟨more, morePages, moreFetched, moreSame⟩
  have all := fetchPages_mono fetched (Nat.le_max_left fuel more)
  have allMore := fetchPages_mono moreFetched (Nat.le_max_right fuel more)
  rw [same, moreSame, Option.some.inj (all.symm.trans allMore)]

/-- Pages are inserted as one list would be. -/
theorem mirrorPages_of_fetched {fuel count : Nat} {nextPage : NextPage} {pages : List (Page α)}
    (fetched : fetchPages endpoint fuel count nextPage = some pages) :
    mirrorPages failure (createMany insert normalize) endpoint fuel count nextPage table =
      some (Result.ofOption failure (createMany insert normalize table (pages.flatMap (·.data)))) := by
  induction fuel generalizing count nextPage pages table with
  | zero =>
      unfold fetchPages at fetched
      unfold mirrorPages
      cases asked : nextPage.request with
      | none =>
          rw [asked] at fetched
          rw [← Option.some.inj fetched, List.flatMap_nil, createMany_nil]
          rfl
      | some page =>
          rw [asked] at fetched
          cases fetched
  | succ fuel ih =>
      unfold fetchPages at fetched
      unfold mirrorPages
      cases asked : nextPage.request with
      | none =>
          rw [asked] at fetched
          rw [← Option.some.inj fetched, List.flatMap_nil, createMany_nil]
          rfl
      | some page =>
          rw [asked] at fetched
          rcases Option.map_eq_some_iff.mp fetched with ⟨rest, others, same⟩
          rw [← same, List.flatMap_cons, createMany_append]
          cases created : createMany insert normalize table (endpoint count page).data with
          | none =>
              simp only [created]
              rfl
          | some next =>
              simp only [created]
              exact ih others

/-- A mirror that was made has seen all pages. -/
theorem fetched_of_mirrorPages {fuel count : Nat} {nextPage : NextPage}
    (mirrored : mirrorPages failure (createMany insert normalize) endpoint fuel count nextPage
      table = some (.ok after)) :
    ∃ pages, fetchPages endpoint fuel count nextPage = some pages := by
  induction fuel generalizing count nextPage table with
  | zero =>
      unfold mirrorPages at mirrored
      unfold fetchPages
      cases asked : nextPage.request with
      | none => exact ⟨[], rfl⟩
      | some page =>
          rw [asked] at mirrored
          cases mirrored
  | succ fuel ih =>
      unfold mirrorPages at mirrored
      unfold fetchPages
      cases asked : nextPage.request with
      | none => exact ⟨[], rfl⟩
      | some page =>
          rw [asked] at mirrored
          cases created : createMany insert normalize table (endpoint count page).data with
          | none =>
              simp only [created] at mirrored
              cases mirrored
          | some next =>
              simp only [created] at mirrored
              rcases ih mirrored with ⟨rest, others⟩
              exact ⟨_, Option.map_eq_some_iff.mpr ⟨rest, others, rfl⟩⟩

end Loops

/-- A loop ends exactly if it comes to a null page. -/
theorem fetchPages_isSome_iff {endpoint : Endpoint α} :
    (∃ fuel, (fetchPages endpoint fuel 0 firstPage).isSome) ↔
      ∃ count, nextAt endpoint count = .null := by
  have step : ∀ {count : Nat} {page : Option Int}, (nextAt endpoint count).request = some page →
      nextAt endpoint (count + 1) = (endpoint count page).pagination.next_page := by
    intro count page asked
    rw [nextAt, asked]
  have null : ∀ {nextPage : NextPage}, nextPage.request = none → nextPage = .null := by
    intro nextPage asked
    cases nextPage with
    | null => rfl
    | missing => cases asked
    | number page => cases asked
  constructor
  · have reached : ∀ fuel count, (fetchPages endpoint fuel count (nextAt endpoint count)).isSome →
        ∃ last, nextAt endpoint last = .null := by
      intro fuel
      induction fuel with
      | zero =>
          intro count fetched
          unfold fetchPages at fetched
          cases asked : (nextAt endpoint count).request with
          | none => exact ⟨count, null asked⟩
          | some page =>
              rw [asked] at fetched
              cases fetched
      | succ fuel ih =>
          intro count fetched
          unfold fetchPages at fetched
          cases asked : (nextAt endpoint count).request with
          | none => exact ⟨count, null asked⟩
          | some page =>
              rw [asked] at fetched
              refine ih (count + 1) ?_
              rw [step asked]
              rw [Option.isSome_map] at fetched
              exact fetched
    intro ⟨fuel, fetched⟩
    exact reached fuel 0 fetched
  · have fetched : ∀ fuel count, nextAt endpoint (count + fuel) = .null →
        (fetchPages endpoint fuel count (nextAt endpoint count)).isSome := by
      intro fuel
      induction fuel with
      | zero =>
          intro count last
          rw [Nat.add_zero] at last
          unfold fetchPages
          rw [last]
          rfl
      | succ fuel ih =>
          intro count last
          unfold fetchPages
          cases asked : (nextAt endpoint count).request with
          | none => rfl
          | some page =>
              have later := ih (count + 1) (by rw [Nat.add_right_comm]; exact last)
              rw [step asked] at later
              simp only [Option.isSome_map]
              exact later
    intro ⟨fuel, last⟩
    exact ⟨fuel, fetched fuel 0 (by rw [Nat.zero_add]; exact last)⟩

/-! ## Distinct items -/

/-- All items are stored once each exactly if no two of them share their key. -/
theorem storesOnce_iff [DecidableEq κ] {key : α → κ} {normalize : α → ρ} {served : List α} :
    StoresOnce key normalize served (served.map normalize) ↔ (served.map key).Nodup := by
  constructor
  · intro ⟨kept, same, distinct, within, _⟩
    have lengths : served.length = kept.length := by
      rw [← List.length_map normalize, same, List.length_map]
    have subset : kept.map key ⊆ (served.map key).dedup := by
      intro listed member
      rcases List.mem_map.mp member with ⟨item, keptItem, own⟩
      exact List.mem_dedup.mpr (List.mem_map.mpr ⟨item, within item keptItem, own⟩)
    have fewer := (List.subperm_of_subset distinct subset).length_le
    rw [List.length_map, ← lengths, ← List.length_map key] at fewer
    rw [← (List.dedup_sublist (served.map key)).eq_of_length_le fewer]
    exact List.nodup_dedup _
  · intro distinct
    exact ⟨served, rfl, distinct, fun _ member => member,
      fun _ member => List.mem_map_of_mem member⟩

section Tables

variable [DecidableEq κ] {key : ρ → κ} {normalize : α → ρ} {served : List α}

/-- What a table holds after an insertion into the empty one. -/
theorem createMany_empty {after : Table ρ key} :
    createMany Table.insert normalize Table.empty served = some after ↔
      (served.map fun item => key (normalize item)).Nodup ∧ after.rows = served.map normalize := by
  rw [createMany_eq, Table.insert_all_eq_some]
  simp only [Table.empty, List.nil_append, List.map_map]
  rfl

/-- Rows with distinct keys fill a table. -/
theorem createMany_empty_of_nodup
    (distinct : (served.map fun item => key (normalize item)).Nodup) :
    ∃ after, createMany Table.insert normalize (Table.empty : Table ρ key) served =
      some after := by
  have keys : ((served.map normalize).map key).Nodup := by
    rw [List.map_map]
    exact distinct
  exact ⟨⟨served.map normalize, keys⟩, createMany_empty.mpr ⟨distinct, rfl⟩⟩

theorem createMany_empty_numbered (normalize : α → ρ) (served : List α) :
    ∃ after, createMany NumberedTable.insert normalize NumberedTable.empty served = some after ∧
      after.rows.map Prod.snd = served.map normalize := by
  rw [createMany_eq]
  exact insert_all_numbered NumberedTable.empty (served.map normalize)

/-- A numbered table holds the records of all items. -/
theorem records_of_numbered {after : NumberedTable ρ}
    (created : createMany NumberedTable.insert normalize NumberedTable.empty served =
      some after) : after.rows.map Prod.snd = served.map normalize := by
  rcases createMany_empty_numbered normalize served with
    ⟨other, same, records⟩
  rw [← Option.some.inj (same.symm.trans created)]
  exact records

end Tables

/-! ## The activity -/

section Activity

variable {portal : Portal} {base db : DeepFundingPortalDb}

theorem run_bind_eq_ok {ε β : Type} {first : ExceptT ε Option α} {next : α → ExceptT ε Option β}
    {result : β} : (first >>= next).run = some (.ok result) ↔
      ∃ value, first.run = some (.ok value) ∧ (next value).run = some (.ok result) := by
  cases outcome : first.run with
  | none =>
      rw [ExceptT.run_bind, outcome]
      constructor
      · intro none_
        cases none_
      · intro ⟨_, none_, _⟩
        cases none_
  | some reply =>
      rw [ExceptT.run_bind, outcome]
      cases reply with
      | error failure =>
          constructor
          · intro failed
            cases failed
          · intro ⟨_, failed, _⟩
            cases failed
      | ok value =>
          constructor
          · exact fun rest => ⟨value, rfl, rest⟩
          · intro ⟨_, same, rest⟩
            cases same
            exact rest

/-- What is served whole leaves the paginated tables empty. -/
theorem mirrorWhole_empty (whole : mirrorWhole portal = .ok base) :
    base.milestones = .empty ∧ base.reviews = .empty ∧ base.comments = .empty ∧
      base.commentVotes = .empty ∧ base.users = .empty := by
  rcases Result.bind_eq_ok.mp whole with ⟨rounds, _, whole⟩
  rcases Result.bind_eq_ok.mp whole with ⟨proposals, _, whole⟩
  rcases Result.bind_eq_ok.mp whole with ⟨pools, _, whole⟩
  rw [← Except.ok.inj whole]
  exact ⟨rfl, rfl, rfl, rfl, rfl⟩

/-- The five lists, each inserted as one. -/
structure Inserted (base : DeepFundingPortalDb) (served : Served) (db : DeepFundingPortalDb) :
    Prop where
  milestones : createManyMilestones base.milestones served.milestones = some db.milestones
  reviews : createManyReviews base.reviews served.reviews = some db.reviews
  comments : createManyComments base.comments served.comments = some db.comments
  votes : createManyCommentVotes base.commentVotes served.votes = some db.commentVotes
  users : createManyUsers base.users served.users = some db.users

/-- A list that is mirrored is inserted as it is served. -/
theorem mirrored_of_serves {endpoint : Endpoint α} {items : List α}
    (serves : Serves endpoint items) (failure : InsertFailure) (insert : σ → ρ → Option σ)
    (normalize : α → ρ) :
    ∃ enough, ∀ fuel, enough ≤ fuel → ∀ table,
      mirrorPages failure (createMany insert normalize) endpoint fuel 0 firstPage table =
        some (Result.ofOption failure (createMany insert normalize table items)) := by
  rcases serves with ⟨enough, pages, fetched, same⟩
  refine ⟨enough, fun fuel more table => ?_⟩
  rw [mirrorPages_of_fetched (fetchPages_mono fetched more), same]

/-- What was mirrored was served, and inserted. -/
theorem serves_of_mirrored {endpoint : Endpoint α} {items : List α}
    (serves : Serves endpoint items) {failure : InsertFailure} {insert : σ → ρ → Option σ}
    {normalize : α → ρ} {fuel : Nat} {table after : σ}
    (mirrored : mirrorPages failure (createMany insert normalize) endpoint fuel 0 firstPage
      table = some (.ok after)) : createMany insert normalize table items = some after := by
  rcases fetched_of_mirrorPages mirrored with ⟨pages, fetched⟩
  have same : items = pages.flatMap (·.data) := serves.unique ⟨fuel, pages, fetched, rfl⟩
  rw [mirrorPages_of_fetched fetched, ← same] at mirrored
  cases created : createMany insert normalize table items with
  | none =>
      rw [created] at mirrored
      cases mirrored
  | some result =>
      rw [created] at mirrored
      cases mirrored
      rfl

/-- Lists that reach null are mirrored if all of them can be inserted. -/
theorem deepfundingSync_of_inserted {served : Served} (all : portal.ServesAll served)
    (whole : mirrorWhole portal = .ok base) (stored : Inserted base served db) :
    ∃ fuel, deepfundingSync none portal fuel = some (.ok { base with
      milestones := db.milestones, reviews := db.reviews, comments := db.comments,
      commentVotes := db.commentVotes, users := db.users }) := by
  have milestones : ∃ enough, ∀ fuel, enough ≤ fuel → ∀ table,
      mirrorPages .milestones createManyMilestones portal.milestonePages fuel 0 firstPage table =
        some (Result.ofOption .milestones (createManyMilestones table served.milestones)) :=
    mirrored_of_serves all.milestones _ _ _
  have reviews : ∃ enough, ∀ fuel, enough ≤ fuel → ∀ table,
      mirrorPages .reviews createManyReviews portal.reviews fuel 0 firstPage table =
        some (Result.ofOption .reviews (createManyReviews table served.reviews)) :=
    mirrored_of_serves all.reviews _ _ _
  have comments : ∃ enough, ∀ fuel, enough ≤ fuel → ∀ table,
      mirrorPages .comments createManyComments portal.comments fuel 0 firstPage table =
        some (Result.ofOption .comments (createManyComments table served.comments)) :=
    mirrored_of_serves all.comments _ _ _
  have votes : ∃ enough, ∀ fuel, enough ≤ fuel → ∀ table,
      mirrorPages .commentVotes createManyCommentVotes portal.votes fuel 0 firstPage table =
        some (Result.ofOption .commentVotes (createManyCommentVotes table served.votes)) :=
    mirrored_of_serves all.votes _ _ _
  have users : ∃ enough, ∀ fuel, enough ≤ fuel → ∀ table,
      mirrorPages .users createManyUsers portal.users fuel 0 firstPage table =
        some (Result.ofOption .users (createManyUsers table served.users)) :=
    mirrored_of_serves all.users _ _ _
  rcases milestones with ⟨first, milestones⟩
  rcases reviews with ⟨second, reviews⟩
  rcases comments with ⟨third, comments⟩
  rcases votes with ⟨fourth, votes⟩
  rcases users with ⟨fifth, users⟩
  refine ⟨first + second + third + fourth + fifth, ?_⟩
  rw [deepfundingSync, whole]
  refine run_bind_eq_ok.mpr ⟨db.milestones, ?_, run_bind_eq_ok.mpr ⟨db.reviews, ?_,
    run_bind_eq_ok.mpr ⟨db.comments, ?_, run_bind_eq_ok.mpr ⟨db.commentVotes, ?_,
    run_bind_eq_ok.mpr ⟨db.users, ?_, rfl⟩⟩⟩⟩⟩
  · exact (milestones _ (by omega) base.milestones).trans (by rw [stored.milestones]; rfl)
  · exact (reviews _ (by omega) base.reviews).trans (by rw [stored.reviews]; rfl)
  · exact (comments _ (by omega) base.comments).trans (by rw [stored.comments]; rfl)
  · exact (votes _ (by omega) base.commentVotes).trans (by rw [stored.votes]; rfl)
  · exact (users _ (by omega) base.users).trans (by rw [stored.users]; rfl)

/-- A mirror that was made had all lists inserted. -/
theorem inserted_of_deepfundingSync {served : Served} (all : portal.ServesAll served)
    (whole : mirrorWhole portal = .ok base) {fuel : Nat}
    (synced : deepfundingSync none portal fuel = some (.ok db)) : Inserted base served db := by
  rw [deepfundingSync, whole] at synced
  rcases run_bind_eq_ok.mp synced with ⟨milestones, mirroredMilestones, synced⟩
  rcases run_bind_eq_ok.mp synced with ⟨reviews, mirroredReviews, synced⟩
  rcases run_bind_eq_ok.mp synced with ⟨comments, mirroredComments, synced⟩
  rcases run_bind_eq_ok.mp synced with ⟨votes, mirroredVotes, synced⟩
  rcases run_bind_eq_ok.mp synced with ⟨users, mirroredUsers, synced⟩
  rw [← Except.ok.inj (Option.some.inj synced)]
  exact ⟨serves_of_mirrored all.milestones mirroredMilestones,
    serves_of_mirrored all.reviews mirroredReviews,
    serves_of_mirrored all.comments mirroredComments,
    serves_of_mirrored all.votes mirroredVotes, serves_of_mirrored all.users mirroredUsers⟩

/-- The records of a mirror are those of all that was served. -/
theorem storesEachOnce_iff {served : Served} (whole : mirrorWhole portal = .ok base)
    (stored : Inserted base served db) : db.StoresEachOnce served ↔ served.Distinct := by
  rcases mirrorWhole_empty whole with ⟨noMilestones, noReviews, noComments, noVotes, noUsers⟩
  rcases stored with ⟨milestones, reviews, comments, votes, users⟩
  rw [noMilestones] at milestones
  rw [noReviews] at reviews
  rw [noComments] at comments
  rw [noVotes] at votes
  rw [noUsers] at users
  have milestoneRecords := records_of_numbered milestones
  have reviewRecords := records_of_numbered reviews
  have commentRecords := (createMany_empty.mp comments).2
  have voteRecords := (createMany_empty.mp votes).2
  have userRecords := (createMany_empty.mp users).2
  constructor
  · intro once
    exact {
      milestones := storesOnce_iff.mp (milestoneRecords ▸ once.milestones)
      reviews := storesOnce_iff.mp (reviewRecords ▸ once.reviews)
      comments := storesOnce_iff.mp (commentRecords ▸ once.comments)
      votes := storesOnce_iff.mp (voteRecords ▸ once.votes)
      users := storesOnce_iff.mp (userRecords ▸ once.users) }
  · intro distinct
    exact {
      milestones := milestoneRecords ▸ storesOnce_iff.mpr distinct.milestones
      reviews := reviewRecords ▸ storesOnce_iff.mpr distinct.reviews
      comments := commentRecords ▸ storesOnce_iff.mpr distinct.comments
      votes := voteRecords ▸ storesOnce_iff.mpr distinct.votes
      users := userRecords ▸ storesOnce_iff.mpr distinct.users }

/-- Distinct items can all be inserted. -/
theorem inserted_of_distinct {served : Served} (whole : mirrorWhole portal = .ok base)
    (distinct : served.Distinct) : ∃ db, Inserted base served db := by
  rcases mirrorWhole_empty whole with ⟨noMilestones, noReviews, noComments, noVotes, noUsers⟩
  rcases createMany_empty_numbered normalizeMilestoneToRecord served.milestones with ⟨milestones, milestonesCreated, _⟩
  rcases createMany_empty_numbered normalizeReviewToRecord served.reviews with ⟨reviews, reviewsCreated, _⟩
  have comments : ∃ after, createManyComments .empty served.comments = some after :=
    createMany_empty_of_nodup distinct.comments
  have votes : ∃ after, createManyCommentVotes .empty served.votes = some after :=
    createMany_empty_of_nodup distinct.votes
  have users : ∃ after, createManyUsers .empty served.users = some after :=
    createMany_empty_of_nodup distinct.users
  rcases comments with ⟨comments, commentsCreated⟩
  rcases votes with ⟨commentVotes, votesCreated⟩
  rcases users with ⟨users, usersCreated⟩
  refine ⟨{ base with milestones, reviews, comments, commentVotes, users }, ?_, ?_, ?_, ?_, ?_⟩
  · rw [noMilestones]
    exact milestonesCreated
  · rw [noReviews]
    exact reviewsCreated
  · rw [noComments]
    exact commentsCreated
  · rw [noVotes]
    exact votesCreated
  · rw [noUsers]
    exact usersCreated

theorem mirrorsEachOnce_iff (portal : Portal) :
    MirrorsEachOnce portal ↔ ServesEachOnce portal := by
  constructor
  · intro mirrors served base all whole
    rcases mirrors served base all whole with ⟨fuel, db, synced, once⟩
    exact (storesEachOnce_iff whole (inserted_of_deepfundingSync all whole synced)).mp once
  · intro distinct served base all whole
    rcases inserted_of_distinct whole (distinct served base all whole) with ⟨db, stored⟩
    rcases deepfundingSync_of_inserted all whole stored with ⟨fuel, synced⟩
    have once := (storesEachOnce_iff whole stored).mpr (distinct served base all whole)
    exact ⟨fuel, _, synced,
      ⟨once.milestones, once.reviews, once.comments, once.votes, once.users⟩⟩

theorem pageLoopsEnd_iff (portal : Portal) : PageLoopsEnd portal ↔ portal.Recovers := by
  constructor
  · intro ends
    exact {
      milestones := fun stalls => fetchPages_isSome_iff.mp (ends.milestones stalls)
      reviews := fun stalls => fetchPages_isSome_iff.mp (ends.reviews stalls)
      comments := fun stalls => fetchPages_isSome_iff.mp (ends.comments stalls)
      votes := fun stalls => fetchPages_isSome_iff.mp (ends.votes stalls)
      users := fun stalls => fetchPages_isSome_iff.mp (ends.users stalls) }
  · intro recovers
    exact {
      milestones := fun stalls => fetchPages_isSome_iff.mpr (recovers.milestones stalls)
      reviews := fun stalls => fetchPages_isSome_iff.mpr (recovers.reviews stalls)
      comments := fun stalls => fetchPages_isSome_iff.mpr (recovers.comments stalls)
      votes := fun stalls => fetchPages_isSome_iff.mpr (recovers.votes stalls)
      users := fun stalls => fetchPages_isSome_iff.mpr (recovers.users stalls) }

end Activity

/-- The mirror holds each item once, and the loops end on responses that stop advancing,
exactly if the portal serves no item twice and comes to a null page after a stall. -/
theorem deepfundingSync_mirrorsEachOnce (portal : Portal) :
    (MirrorsEachOnce portal ∧ PageLoopsEnd portal) ↔
      (ServesEachOnce portal ∧ portal.Recovers) :=
  and_congr (mirrorsEachOnce_iff portal) (pageLoopsEnd_iff portal)

/-! A review moves to the second page while the first one is read. -/

def reviewOf (review_id : Int) : Review where
  review_id
  proposal_id := some 1
  reviewer_id := some 2
  review_type := "community"
  overall_rating := "5"
  feasibility_rating := "4"
  viability_rating := "4"
  desirability_rating := "4"
  usefulness_rating := "4"
  created_at := none

def nothing {α : Type} : Endpoint α := fun _ _ => ⟨[], 1, .null⟩

def shiftingPortal : Portal where
  rounds := []
  proposals _ := []
  pools := []
  milestones := nothing
  reviews count _ :=
    if count = 0 then ⟨[reviewOf 1, reviewOf 2], 1, .number 2⟩ else ⟨[reviewOf 2], 2, .null⟩
  comments := nothing
  votes := nothing
  users := nothing

/-- The review is stored twice. -/
theorem deepfundingSync_shifting : ¬(MirrorsEachOnce shiftingPortal ∧
    PageLoopsEnd shiftingPortal) := by
  intro ⟨mirrors, _⟩
  have distinct := (mirrorsEachOnce_iff shiftingPortal).mp mirrors
    ⟨[], [reviewOf 1, reviewOf 2, reviewOf 2], [], [], []⟩ createDb
    ⟨⟨1, _, rfl, rfl⟩, ⟨2, _, rfl, rfl⟩, ⟨1, _, rfl, rfl⟩, ⟨1, _, rfl, rfl⟩, ⟨1, _, rfl, rfl⟩⟩
    rfl
  exact absurd distinct.reviews (by decide)

end Reputo.Deepfunding

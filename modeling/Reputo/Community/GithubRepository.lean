import Reputo.Community.Github
import Reputo.Library.Crawl
import Reputo.Library.Paging

/-!
# A repository in use

What the platform stores of a repository and how it changes: issues are listed by their last
update and comments by their creation.  An issue that is updated becomes the last one of its
listing, a comment stays where it is.
-/

namespace Reputo.Community

open Reputo.Library

namespace Github

/-! ## Issues -/

structure RepositoryPullRequest where
  merged_at : Option Int
  reviews : List GitHubRawReview
  deriving DecidableEq, Repr

/-- An issue as it is stored; a pull request has its reviews. -/
structure RepositoryIssue where
  number : Nat
  id : Nat
  user : GitHubRawUser
  created_at : Int
  updated_at : Int
  pull_request : Option RepositoryPullRequest
  deriving DecidableEq, Repr

namespace RepositoryIssue

/-- The row of a listing. -/
def raw (issue : RepositoryIssue) : GitHubRawIssue where
  id := some issue.id
  number := some issue.number
  user := issue.user
  created_at := some issue.created_at
  pull_request := issue.pull_request.map (·.merged_at)

def reviews (issue : RepositoryIssue) : List GitHubRawReview :=
  (issue.pull_request.map (·.reviews)).getD []

/-- No event of the issue is later than its last update. -/
structure Dated (issue : RepositoryIssue) : Prop where
  created : issue.created_at ≤ issue.updated_at
  merged : ∀ pull ∈ issue.pull_request, ∀ time ∈ pull.merged_at, time ≤ issue.updated_at
  reviewed : ∀ review ∈ issue.reviews, review.pending = false →
    ∀ time ∈ review.submitted_at, time ≤ issue.updated_at

instance (issue : RepositoryIssue) : Decidable issue.Dated :=
  decidable_of_iff (issue.created_at ≤ issue.updated_at ∧
      (∀ pull ∈ issue.pull_request, ∀ time ∈ pull.merged_at, time ≤ issue.updated_at) ∧
      ∀ review ∈ issue.reviews, review.pending = false →
        ∀ time ∈ review.submitted_at, time ≤ issue.updated_at)
    ⟨fun ⟨created, merged, reviewed⟩ => ⟨created, merged, reviewed⟩,
      fun ⟨created, merged, reviewed⟩ => ⟨created, merged, reviewed⟩⟩

/-- A later state of the same issue: a merge stays, and reviews are only added. -/
structure Continues (issue later : RepositoryIssue) : Prop where
  number : later.number = issue.number
  id : later.id = issue.id
  user : later.user = issue.user
  created : later.created_at = issue.created_at
  updated : issue.updated_at ≤ later.updated_at
  isPull : later.pull_request.isSome = issue.pull_request.isSome
  merged : ∀ pull ∈ issue.pull_request, ∀ time ∈ pull.merged_at,
    later.raw.pull_request = some (some time)
  reviews : issue.reviews <+: later.reviews

instance (issue later : RepositoryIssue) : Decidable (issue.Continues later) :=
  decidable_of_iff (later.number = issue.number ∧ later.id = issue.id ∧ later.user = issue.user ∧
      later.created_at = issue.created_at ∧ issue.updated_at ≤ later.updated_at ∧
      later.pull_request.isSome = issue.pull_request.isSome ∧
      (∀ pull ∈ issue.pull_request, ∀ time ∈ pull.merged_at,
        later.raw.pull_request = some (some time)) ∧
      issue.reviews <+: later.reviews)
    ⟨fun ⟨number, id, user, created, updated, isPull, merged, reviews⟩ =>
        ⟨number, id, user, created, updated, isPull, merged, reviews⟩,
      fun ⟨number, id, user, created, updated, isPull, merged, reviews⟩ =>
        ⟨number, id, user, created, updated, isPull, merged, reviews⟩⟩

theorem Continues.refl (issue : RepositoryIssue) : issue.Continues issue where
  number := rfl
  id := rfl
  user := rfl
  created := rfl
  updated := Int.le_refl _
  isPull := rfl
  merged := by
    intro pull own time merged
    rw [raw, Option.mem_def.mp own, Option.map_some, Option.mem_def.mp merged]
  reviews := List.prefix_rfl

theorem Continues.trans {issue later last : RepositoryIssue} (first : issue.Continues later)
    (second : later.Continues last) : issue.Continues last where
  number := second.number.trans first.number
  id := second.id.trans first.id
  user := second.user.trans first.user
  created := second.created.trans first.created
  updated := Int.le_trans first.updated second.updated
  isPull := second.isPull.trans first.isPull
  merged := by
    intro pull own time merged
    have kept := first.merged pull own time merged
    rcases Option.map_eq_some_iff.mp kept with ⟨between, betweenOwn, betweenMerged⟩
    exact second.merged between betweenOwn time betweenMerged
  reviews := first.reviews.trans second.reviews

end RepositoryIssue

/-! ## Comments -/

structure RepositoryComment where
  id : Nat
  user : GitHubRawUser
  created_at : Int
  updated_at : Int
  deriving DecidableEq, Repr

namespace RepositoryComment

def raw (comment : RepositoryComment) : GitHubRawComment :=
  ⟨some comment.id, comment.user, some comment.created_at⟩

/-- A later state of the same comment. -/
def Continues (comment later : RepositoryComment) : Prop :=
  later.raw = comment.raw ∧ comment.updated_at ≤ later.updated_at

instance (comment later : RepositoryComment) : Decidable (comment.Continues later) :=
  inferInstanceAs (Decidable (_ ∧ _))

theorem Continues.trans {comment later last : RepositoryComment} (first : comment.Continues later)
    (second : later.Continues last) : comment.Continues last :=
  ⟨second.1.trans first.1, Int.le_trans first.2 second.2⟩

end RepositoryComment

abbrev IssueTable := Table RepositoryIssue (·.number)

abbrev CommentTable := Table RepositoryComment (·.id)

/-- Comments in the order of their creation, all of it in the past. -/
structure CommentTable.Ordered (comments : CommentTable) (now : Int) : Prop where
  ordered : comments.rows.Pairwise (·.created_at ≤ ·.created_at)
  dated : ∀ comment ∈ comments.rows, comment.created_at ≤ comment.updated_at
  past : ∀ comment ∈ comments.rows, comment.updated_at ≤ now

/-- What is put is newer than everything before it, and a comment keeps its creation. -/
theorem CommentTable.Ordered.upsert {comments : CommentTable} {now : Int}
    {comment : RepositoryComment} (sound : comments.Ordered now)
    (later : now ≤ comment.updated_at) (dated : comment.created_at ≤ comment.updated_at)
    (fresh : comment.id ∉ comments.rows.map (·.id) → now ≤ comment.created_at)
    (continues : ∀ old ∈ comments.rows, old.id = comment.id → old.Continues comment) :
    CommentTable.Ordered (comments.upsert comment) comment.updated_at where
  ordered := by
    by_cases taken : comment.id ∈ comments.rows.map (·.id)
    · have keeps : ∀ old ∈ comments.rows,
          (if old.id = comment.id then comment else old).created_at = old.created_at := by
        intro old member
        by_cases same : old.id = comment.id
        · rw [if_pos same]
          exact Option.some.inj (congrArg GitHubRawComment.created_at
            (continues old member same).1)
        · rw [if_neg same]
      rw [Table.upsert, dif_pos taken, List.pairwise_map]
      refine sound.ordered.imp_of_mem ?_
      intro left right leftMember rightMember before
      rw [keeps left leftMember, keeps right rightMember]
      exact before
    · rw [Table.upsert, dif_neg taken, Table.insertOrIgnore_rows_of_fresh taken,
        List.pairwise_append]
      refine ⟨sound.ordered, List.pairwise_singleton _ _, ?_⟩
      intro old member new newMember
      rw [List.mem_singleton.mp newMember]
      exact Int.le_trans (Int.le_trans (sound.dated old member) (sound.past old member))
        (fresh taken)
  dated := by
    intro other member
    rcases Table.mem_upsert.mp member with same | ⟨member, _⟩
    · rw [same]
      exact dated
    · exact sound.dated other member
  past := by
    intro other member
    rcases Table.mem_upsert.mp member with same | ⟨member, _⟩
    · rw [same]
    · exact Int.le_trans (sound.past other member) later

theorem CommentTable.Ordered.mono {comments : CommentTable} {now later : Int}
    (sound : comments.Ordered now) (passed : now ≤ later) : comments.Ordered later where
  ordered := sound.ordered
  dated := sound.dated
  past comment member := Int.le_trans (sound.past comment member) passed

/-! ## The repository -/

/-- Issues are in the order of their last update; the comments are those on issues, or those
of reviews. -/
structure Repository where
  fullName : String
  issues : IssueTable
  comments : (review : Bool) → CommentTable
  now : Int
  ordered : issues.rows.Pairwise (·.updated_at ≤ ·.updated_at)
  dated : ∀ issue ∈ issues.rows, issue.Dated
  past : ∀ issue ∈ issues.rows, issue.updated_at ≤ now
  commentsOrdered : ∀ review, (comments review).Ordered now

/-- An issue or comment is created or updated. -/
inductive RepositoryChange where
  | issue (issue : RepositoryIssue)
  | comment (review : Bool) (comment : RepositoryComment)
  deriving DecidableEq, Repr

namespace Repository

/-- An issue is new, or continues what is stored under its number. -/
def AdmitsIssue (repository : Repository) (issue : RepositoryIssue) : Prop :=
  issue.Dated ∧ repository.now ≤ issue.updated_at ∧
    ∀ old ∈ repository.issues.rows, old.number = issue.number → old.Continues issue

def AdmitsComment (repository : Repository) (review : Bool) (comment : RepositoryComment) : Prop :=
  comment.created_at ≤ comment.updated_at ∧ repository.now ≤ comment.updated_at ∧
    (comment.id ∉ (repository.comments review).rows.map (·.id) →
      repository.now ≤ comment.created_at) ∧
    ∀ old ∈ (repository.comments review).rows, old.id = comment.id → old.Continues comment

instance (repository : Repository) (issue : RepositoryIssue) :
    Decidable (repository.AdmitsIssue issue) :=
  inferInstanceAs (Decidable (_ ∧ _ ∧ _))

instance (repository : Repository) (review : Bool) (comment : RepositoryComment) :
    Decidable (repository.AdmitsComment review comment) :=
  inferInstanceAs (Decidable (_ ∧ _ ∧ _ ∧ _))

/-- The issue becomes the last one of the listing. -/
def putIssue (repository : Repository) (issue : RepositoryIssue)
    (admitted : repository.AdmitsIssue issue) : Repository :=
  { repository with
    issues := repository.issues.moveToEnd issue
    now := issue.updated_at
    ordered := by
      rw [Table.moveToEnd, List.pairwise_append]
      refine ⟨repository.ordered.sublist List.filter_sublist, List.pairwise_singleton _ _, ?_⟩
      intro old member new newMember
      rw [List.mem_singleton.mp newMember]
      exact Int.le_trans (repository.past old (List.mem_filter.mp member).1) admitted.2.1
    dated := by
      intro other member
      rcases Table.mem_moveToEnd.mp member with same | ⟨member, _⟩
      · rw [same]
        exact admitted.1
      · exact repository.dated other member
    past := by
      intro other member
      rcases Table.mem_moveToEnd.mp member with same | ⟨member, _⟩
      · rw [same]
      · exact Int.le_trans (repository.past other member) admitted.2.1
    commentsOrdered := fun review => (repository.commentsOrdered review).mono admitted.2.1 }

/-- The comment stays in its place, or becomes the last one. -/
def putComment (repository : Repository) (review : Bool) (comment : RepositoryComment)
    (admitted : repository.AdmitsComment review comment) : Repository :=
  { repository with
    comments := fun other =>
      if other = review then (repository.comments other).upsert comment
      else repository.comments other
    now := comment.updated_at
    past := fun issue member => Int.le_trans (repository.past issue member) admitted.2.1
    commentsOrdered := by
      intro other
      by_cases same : other = review
      · rw [if_pos same, same]
        exact (repository.commentsOrdered review).upsert admitted.2.1 admitted.1 admitted.2.2.1
          admitted.2.2.2
      · rw [if_neg same]
        exact (repository.commentsOrdered other).mono admitted.2.1 }

/-- What happens to a repository, where it can happen. -/
def happen (event : RepositoryChange) (repository : Repository) : Option Repository :=
  match event with
  | .issue issue =>
      if admitted : repository.AdmitsIssue issue then some (repository.putIssue issue admitted)
      else none
  | .comment review comment =>
      if admitted : repository.AdmitsComment review comment then
        some (repository.putComment review comment admitted)
      else none

/-! ## Listings -/

/-- The issues that were updated since a time. -/
def listedIssues (repository : Repository) (since : Int) : List RepositoryIssue :=
  repository.issues.rows.filter fun issue => since ≤ issue.updated_at

def listedComments (repository : Repository) (review : Bool) (since : Int) :
    List RepositoryComment :=
  (repository.comments review).rows.filter fun comment => since ≤ comment.updated_at

/-- The reviews of a pull request. -/
def reviewsOf (repository : Repository) (number : Nat) : Option (List GitHubRawReview) :=
  (repository.issues.find? number).bind fun issue => issue.pull_request.map (·.reviews)

/-- Every request is answered. -/
def answer : ∀ {α : Type}, GitHubRequest α → Repository → α
  | _, .resolveRepository _, repository => .ok (some repository.fullName)
  | _, .issues _ since page, repository =>
      .ok ((pageOf pageLimit page (repository.listedIssues since)).map (·.raw))
  | _, .comments _ review since page, repository =>
      .ok ((pageOf pageLimit page (repository.listedComments review since)).map (·.raw))
  | _, .reviews _ number page, repository => match repository.reviewsOf number with
      | none => .error (.http 404)
      | some reviews => .ok (pageOf pageLimit page reviews)

/-- All listings are shorter than a bound. -/
structure FitsIn (repository : Repository) (bound : Nat) : Prop where
  issues : repository.issues.rows.length < bound
  comments : ∀ review, (repository.comments review).rows.length < bound
  reviews : ∀ issue ∈ repository.issues.rows, issue.reviews.length < bound

/-! ## A repository that grows -/

/-- What was in a repository is still there. -/
structure Grows (before after : Repository) : Prop where
  issues : ∀ issue ∈ before.issues.rows, ∃ current ∈ after.issues.rows, issue.Continues current
  comments : ∀ review, ∀ comment ∈ (before.comments review).rows,
    ∃ current ∈ (after.comments review).rows, comment.Continues current

theorem Grows.refl (repository : Repository) : repository.Grows repository where
  issues issue member := ⟨issue, member, .refl issue⟩
  comments _ comment member := ⟨comment, member, rfl, Int.le_refl _⟩

theorem Grows.trans {before between after : Repository} (first : before.Grows between)
    (second : between.Grows after) : before.Grows after where
  issues := by
    intro issue member
    rcases first.issues issue member with ⟨current, currentMember, continues⟩
    rcases second.issues current currentMember with ⟨last, lastMember, others⟩
    exact ⟨last, lastMember, continues.trans others⟩
  comments := by
    intro review comment member
    rcases first.comments review comment member with ⟨current, currentMember, continues⟩
    rcases second.comments review current currentMember with ⟨last, lastMember, others⟩
    exact ⟨last, lastMember, continues.trans others⟩

section Happen

variable {repository after : Repository} {issue : RepositoryIssue}
  {comment : RepositoryComment} {review : Bool}

theorem happen_issue (happened : happen (.issue issue) repository = some after) :
    ∃ admitted : repository.AdmitsIssue issue, after = repository.putIssue issue admitted := by
  rw [happen] at happened
  split at happened
  · rename_i admitted
    exact ⟨admitted, (Option.some.inj happened).symm⟩
  · cases happened

theorem happen_comment (happened : happen (.comment review comment) repository = some after) :
    ∃ admitted : repository.AdmitsComment review comment,
      after = repository.putComment review comment admitted := by
  rw [happen] at happened
  split at happened
  · rename_i admitted
    exact ⟨admitted, (Option.some.inj happened).symm⟩
  · cases happened

/-- The comments of one kind are as they were, or one of them was put. -/
theorem putComment_comments (admitted : repository.AdmitsComment review comment) (other : Bool) :
    (repository.putComment review comment admitted).comments other =
      if other = review then (repository.comments other).upsert comment
      else repository.comments other :=
  rfl

theorem grows_of_happen {event : RepositoryChange}
    (happened : happen event repository = some after) : repository.Grows after := by
  cases event with
  | issue issue =>
      rcases happen_issue happened with ⟨admitted, same⟩
      cases same
      refine ⟨?_, (Grows.refl repository).comments⟩
      intro old member
      by_cases same : old.number = issue.number
      · exact ⟨issue, Table.mem_moveToEnd.mpr (Or.inl rfl), admitted.2.2 old member same⟩
      · exact ⟨old, Table.mem_moveToEnd.mpr (Or.inr ⟨member, same⟩), .refl old⟩
  | comment review comment =>
      rcases happen_comment happened with ⟨admitted, same⟩
      cases same
      refine ⟨(Grows.refl repository).issues, ?_⟩
      intro other old member
      rw [putComment_comments]
      split
      · rename_i here
        cases here
        by_cases same : old.id = comment.id
        · exact ⟨comment, Table.mem_upsert.mpr (Or.inl rfl), admitted.2.2.2 old member same⟩
        · exact ⟨old, Table.mem_upsert.mpr (Or.inr ⟨member, same⟩), rfl, Int.le_refl _⟩
      · exact ⟨old, member, rfl, Int.le_refl _⟩

end Happen

/-- A repository that grew was no larger before. -/
theorem Grows.fitsIn {before after : Repository} (grown : before.Grows after) {bound : Nat}
    (fits : after.FitsIn bound) : before.FitsIn bound where
  issues := by
    have kept : before.issues.rows.map (·.number) ⊆ after.issues.rows.map (·.number) := by
      intro number member
      rcases List.mem_map.mp member with ⟨issue, stored, numbered⟩
      rcases grown.issues issue stored with ⟨current, currentStored, continues⟩
      exact List.mem_map.mpr ⟨current, currentStored, continues.number.trans numbered⟩
    have lengths := (List.subperm_of_subset before.issues.keys_nodup kept).length_le
    rw [List.length_map, List.length_map] at lengths
    exact Nat.lt_of_le_of_lt lengths fits.issues
  comments := by
    intro review
    have kept : (before.comments review).rows.map (·.id) ⊆
        (after.comments review).rows.map (·.id) := by
      intro id member
      rcases List.mem_map.mp member with ⟨comment, stored, identified⟩
      rcases grown.comments review comment stored with ⟨current, currentStored, continues⟩
      have sameId := Option.some.inj (congrArg GitHubRawComment.id continues.1)
      exact List.mem_map.mpr ⟨current, currentStored, sameId.trans identified⟩
    have lengths := (List.subperm_of_subset (before.comments review).keys_nodup kept).length_le
    rw [List.length_map, List.length_map] at lengths
    exact Nat.lt_of_le_of_lt lengths (fits.comments review)
  reviews := by
    intro issue member
    rcases grown.issues issue member with ⟨current, currentMember, continues⟩
    exact Nat.lt_of_le_of_lt continues.reviews.length_le (fits.reviews current currentMember)

/-! ## What a listing shows -/

def listedNumbers (repository : Repository) (since : Int) : List Nat :=
  (repository.listedIssues since).map (·.number)

def listedIds (repository : Repository) (review : Bool) (since : Int) : List Nat :=
  (repository.listedComments review since).map (·.id)

theorem listedNumbers_nodup (repository : Repository) (since : Int) :
    (repository.listedNumbers since).Nodup :=
  repository.issues.keys_nodup.sublist (List.filter_sublist.map _)

section Listed

variable {before after : Repository} {since : Int}

theorem Grows.mem_listedNumbers (grown : before.Grows after) {issue : RepositoryIssue}
    (member : issue ∈ before.issues.rows) (updated : since ≤ issue.updated_at) :
    issue.number ∈ after.listedNumbers since := by
  rcases grown.issues issue member with ⟨current, currentMember, continues⟩
  rw [listedNumbers, List.mem_map]
  refine ⟨current, List.mem_filter.mpr ⟨currentMember, decide_eq_true ?_⟩, continues.number⟩
  exact Int.le_trans updated continues.updated

theorem Grows.mem_listedIds (grown : before.Grows after) {review : Bool}
    {comment : RepositoryComment} (member : comment ∈ (before.comments review).rows)
    (updated : since ≤ comment.updated_at) : comment.id ∈ after.listedIds review since := by
  rcases grown.comments review comment member with ⟨current, currentMember, continues⟩
  rw [listedIds, List.mem_map]
  refine ⟨current, List.mem_filter.mpr ⟨currentMember, decide_eq_true ?_⟩, ?_⟩
  · exact Int.le_trans updated continues.2
  · exact Option.some.inj (congrArg GitHubRawComment.id continues.1)

/-- An issue that is put moves its number to the end of the listing. -/
theorem listedNumbers_putIssue {issue : RepositoryIssue} (admitted : before.AdmitsIssue issue)
    (shown : since ≤ issue.updated_at) :
    (before.putIssue issue admitted).listedNumbers since =
      (before.listedNumbers since).filter (· ≠ issue.number) ++ [issue.number] := by
  have rows : (before.putIssue issue admitted).issues.rows =
      before.issues.rows.filter (·.number ≠ issue.number) ++ [issue] := rfl
  have listed : [issue].filter (fun issue => since ≤ issue.updated_at) = [issue] :=
    List.filter_cons_of_pos (decide_eq_true shown)
  rw [listedNumbers, listedNumbers, listedIssues, listedIssues, rows, List.filter_append, listed,
    List.map_append, List.filter_filter, List.filter_map, List.filter_filter]
  congr 2
  apply List.filter_congr
  intro other _
  exact Bool.and_comm _ _

/-- Listed issues stay behind a page, apart from the one at its start. -/
theorem mem_fromPage_of_happen {event : RepositoryChange} {number page : Nat}
    (happened : happen event before = some after)
    (spared : ∀ issue, event = .issue issue →
      issue.number ∈ (before.listedNumbers since).take (pageLimit * (page - 1)) →
      (before.listedNumbers since)[pageLimit * (page - 1)]? ≠ some number)
    (member : number ∈ fromPage pageLimit page (before.listedNumbers since)) :
    number ∈ fromPage pageLimit page (after.listedNumbers since) := by
  cases event with
  | comment review comment =>
      rcases happen_comment happened with ⟨admitted, same⟩
      cases same
      exact member
  | issue issue =>
      rcases happen_issue happened with ⟨admitted, same⟩
      cases same
      have shown : since ≤ issue.updated_at := by
        rcases List.mem_map.mp (mem_of_mem_fromPage member) with ⟨old, listed, _⟩
        rcases List.mem_filter.mp listed with ⟨stored, recent⟩
        exact Int.le_trans (of_decide_eq_true recent)
          (Int.le_trans (before.past old stored) admitted.2.1)
      rw [listedNumbers_putIssue admitted shown]
      exact mem_drop_moveToEnd (before.listedNumbers_nodup since) member (spared issue rfl)

/-- No comment comes forward in its listing. -/
theorem listedIds_sublist_of_happen {event : RepositoryChange}
    (happened : happen event before = some after) (review : Bool) :
    List.Sublist (before.listedIds review since) (after.listedIds review since) := by
  cases event with
  | issue issue =>
      rcases happen_issue happened with ⟨admitted, same⟩
      cases same
      exact List.Sublist.refl _
  | comment put comment =>
      rcases happen_comment happened with ⟨admitted, same⟩
      cases same
      rw [listedIds, listedIds, listedComments, listedComments, putComment_comments]
      split
      · rename_i here
        cases here
        by_cases taken : comment.id ∈ (before.comments review).rows.map (·.id)
        · rw [Table.upsert, dif_pos taken]
          apply keys_sublist_of_map
          · intro old _
            by_cases same : old.id = comment.id
            · rw [if_pos same, same]
            · rw [if_neg same]
          · intro old member recent
            by_cases same : old.id = comment.id
            · rw [if_pos same]
              exact decide_eq_true (Int.le_trans (of_decide_eq_true recent)
                (admitted.2.2.2 old member same).2)
            · rw [if_neg same]
              exact recent
        · rw [Table.upsert, dif_neg taken, Table.insertOrIgnore_rows_of_fresh taken,
            List.filter_append, List.map_append]
          exact List.sublist_append_left _ _
      · exact List.Sublist.refl _

end Listed

end Repository

end Github

end Reputo.Community

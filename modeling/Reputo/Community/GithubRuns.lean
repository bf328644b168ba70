import Reputo.Community.GithubCrawl

/-!
# Crawling a repository in use

Between two requests of a crawl issues and comments are created and updated, and the crawl is
resumed from the cursors it yielded.  Comments are never passed over.  An issue is, when
an issue of a page that was read is updated and so moves behind it.
-/

namespace Reputo.Community

open Reputo.Library

namespace Github

/-! ## Runs -/

abbrev CrawlRun :=
  Library.CrawlRun Repository GitHubRequest CommunityRecordBatch
    (Except CommunityApiError CommunityResourceCoverage) CrawlProgress

section Crawl

variable (cursorText : CursorText GitHubResourceCursor) (fuel : Nat) (resourceId : String)
  (window : CommunityFetchWindow)

/-- The crawl of a repository on which events happen meanwhile. -/
def crawlSystem (initial : Repository) : System CrawlRun (CrawlAction RepositoryChange) :=
  CrawlRun.system (fun cursor => iterateRecords cursorText fuel ⟨resourceId, window, cursor⟩)
    (·.cursor) Repository.answer Repository.happen (CrawlProgress.begins cursorText) recordRead
    initial

/-- An issue of the initial repository has a row that is not among those kept, and is not on
the page that is being read. -/
def Unread (initial : Repository) (kept : List CommunityActivityRecord)
    (reading : List GitHubRawIssue) (number : Nat) : Prop :=
  number ∉ reading.filterMap (·.number) ∧
    ∃ issue ∈ initial.issues.rows, issue.number = number ∧
      ∃ row ∈ issue.activityRows resourceId window, row ∉ kept

instance (initial : Repository) (kept : List CommunityActivityRecord)
    (reading : List GitHubRawIssue) (number : Nat) :
    Decidable (Unread resourceId window initial kept reading number) :=
  inferInstanceAs (Decidable (_ ∧ ∃ issue ∈ initial.issues.rows, issue.number = number ∧
    ∃ row ∈ issue.activityRows resourceId window, row ∉ kept))

/-- No unread issue passes onto the pages before the next one: not when an issue of those
pages is updated, which brings forward the issue at the start of the next page, and not when
the crawl is resumed at a page of issues. -/
def PassesOverNone (initial : Repository) (run : CrawlRun) :
    CrawlAction RepositoryChange → Prop
  | .change (.issue issue) => ∀ page ∈ nextPage run.progress.position .issues,
      issue.number ∈
        (run.platform.listedNumbers window.start).take (pageLimit * (page - 1)) →
      ∀ number ∈ (run.platform.listedNumbers window.start)[pageLimit * (page - 1)]?,
        ¬Unread resourceId window initial (keptRows run.yielded) run.progress.issues number
  | .resume kept =>
      ∀ page ∈ nextPage (CrawlProgress.begins cursorText
          (CrawlRun.cursorAfter (·.cursor) (run.yielded.take kept))).position .issues,
      ∀ number ∈ (run.platform.listedNumbers window.start).take (pageLimit * (page - 1)),
        ¬Unread resourceId window initial (keptRows (run.yielded.take kept)) [] number
  | _ => True

instance (initial : Repository) (run : CrawlRun) : (action : CrawlAction RepositoryChange) →
    Decidable (PassesOverNone cursorText resourceId window initial run action)
  | .change (.issue issue) => inferInstanceAs (Decidable
      (∀ page ∈ nextPage run.progress.position .issues,
        issue.number ∈
          (run.platform.listedNumbers window.start).take (pageLimit * (page - 1)) →
        ∀ number ∈ (run.platform.listedNumbers window.start)[pageLimit * (page - 1)]?,
          ¬Unread resourceId window initial (keptRows run.yielded) run.progress.issues number))
  | .change (.comment _ _) | .proceed => isTrue trivial
  | .resume kept => inferInstanceAs (Decidable
      (∀ page ∈ nextPage (CrawlProgress.begins cursorText
          (CrawlRun.cursorAfter (·.cursor) (run.yielded.take kept))).position .issues,
        ∀ number ∈ (run.platform.listedNumbers window.start).take (pageLimit * (page - 1)),
          ¬Unread resourceId window initial (keptRows (run.yielded.take kept)) [] number))

end Crawl

/-! ## What is still to be read -/

section Linked

variable (cursorText : CursorText GitHubResourceCursor) (resourceId : String)
  (window : CommunityFetchWindow) (initial : Repository)

/-- The rows of an issue were kept, or it was just read, or it is listed from the next page on. -/
def IssuesOwed (platform : Repository) (kept : List CommunityActivityRecord)
    (reading : List GitHubRawIssue) (position : Option GitHubResourceCursor) : Prop :=
  ∀ issue ∈ initial.issues.rows,
    (∀ row ∈ issue.activityRows resourceId window, row ∈ kept) ∨
      issue.number ∈ reading.filterMap (·.number) ∨
      ∃ page ∈ nextPage position .issues,
        issue.number ∈ fromPage pageLimit page (platform.listedNumbers window.start)

def CommentsOwed (platform : Repository) (kept : List CommunityActivityRecord)
    (reading : List GitHubRawComment) (position : Option GitHubResourceCursor) : Prop :=
  ∀ review, ∀ comment ∈ (initial.comments review).rows,
    ∀ row ∈ toCommentRecord resourceId window comment.raw,
      row ∈ kept ∨ comment.raw ∈ reading ∨
      ∃ page ∈ nextPage position (commentPhase review),
        comment.id ∈ fromPage pageLimit page (platform.listedIds review window.start)

/-- No issue has a row that is still owed. -/
def IssuesKept (kept : List CommunityActivityRecord) : Prop :=
  ∀ issue ∈ initial.issues.rows, ∀ row ∈ issue.activityRows resourceId window, row ∈ kept

/-- A crawl may continue from the cursor of a batch; issues are the exception. -/
def BatchSound (platform : Repository) (kept : List CommunityActivityRecord)
    (batch : CommunityRecordBatch) : Prop :=
  ∃ cursor, batch.cursor = cursorText.stringify cursor ∧ 0 < cursor.page ∧
    CommentsOwed resourceId window initial platform kept [] (some cursor) ∧
    (cursor.phase ≠ .issues → IssuesKept resourceId window initial kept)

structure Linked (platform : Repository) (yielded : List CommunityRecordBatch)
    (progress : CrawlProgress) : Prop where
  grown : initial.Grows platform
  counted : ∀ cursor ∈ progress.position, 0 < cursor.page
  issues : IssuesOwed resourceId window initial platform (keptRows yielded) progress.issues
    progress.position
  comments : CommentsOwed resourceId window initial platform (keptRows yielded)
    progress.comments progress.position
  pulls : ∀ item ∈ progress.issues, ∀ number ∈ pullRequestNumber item,
    ∃ issue ∈ platform.issues.rows, issue.number = number ∧ issue.pull_request.isSome
  cursors : ∀ (index : Nat) (batch : CommunityRecordBatch), yielded[index]? = some batch →
    BatchSound cursorText resourceId window initial platform
      (keptRows (yielded.take (index + 1))) batch
  full : ∀ bound, platform.FitsIn bound → progress.full < bound

variable {cursorText resourceId window initial}
variable {platform : Repository}

/-- An issue with a row that was not kept is listed. -/
theorem listed_of_unkept (grown : initial.Grows platform) {issue : RepositoryIssue}
    (member : issue ∈ initial.issues.rows) (kept : List CommunityActivityRecord) :
    (∀ row ∈ issue.activityRows resourceId window, row ∈ kept) ∨
      (∃ row ∈ issue.activityRows resourceId window, row ∉ kept) ∧
        issue.number ∈ platform.listedNumbers window.start := by
  by_cases all : ∀ row ∈ issue.activityRows resourceId window, row ∈ kept
  · exact Or.inl all
  · simp only [not_forall] at all
    rcases all with ⟨row, derived, missing⟩
    exact Or.inr ⟨⟨row, derived, missing⟩,
      grown.mem_listedNumbers member ((initial.dated issue member).start_le derived)⟩

theorem listed_of_comment (grown : initial.Grows platform) {review : Bool}
    {comment : RepositoryComment} (member : comment ∈ (initial.comments review).rows)
    {row : CommunityActivityRecord}
    (derived : toCommentRecord resourceId window comment.raw = some row) :
    comment.id ∈ platform.listedIds review window.start := by
  apply grown.mem_listedIds member
  rcases start_le_of_toCommentRecord derived with ⟨time, created, begun⟩
  cases created
  exact Int.le_trans begun ((initial.commentsOrdered review).dated comment member)

/-- At the first page nothing was passed over. -/
theorem commentsOwed_begin (grown : initial.Grows platform)
    (kept : List CommunityActivityRecord) (reading : List GitHubRawComment) :
    CommentsOwed resourceId window initial platform kept reading (some ⟨.issues, 1⟩) := by
  intro review comment member row derived
  have first : nextPage (some ⟨.issues, 1⟩) (commentPhase review) = some 1 := by
    cases review <;> rfl
  refine Or.inr (Or.inr ⟨1, first, ?_⟩)
  rw [fromPage_one]
  exact listed_of_comment grown member derived

/-- Where no unread issue is listed before a page, the crawl may continue from it. -/
theorem issuesOwed_at (grown : initial.Grows platform) {kept : List CommunityActivityRecord}
    {page : Nat}
    (spared : ∀ number ∈ (platform.listedNumbers window.start).take (pageLimit * (page - 1)),
      ¬Unread resourceId window initial kept [] number) :
    IssuesOwed resourceId window initial platform kept [] (some ⟨.issues, page⟩) := by
  intro issue member
  rcases listed_of_unkept grown member kept with all | ⟨unkept, listed⟩
  · exact Or.inl all
  · refine Or.inr (Or.inr ⟨page, rfl, ?_⟩)
    rw [← List.take_append_drop (pageLimit * (page - 1)) (platform.listedNumbers window.start),
      List.mem_append] at listed
    rcases listed with passed | later
    · exact absurd ⟨List.not_mem_nil, issue, member, rfl, unkept⟩ (spared issue.number passed)
    · exact later

theorem linked_begin :
    Linked cursorText resourceId window initial initial [] (CrawlProgress.begins cursorText none)
    where
  grown := .refl initial
  counted := by
    intro cursor same
    cases same
    exact Nat.one_pos
  issues := issuesOwed_at (.refl initial) fun number passed => absurd passed List.not_mem_nil
  comments := commentsOwed_begin (.refl initial) _ _
  pulls := fun _ none => absurd none List.not_mem_nil
  cursors := fun _ _ none => by cases none
  full := fun bound fits => Nat.zero_lt_of_lt fits.issues

/-! ## Requests -/

variable {yielded : List CommunityRecordBatch} {progress : CrawlProgress}

/-- Whatever is listed continues what there was under its number. -/
theorem itemSound_of_listed (grown : initial.Grows platform) {current : RepositoryIssue}
    (listed : current ∈ platform.issues.rows) :
    ItemSound resourceId window initial current.raw := by
  have continues (issue : RepositoryIssue) (member : issue ∈ initial.issues.rows)
      (numbered : current.raw.number = some issue.number) : issue.Continues current := by
    rcases grown.issues issue member with ⟨later, laterMember, continues⟩
    have same : later.number = current.number :=
      continues.number.trans (Option.some.inj numbered).symm
    rw [Table.eq_of_key_eq laterMember listed same] at continues
    exact continues
  refine ⟨rfl, ?_, ?_, ?_⟩
  · intro issue member numbered row derived
    exact (continues issue member numbered).toIssueRecords_subset derived
  · intro issue member numbered
    exact (continues issue member numbered).user
  · intro issue member numbered
    rw [isPullRequest, RepositoryIssue.raw, Option.isSome_map]
    exact (continues issue member numbered).isPull

/-- A full page is no further than the listing is long. -/
theorem Linked.fullAfter_lt (linked : Linked cursorText resourceId window initial platform yielded
    progress) {page bound : Nat} {α : Type} {listing : List α} (counted : 0 < page)
    (fits : platform.FitsIn bound) (short : listing.length < bound) :
    fullAfter progress.full page (pageOf pageLimit page listing).length < bound := by
  rw [fullAfter]
  split
  · exact linked.full bound fits
  · rename_i full
    have most := le_length_of_full (by decide) counted full
    exact Nat.max_lt.mpr ⟨linked.full bound fits, Nat.lt_of_le_of_lt most short⟩

theorem counted_positionAfter (phase : GitHubCrawlPhase) (page items : Nat) :
    ∀ cursor ∈ positionAfter phase page items, 0 < cursor.page := by
  intro cursor same
  rw [positionAfter] at same
  split at same
  · rcases Option.map_eq_some_iff.mp same with ⟨next, _, same⟩
    cases same
    exact Nat.one_pos
  · cases same
    exact Nat.succ_pos _

theorem nextPage_self (phase : GitHubCrawlPhase) (page : Nat) :
    nextPage (some ⟨phase, page⟩) phase = some page := by
  rw [nextPage, Option.bind_some, if_pos rfl]

theorem nextPage_positionAfter {phase : GitHubCrawlPhase} {page items : Nat}
    (full : ¬items < pageLimit) :
    nextPage (positionAfter phase page items) phase = some (page + 1) := by
  rw [positionAfter, if_neg full]
  exact nextPage_self phase _

/-- Reading a page of one phase leaves the others as they were. -/
theorem nextPage_positionAfter_of_ne {phase other : GitHubCrawlPhase} {page items : Nat}
    (different : other ≠ phase) :
    nextPage (positionAfter phase page items) other = nextPage (some ⟨phase, page⟩) other := by
  rw [positionAfter]
  split
  · cases phase <;> cases other <;> first | rfl | exact absurd rfl different
  · cases phase <;> cases other <;> first | rfl | exact absurd rfl different

theorem commentPhase_ne_issues (review : Bool) : GitHubCrawlPhase.issues ≠ commentPhase review := by
  cases review <;> exact nofun

theorem commentPhase_injective {review other : Bool} (same : commentPhase review = commentPhase other) :
    review = other := by
  cases review <;> cases other <;> first | rfl | cases same

/-- Whatever has the id of a comment that was there continues it. -/
theorem raw_of_listed (grown : initial.Grows platform) {review : Bool}
    {comment current : RepositoryComment} (member : comment ∈ (initial.comments review).rows)
    (listed : current ∈ (platform.comments review).rows) (same : current.id = comment.id) :
    current.raw = comment.raw := by
  rcases grown.comments review comment member with ⟨later, laterMember, continues⟩
  have sameId : later.id = current.id :=
    (Option.some.inj (congrArg GitHubRawComment.id continues.1)).trans same.symm
  rw [← Table.eq_of_key_eq laterMember listed sameId]
  exact continues.1

theorem linked_issues (linked : Linked cursorText resourceId window initial platform yielded
    progress) {page : Nat} (counted : 0 < page) (position : progress.position = some ⟨.issues, page⟩)
    (issues : progress.issues = []) {items : List GitHubRawIssue}
    (listed : items = (pageOf pageLimit page (platform.listedIssues window.start)).map (·.raw)) :
    Linked cursorText resourceId window initial platform yielded
      ⟨positionAfter .issues page items.length, items, progress.comments,
        fullAfter progress.full page items.length⟩ := by
  have length : items.length = (pageOf pageLimit page (platform.listedIssues window.start)).length := by
    rw [listed, List.length_map]
  refine ⟨linked.grown, counted_positionAfter _ _ _, ?_, ?_, ?_, linked.cursors, ?_⟩
  · intro issue member
    rcases linked.issues issue member with kept | reading | ⟨next, same, later⟩
    · exact Or.inl kept
    · rw [issues] at reading
      exact absurd reading List.not_mem_nil
    · rw [position, nextPage_self] at same
      cases same
      rcases key_mem_pageOf_or_later RepositoryIssue.number counted later with here | ⟨full, later⟩
      · refine Or.inr (Or.inl ?_)
        rcases List.mem_map.mp here with ⟨current, shown, numbered⟩
        rw [listed]
        exact List.mem_filterMap.mpr
          ⟨current.raw, List.mem_map_of_mem shown, congrArg some numbered⟩
      · rw [← length] at full
        exact Or.inr (Or.inr ⟨page + 1, nextPage_positionAfter full, later⟩)
  · intro review comment member row derived
    rw [nextPage_positionAfter_of_ne (Ne.symm (commentPhase_ne_issues review)), ← position]
    exact linked.comments review comment member row derived
  · intro item member number asked
    rw [listed] at member
    rcases List.mem_map.mp member with ⟨issue, shown, same⟩
    cases same
    have stored : issue ∈ platform.issues.rows :=
      (List.mem_filter.mp (mem_of_mem_fromPage (mem_fromPage_of_mem_pageOf shown))).1
    rcases pullRequestNumber_eq_some asked with ⟨pull, numbered⟩
    rw [isPullRequest, RepositoryIssue.raw, Option.isSome_map] at pull
    exact ⟨issue, stored, Option.some.inj numbered, pull⟩
  · intro bound fits
    rw [length]
    exact linked.fullAfter_lt counted fits
      (Nat.lt_of_le_of_lt (List.length_filter_le _ _) fits.issues)

theorem linked_comments (linked : Linked cursorText resourceId window initial platform yielded
    progress) {review : Bool} {page : Nat} (counted : 0 < page)
    (position : progress.position = some ⟨commentPhase review, page⟩)
    (comments : progress.comments = []) {items : List GitHubRawComment}
    (listed : items =
      (pageOf pageLimit page (platform.listedComments review window.start)).map (·.raw)) :
    Linked cursorText resourceId window initial platform yielded
      ⟨positionAfter (commentPhase review) page items.length, progress.issues, items,
        fullAfter progress.full page items.length⟩ := by
  have length : items.length =
      (pageOf pageLimit page (platform.listedComments review window.start)).length := by
    rw [listed, List.length_map]
  refine ⟨linked.grown, counted_positionAfter _ _ _, ?_, ?_, linked.pulls, linked.cursors, ?_⟩
  · intro issue member
    rw [nextPage_positionAfter_of_ne (commentPhase_ne_issues review), ← position]
    exact linked.issues issue member
  · intro other comment member row derived
    have owed := linked.comments other comment member row derived
    rw [comments, position] at owed
    rcases owed with kept | reading | ⟨next, same, later⟩
    · exact Or.inl kept
    · exact absurd reading List.not_mem_nil
    · by_cases here : other = review
      · cases here
        rw [nextPage_self] at same
        cases same
        rcases key_mem_pageOf_or_later RepositoryComment.id counted later with here | ⟨full, later⟩
        · refine Or.inr (Or.inl ?_)
          rcases List.mem_map.mp here with ⟨current, shown, identified⟩
          have stored : current ∈ (platform.comments review).rows :=
            (List.mem_filter.mp (mem_of_mem_fromPage (mem_fromPage_of_mem_pageOf shown))).1
          rw [listed, ← raw_of_listed linked.grown member stored identified]
          exact List.mem_map_of_mem shown
        · rw [← length] at full
          exact Or.inr (Or.inr ⟨page + 1, nextPage_positionAfter full, later⟩)
      · refine Or.inr (Or.inr ⟨next, ?_, later⟩)
        rw [nextPage_positionAfter_of_ne fun same => here (commentPhase_injective same)]
        exact same
  · intro bound fits
    rw [length]
    exact linked.fullAfter_lt counted fits
      (Nat.lt_of_le_of_lt (List.length_filter_le _ _) (fits.comments review))

/-- The reviews of a pull request that was listed. -/
theorem reviewsOf_of_pull {number : Nat}
    (pull : ∃ issue ∈ platform.issues.rows, issue.number = number ∧ issue.pull_request.isSome) :
    ∃ issue ∈ platform.issues.rows, issue.number = number ∧
      platform.reviewsOf number = some issue.reviews := by
  rcases pull with ⟨issue, member, numbered, isPull⟩
  rcases Option.isSome_iff_exists.mp isPull with ⟨pull, own⟩
  have found : platform.issues.find? number = some issue :=
    Table.find?_eq_some_iff.mpr ⟨member, numbered⟩
  refine ⟨issue, member, numbered, ?_⟩
  rw [Repository.reviewsOf, found, Option.bind_some, RepositoryIssue.reviews, own]
  rfl

/-- Every request is answered as an attempt counts on. -/
theorem requested (linked : Linked cursorText resourceId window initial platform yielded progress)
    {α : Type} (operation : GitHubRequest α)
    (guaranteed : Guaranteed cursorText resourceId window initial progress (.request operation)) :
    CountedOn resourceId window initial progress (.request operation)
        (Repository.answer operation platform) ∧
      Linked cursorText resourceId window initial platform yielded
        (recordRead progress (.request operation) (Repository.answer operation platform)) := by
  cases operation with
  | resolveRepository resourceId => exact ⟨⟨platform.fullName, rfl⟩, linked⟩
  | issues repository since page =>
      rcases guaranteed with ⟨sameStart, counted, position, issues, comments⟩
      cases sameStart
      refine ⟨⟨_, rfl, ?_⟩, linked_issues linked counted position issues rfl⟩
      intro item member
      rcases List.mem_map.mp member with ⟨current, shown, same⟩
      cases same
      exact itemSound_of_listed linked.grown
        (List.mem_filter.mp (mem_of_mem_fromPage (mem_fromPage_of_mem_pageOf shown))).1
  | comments repository review since page =>
      rcases guaranteed with ⟨sameStart, counted, position, issues, comments⟩
      cases sameStart
      exact ⟨⟨_, rfl⟩, linked_comments linked counted position comments rfl⟩
  | reviews repository number page =>
      rcases guaranteed with ⟨counted, item, reading, asked⟩
      rcases reviewsOf_of_pull (linked.pulls item reading number asked)
        with ⟨current, stored, numbered, reviews⟩
      have reply : Repository.answer (.reviews repository number page) platform =
          .ok (pageOf pageLimit page current.reviews) := by
        rw [Repository.answer, reviews]
      rw [reply]
      refine ⟨⟨_, rfl, ?_⟩, ⟨linked.grown, linked.counted, linked.issues, linked.comments,
        linked.pulls, linked.cursors, ?_⟩⟩
      · intro issue member same review reviewMember
        rcases linked.grown.issues issue member with ⟨later, laterMember, continues⟩
        have sameIssue : later = current :=
          Table.eq_of_key_eq laterMember stored
            (continues.number.trans (same.trans numbered.symm))
        rw [sameIssue] at continues
        exact mem_pageOf_or_later continues.reviews counted reviewMember
      · intro bound fits
        exact linked.fullAfter_lt counted fits (fits.reviews current stored)

/-! ## Batches -/

theorem nextPage_issues_of_ne {cursor : GitHubResourceCursor} (other : cursor.phase ≠ .issues) :
    nextPage (some cursor) .issues = none := by
  rcases cursor with ⟨phase, page⟩
  cases phase with
  | issues => exact absurd rfl other
  | issueComments => rfl
  | reviewComments => rfl

/-- A batch has the rows of what was read, and a crawl may continue after it. -/
theorem linked_yield (linked : Linked cursorText resourceId window initial platform yielded
    progress) {batch : CommunityRecordBatch}
    (guaranteed : Guaranteed cursorText resourceId window initial progress (.yield batch)) :
    Linked cursorText resourceId window initial platform (yielded ++ [batch])
      { progress with issues := [], comments := [] } := by
  rcases guaranteed with ⟨cursor, covers⟩
  have issues : IssuesOwed resourceId window initial platform (keptRows (yielded ++ [batch])) []
      progress.position := by
    rw [keptRows_append]
    intro issue member
    rcases linked.issues issue member with kept | reading | later
    · exact Or.inl fun row derived => List.mem_append_left _ (kept row derived)
    · exact Or.inl fun row derived =>
        List.mem_append_right _ (covers.issues issue member reading row derived)
    · exact Or.inr (Or.inr later)
  have comments : CommentsOwed resourceId window initial platform (keptRows (yielded ++ [batch]))
      [] progress.position := by
    rw [keptRows_append]
    intro review comment member row derived
    rcases linked.comments review comment member row derived with kept | reading | later
    · exact Or.inl (List.mem_append_left _ kept)
    · exact Or.inl (List.mem_append_right _ (covers.comments _ reading row derived))
    · exact Or.inr (Or.inr later)
  have sound : BatchSound cursorText resourceId window initial platform
      (keptRows (yielded ++ [batch])) batch := by
    refine ⟨cursorOf progress.position, cursor, ?_, ?_, ?_⟩
    · cases position : progress.position with
      | none => exact Nat.one_pos
      | some cursor => exact linked.counted cursor position
    · cases position : progress.position with
      | some cursor =>
          rw [position] at comments
          exact comments
      | none =>
          intro review comment member row derived
          rw [position] at comments
          rcases comments review comment member row derived with kept | reading | ⟨_, none, _⟩
          · exact Or.inl kept
          · exact absurd reading List.not_mem_nil
          · cases none
    · intro later issue member
      have passed : nextPage progress.position .issues = none := by
        cases position : progress.position with
        | none => rfl
        | some cursor =>
            rw [position] at later
            exact nextPage_issues_of_ne later
      rcases issues issue member with kept | reading | ⟨_, none, _⟩
      · exact kept
      · exact absurd reading List.not_mem_nil
      · rw [passed] at none
        cases none
  refine ⟨linked.grown, linked.counted, issues, comments, ?_, ?_, linked.full⟩
  · exact fun _ none => absurd none List.not_mem_nil
  · intro index other found
    rw [List.getElem?_append] at found
    split at found
    · rename_i inside
      rw [List.take_append_of_le_length (Nat.succ_le_of_lt inside)]
      exact linked.cursors index other found
    · rename_i beyond
      have last : index = yielded.length := by
        have short := (List.getElem?_eq_some_iff.mp found).1
        rw [List.length_singleton] at short
        omega
      rw [last, Nat.sub_self] at found
      cases found
      rw [last, List.take_of_length_le (Nat.le_of_eq (by rw [List.length_append]; rfl))]
      exact sound

/-! ## Resuming -/

theorem cursors_take (linked : Linked cursorText resourceId window initial platform yielded
    progress) (kept index : Nat) (batch : CommunityRecordBatch)
    (found : (yielded.take kept)[index]? = some batch) :
    BatchSound cursorText resourceId window initial platform
      (keptRows ((yielded.take kept).take (index + 1))) batch := by
  rw [List.getElem?_take] at found
  split at found
  · rename_i inside
    rw [List.take_take, Nat.min_eq_left (Nat.succ_le_of_lt inside)]
    exact linked.cursors index batch found
  · cases found

/-- A crawl goes on after the batches that are kept, where it passes over no unread issue. -/
theorem linked_resume (linked : Linked cursorText resourceId window initial platform yielded
    progress) (kept : Nat)
    (spared : ∀ page ∈ nextPage (CrawlProgress.begins cursorText
        (CrawlRun.cursorAfter (·.cursor) (yielded.take kept))).position .issues,
      ∀ number ∈ (platform.listedNumbers window.start).take (pageLimit * (page - 1)),
        ¬Unread resourceId window initial (keptRows (yielded.take kept)) [] number) :
    0 < (parseCursor cursorText
        (CrawlRun.cursorAfter (·.cursor) (yielded.take kept))).page ∧
      Linked cursorText resourceId window initial platform (yielded.take kept)
        (CrawlProgress.begins cursorText
          (CrawlRun.cursorAfter (·.cursor) (yielded.take kept))) := by
  cases last : (yielded.take kept).getLast? with
  | none =>
      have empty := List.getLast?_eq_none_iff.mp last
      rw [empty] at spared ⊢
      refine ⟨Nat.one_pos, linked.grown, ?_, issuesOwed_at linked.grown (spared 1 rfl),
        commentsOwed_begin linked.grown _ _, fun _ none => absurd none List.not_mem_nil,
        (fun _ _ none => by cases none), fun bound fits => Nat.zero_lt_of_lt fits.issues⟩
      intro cursor same
      cases same
      exact Nat.one_pos
  | some batch =>
      have position : CrawlRun.cursorAfter (·.cursor) (yielded.take kept) = some batch.cursor := by
        rw [CrawlRun.cursorAfter, last]
        rfl
      have found := last
      rw [List.getLast?_eq_getElem?] at found
      have nonempty : 0 < (yielded.take kept).length := by
        have inside := (List.getElem?_eq_some_iff.mp found).1
        omega
      have sound := cursors_take linked kept _ batch found
      rw [Nat.sub_add_cancel nonempty, List.take_length] at sound
      rcases sound with ⟨cursor, text, counted, comments, issues⟩
      have parsed : parseCursor cursorText (some batch.cursor) = cursor := by
        rw [parseCursor, text, cursorText.parse_stringify]
        rfl
      rw [position] at spared ⊢
      rw [CrawlProgress.begins, parsed] at spared ⊢
      refine ⟨counted, linked.grown, ?_, ?_, comments,
        fun _ none => absurd none List.not_mem_nil, cursors_take linked kept,
        fun bound fits => Nat.zero_lt_of_lt fits.issues⟩
      · intro other same
        cases same
        exact counted
      · by_cases phase : cursor.phase = .issues
        · rcases cursor with ⟨phase', page⟩
          cases phase
          exact issuesOwed_at linked.grown (spared page rfl)
        · exact fun issue member => Or.inl (issues phase issue member)

/-! ## Changes -/

theorem CommentsOwed.happen {kept : List CommunityActivityRecord}
    {reading : List GitHubRawComment} {position : Option GitHubResourceCursor}
    {event : RepositoryChange} {after : Repository}
    (owed : CommentsOwed resourceId window initial platform kept reading position)
    (happened : Repository.happen event platform = some after) :
    CommentsOwed resourceId window initial after kept reading position := by
  intro review comment member row derived
  rcases owed review comment member row derived with kept | reading | ⟨page, same, later⟩
  · exact Or.inl kept
  · exact Or.inr (Or.inl reading)
  · exact Or.inr (Or.inr ⟨page, same, mem_fromPage_of_sublist
      (Repository.listedIds_sublist_of_happen happened review) later⟩)

/-- A change passes over no issue if no unread one comes forward onto a page that was read. -/
theorem linked_change (linked : Linked cursorText resourceId window initial platform yielded
    progress) {event : RepositoryChange} {after : Repository}
    (happened : Repository.happen event platform = some after)
    (spared : ∀ issue, event = .issue issue → ∀ page ∈ nextPage progress.position .issues,
      issue.number ∈ (platform.listedNumbers window.start).take (pageLimit * (page - 1)) →
      ∀ number ∈ (platform.listedNumbers window.start)[pageLimit * (page - 1)]?,
        ¬Unread resourceId window initial (keptRows yielded) progress.issues number) :
    Linked cursorText resourceId window initial after yielded progress := by
  have grown := Repository.grows_of_happen happened
  refine ⟨linked.grown.trans grown, linked.counted, ?_, linked.comments.happen happened, ?_, ?_,
    fun bound fits => linked.full bound (grown.fitsIn fits)⟩
  · intro issue member
    rcases listed_of_unkept linked.grown member (keptRows yielded) with kept | ⟨unkept, _⟩
    · exact Or.inl kept
    · by_cases reading : issue.number ∈ progress.issues.filterMap (·.number)
      · exact Or.inr (Or.inl reading)
      · have unread : Unread resourceId window initial (keptRows yielded) progress.issues
            issue.number := ⟨reading, issue, member, rfl, unkept⟩
        rcases linked.issues issue member with kept | here | ⟨page, same, later⟩
        · exact Or.inl kept
        · exact absurd here reading
        · refine Or.inr (Or.inr ⟨page, same, Repository.mem_fromPage_of_happen happened ?_ later⟩)
          intro updated put before found
          exact spared updated put page same before issue.number found unread
  · intro item reading number asked
    rcases linked.pulls item reading number asked with ⟨issue, member, numbered, pull⟩
    rcases grown.issues issue member with ⟨current, stored, continues⟩
    exact ⟨current, stored, continues.number.trans numbered, continues.isPull.trans pull⟩
  · intro index batch found
    rcases linked.cursors index batch found with ⟨cursor, text, counted, comments, issues⟩
    exact ⟨cursor, text, counted, comments.happen happened, issues⟩

end Linked

/-! ## What a crawl yields -/

section Yields

variable {cursorText : CursorText GitHubResourceCursor} {fuel : Nat} {resourceId : String}
  {window : CommunityFetchWindow} {initial : Repository}

theorem linked_of_reachable {run : CrawlRun}
    (reachable : (crawlSystem cursorText fuel resourceId window initial).Reachable
      (PassesOverNone cursorText resourceId window initial) run) :
    Linked cursorText resourceId window initial run.platform run.yielded run.progress ∧
      run.running.Obeys (crawlProtocol cursorText resourceId window initial)
        (CrawlRead fuel resourceId) run.progress := by
  refine CrawlRun.protocol_invariant (crawlProtocol cursorText resourceId window initial)
    (CrawlRead fuel resourceId) (Linked cursorText resourceId window initial) linked_begin
    (iterateRecords_obeys (show 0 < (parseCursor cursorText none).page from Nat.one_pos))
    ?_ ?_ ?_ ?_ reachable
  · exact fun operation _ _ _ _ linked guaranteed => requested linked operation guaranteed
  · exact fun batch platform yielded progress linked guaranteed =>
      ⟨trivial, linked_yield linked guaranteed⟩
  · intro run kept linked spared
    rcases linked_resume linked kept spared with ⟨counted, resumed⟩
    exact ⟨resumed, iterateRecords_obeys counted⟩
  · intro run event after linked spared happened
    apply linked_change linked happened
    intro issue same
    cases same
    exact spared

/-- A crawl that passes over no unread issue ends complete, with every row that the
repository had when it began. -/
theorem crawl_yieldsEverything {run : CrawlRun}
    {result : Except CommunityApiError CommunityResourceCoverage}
    (reachable : (crawlSystem cursorText fuel resourceId window initial).Reachable
      (PassesOverNone cursorText resourceId window initial) run)
    (ended : run.result = some result) (fits : run.platform.FitsIn fuel) :
    result = .ok (coverage resourceId .complete none) ∧
      ∀ row ∈ initial.activityRows resourceId window, row ∈ keptRows run.yielded := by
  rcases linked_of_reachable reachable with ⟨linked, obeyed⟩
  rw [CrawlRun.running_of_result ended] at obeyed
  have read : CrawlRead fuel resourceId run.progress result := obeyed
  cases result with
  | error error => exact absurd (linked.full fuel fits) (Nat.not_lt.mpr (read.failed error rfl))
  | ok outcome =>
      rcases read.read outcome rfl with ⟨complete, position, issues, comments⟩
      refine ⟨congrArg _ complete, ?_⟩
      have keptComments (review : Bool) (row : CommunityActivityRecord)
          (derived : row ∈ toCommentRecords resourceId window
            ((initial.comments review).rows.map (·.raw))) : row ∈ keptRows run.yielded := by
        rcases List.mem_filterMap.mp derived with ⟨raw, listed, own⟩
        rcases List.mem_map.mp listed with ⟨comment, member, same⟩
        cases same
        rcases linked.comments review comment member row own with kept | reading | ⟨_, none, _⟩
        · exact kept
        · rw [comments] at reading
          exact absurd reading List.not_mem_nil
        · rw [position] at none
          cases none
      intro row derived
      rcases List.mem_append.mp derived with others | reviewComment
      · rcases List.mem_append.mp others with own | issueComment
        · rcases List.mem_flatMap.mp own with ⟨issue, member, own⟩
          rcases linked.issues issue member with kept | reading | ⟨_, none, _⟩
          · exact kept row own
          · rw [issues] at reading
            exact absurd reading List.not_mem_nil
          · rw [position] at none
            cases none
        · exact keptComments false row issueComment
      · exact keptComments true row reviewComment

/-! ## A busy repository -/

/-- Cursors as a letter for the phase and a mark for each page. -/
private def markText : CursorText GitHubResourceCursor where
  stringify cursor := String.ofList
    ((match cursor.phase with
      | .issues => 'i'
      | .issueComments => 'c'
      | .reviewComments => 'r') :: List.replicate cursor.page '.')
  parse text := match text.toList with
    | 'i' :: marks => some ⟨.issues, marks.length⟩
    | 'c' :: marks => some ⟨.issueComments, marks.length⟩
    | 'r' :: marks => some ⟨.reviewComments, marks.length⟩
    | _ => none
  parse_stringify := by
    intro ⟨phase, page⟩
    cases phase <;> simp

private def openedAt (number : Nat) (updated_at : Int) : RepositoryIssue where
  number
  id := number
  user := ⟨some 7, false⟩
  created_at := number
  updated_at
  pull_request := none

private def withIssues (count : Nat) : List RepositoryIssue :=
  (List.range count).map fun index => openedAt (index + 1) (index + 1)

private def noComments : CommentTable := .empty

private theorem noComments_ordered (now : Int) : noComments.Ordered now :=
  ⟨.nil, fun _ none => absurd none List.not_mem_nil, fun _ none => absurd none List.not_mem_nil⟩

private def busyRepository : Repository where
  fullName := "owner/name"
  issues := ⟨withIssues 101, by decide +kernel⟩
  comments _ := noComments
  now := 101
  ordered := by decide +kernel
  dated := by decide +kernel
  past := by decide +kernel
  commentsOrdered _ := noComments_ordered 101

private def sampleWindow : CommunityFetchWindow := ⟨0, 1000⟩

private def sampleAttempt (cursor : Option String) :
    GitHubCrawl (Except CommunityApiError CommunityResourceCoverage) :=
  iterateRecords markText 200 ⟨"repo", sampleWindow, cursor⟩

private def performSample (actions : List (CrawlAction RepositoryChange)) : CrawlRun :=
  System.performAll
    (CrawlRun.perform sampleAttempt (·.cursor) Repository.answer Repository.happen
      (CrawlProgress.begins markText) recordRead)
    (CrawlRun.continueAfter sampleAttempt (·.cursor) (CrawlProgress.begins markText)
      busyRepository [])
    actions

private theorem performSample_reachable
    {permitted : CrawlRun → CrawlAction RepositoryChange → Prop}
    {actions : List (CrawlAction RepositoryChange)}
    (along : System.AllAlong
      (CrawlRun.perform sampleAttempt (·.cursor) Repository.answer Repository.happen
        (CrawlProgress.begins markText) recordRead)
      (fun before action => permitted before action ∧ True)
      (CrawlRun.continueAfter sampleAttempt (·.cursor) (CrawlProgress.begins markText)
        busyRepository []) actions) :
    (crawlSystem markText 200 "repo" sampleWindow busyRepository).Reachable permitted
      (performSample actions) :=
  System.reachable_performAll (.start rfl) along

/-- The last issue is updated when the first page was read, and the crawl begins again. -/
private def calmActions : List (CrawlAction RepositoryChange) :=
  List.replicate 3 .proceed ++ [.change (.issue (openedAt 101 150)), .resume 0] ++
    List.replicate 9 .proceed

theorem crawl_yieldsEverything_sample :
    (.ok (coverage "repo" .complete none) : Except CommunityApiError CommunityResourceCoverage) =
        .ok (coverage "repo" .complete none) ∧
      ∀ row ∈ busyRepository.activityRows "repo" sampleWindow,
        row ∈ keptRows (performSample calmActions).yielded :=
  crawl_yieldsEverything (performSample_reachable (by decide +kernel)) (by decide +kernel)
    ⟨by decide +kernel, by decide +kernel, by decide +kernel⟩

/-- The first issue is updated between the first and the second page. -/
private def busyActions : List (CrawlAction RepositoryChange) :=
  List.replicate 3 .proceed ++ [.change (.issue (openedAt 1 150))] ++ List.replicate 6 .proceed

private def lastOpened : CommunityActivityRecord :=
  ⟨CommunityGithubActivityType.issueOpened, "7", none, "repo", "101", 101, 1, false, false⟩

/-- The first issue of the second page comes onto the first one, and is never read. -/
theorem busyRepository_losesIssue :
    ¬∀ (run : CrawlRun) (result : Except CommunityApiError CommunityResourceCoverage),
      (crawlSystem markText 200 "repo" sampleWindow busyRepository).Reachable (fun _ _ => True)
        run →
      run.result = some result → run.platform.FitsIn 200 →
      ∀ row ∈ busyRepository.activityRows "repo" sampleWindow, row ∈ keptRows run.yielded := by
  intro everything
  have owed : lastOpened ∈ busyRepository.activityRows "repo" sampleWindow := by decide +kernel
  have missing : lastOpened ∉ keptRows (performSample busyActions).yielded := by decide +kernel
  exact missing (everything _ (.ok (coverage "repo" .complete none))
    (performSample_reachable (by decide +kernel)) (by decide +kernel)
    ⟨by decide +kernel, by decide +kernel, by decide +kernel⟩ lastOpened owed)

end Yields

end Github

end Reputo.Community

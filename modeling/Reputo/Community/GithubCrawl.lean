import Reputo.Community.GithubRepository

/-!
# One attempt of a GitHub crawl

What an attempt asks for and yields while its requests are answered: page after page of each
phase, with a batch that has all rows of the page.  It ends complete, with every phase read,
unless its fuel is used up.
-/

namespace Reputo.Community

open Reputo.Library

namespace Github

/-! ## The rows of a repository -/

section Rows

variable (resourceId : String) (window : CommunityFetchWindow)

/-- The rows of an issue and of its reviews. -/
def RepositoryIssue.activityRows (issue : RepositoryIssue) : List CommunityActivityRecord :=
  toIssueRecords resourceId window issue.raw ++
    toReviewRecords resourceId window issue.reviews (issue.user.id.map toString)

/-- Every issue, pull request, review and comment whose time lies in the window. -/
def Repository.activityRows (repository : Repository) : List CommunityActivityRecord :=
  repository.issues.rows.flatMap (·.activityRows resourceId window) ++
    toCommentRecords resourceId window ((repository.comments false).rows.map (·.raw)) ++
    toCommentRecords resourceId window ((repository.comments true).rows.map (·.raw))

variable {resourceId window}

/-- A row lies in the window. -/
theorem start_le_of_toRecord {type : String} {actor : GitHubActor} {counterparty : Option String}
    {objectId : String} {occurredAt : Option Int} {row : CommunityActivityRecord}
    (derived : toRecord resourceId window type actor counterparty objectId occurredAt = some row) :
    ∃ time ∈ occurredAt, window.start ≤ time := by
  cases occurredAt with
  | none => cases derived
  | some time =>
      simp only [toRecord] at derived
      split at derived
      · rename_i inside
        rw [isWithinWindow, Bool.and_eq_true, decide_eq_true_iff, decide_eq_true_iff] at inside
        exact ⟨time, rfl, inside.1⟩
      · cases derived

theorem start_le_of_toCommentRecord {comment : GitHubRawComment} {row : CommunityActivityRecord}
    (derived : toCommentRecord resourceId window comment = some row) :
    ∃ time ∈ comment.created_at, window.start ≤ time := by
  rw [toCommentRecord] at derived
  split at derived
  · exact start_le_of_toRecord derived
  · cases derived

theorem start_le_of_toReviewRecord {author : Option String} {review : GitHubRawReview}
    {row : CommunityActivityRecord}
    (derived : toReviewRecord resourceId window author review = some row) :
    review.pending = false ∧ ∃ time ∈ review.submitted_at, window.start ≤ time := by
  rw [toReviewRecord] at derived
  split at derived
  · split at derived
    · cases derived
    · rename_i submitted
      exact ⟨Bool.eq_false_iff.mpr submitted, start_le_of_toRecord derived⟩
  · cases derived

theorem start_le_of_mem_toIssueRecords {raw : GitHubRawIssue} {row : CommunityActivityRecord}
    (member : row ∈ toIssueRecords resourceId window raw) :
    (∃ time ∈ raw.created_at, window.start ≤ time) ∨
      ∃ merged ∈ raw.pull_request, ∃ time ∈ merged, window.start ≤ time := by
  rw [toIssueRecords] at member
  split at member
  · split at member
    · exact Or.inl (start_le_of_toRecord (Option.mem_toList.mp member))
    · rename_i merged pull
      rcases List.mem_append.mp member with opened | merge
      · exact Or.inl (start_le_of_toRecord (Option.mem_toList.mp opened))
      · exact Or.inr ⟨merged, pull, start_le_of_toRecord (Option.mem_toList.mp merge)⟩
  · cases member

/-- An issue with a row in the window was updated since its start. -/
theorem RepositoryIssue.Dated.start_le {issue : RepositoryIssue} (dated : issue.Dated)
    {row : CommunityActivityRecord} (member : row ∈ issue.activityRows resourceId window) :
    window.start ≤ issue.updated_at := by
  rcases List.mem_append.mp member with own | reviewed
  · rcases start_le_of_mem_toIssueRecords own with ⟨time, created, begun⟩ | ⟨merged, marked, merge⟩
    · cases created
      exact Int.le_trans begun dated.created
    · rcases merge with ⟨time, mergedThen, begun⟩
      rcases Option.map_eq_some_iff.mp marked with ⟨pull, own, same⟩
      cases same
      exact Int.le_trans begun (dated.merged pull own time mergedThen)
  · rcases List.mem_filterMap.mp reviewed with ⟨review, stored, derived⟩
    rcases start_le_of_toReviewRecord derived with ⟨submitted, time, then_, begun⟩
    exact Int.le_trans begun (dated.reviewed review stored submitted time then_)

/-- What an issue yields, it still yields later. -/
theorem RepositoryIssue.Continues.toIssueRecords_subset {issue later : RepositoryIssue}
    (continues : issue.Continues later) {row : CommunityActivityRecord}
    (member : row ∈ toIssueRecords resourceId window issue.raw) :
    row ∈ toIssueRecords resourceId window later.raw := by
  rcases issue with ⟨number, id, user, created_at, updated_at, pull_request⟩
  rcases later with ⟨number', id', user', created_at', updated_at', pull_request'⟩
  rcases continues with ⟨sameNumber, sameId, sameUser, sameCreated, _, sameKind, merged, _⟩
  cases sameNumber
  cases sameId
  cases sameUser
  cases sameCreated
  simp only [RepositoryIssue.raw, toIssueRecords] at member merged ⊢
  cases actor : toActor user with
  | none => simp [actor] at member
  | some actor' =>
      simp only [actor] at member ⊢
      cases pull_request with
      | none =>
          cases pull_request' with
          | none => exact member
          | some pull' => cases sameKind
      | some pull =>
          cases pull_request' with
          | none => cases sameKind
          | some pull' =>
              rcases List.mem_append.mp member with opened | merge
              · exact List.mem_append_left _ opened
              · apply List.mem_append_right
                rcases start_le_of_toRecord (Option.mem_toList.mp merge) with ⟨time, mergedThen, _⟩
                have same := Option.some.inj (merged pull rfl time mergedThen)
                rw [Option.mem_def.mp mergedThen] at merge
                rw [same]
                exact merge

end Rows

/-! ## What an attempt has read -/

/-- Where the crawl goes on, or that every page was read; the issues and comments whose rows
were not yielded yet; and the last full page. -/
structure CrawlProgress where
  position : Option GitHubResourceCursor
  issues : List GitHubRawIssue
  comments : List GitHubRawComment
  full : Nat
  deriving DecidableEq, Repr

/-- The phases after one. -/
def phaseAfter : GitHubCrawlPhase → Option GitHubCrawlPhase
  | .issues => some .issueComments
  | .issueComments => some .reviewComments
  | .reviewComments => none

namespace CrawlProgress

def begins (cursorText : CursorText GitHubResourceCursor) (cursor : Option String) :
    CrawlProgress :=
  ⟨some (parseCursor cursorText cursor), [], [], 0⟩

end CrawlProgress

/-- The phase that lists the comments of a kind. -/
def commentPhase (review : Bool) : GitHubCrawlPhase :=
  if review then .reviewComments else .issueComments

/-- After a page of so many items; a short one ends its phase. -/
def positionAfter (phase : GitHubCrawlPhase) (page items : Nat) : Option GitHubResourceCursor :=
  if items < pageLimit then (phaseAfter phase).map fun next => ⟨next, 1⟩
  else some ⟨phase, page + 1⟩

def fullAfter (full page items : Nat) : Nat :=
  if items < pageLimit then full else max full page

theorem le_fullAfter (full page items : Nat) : full ≤ fullAfter full page items := by
  rw [fullAfter]
  split
  · exact Nat.le_refl _
  · exact Nat.le_max_left _ _

/-- What is read is recorded until its rows are yielded. -/
def recordRead : ∀ {α : Type}, CrawlProgress → Yielding GitHubRequest CommunityRecordBatch α →
    α → CrawlProgress
  | _, progress, .request (.issues _ _ page), .ok items =>
      ⟨positionAfter .issues page items.length, items, progress.comments,
        fullAfter progress.full page items.length⟩
  | _, progress, .request (.comments _ review _ page), .ok items =>
      ⟨positionAfter (commentPhase review) page items.length, progress.issues, items,
        fullAfter progress.full page items.length⟩
  | _, progress, .request (.reviews _ _ page), .ok reviews =>
      { progress with full := fullAfter progress.full page reviews.length }
  | _, progress, .yield _, _ => { progress with issues := [], comments := [] }
  | _, progress, .request _, _ => progress

/-- The page from which a phase is still to be read. -/
def nextPage (position : Option GitHubResourceCursor) (phase : GitHubCrawlPhase) : Option Nat :=
  position.bind fun cursor =>
    if phase = cursor.phase then some cursor.page
    else if phase ∈ cursor.phase.onwards then some 1
    else none

/-! ## What an attempt guarantees -/

section Protocol

variable (cursorText : CursorText GitHubResourceCursor) (fuel : Nat) (resourceId : String)
  (window : CommunityFetchWindow) (initial : Repository)

/-- The cursor of the batch that is yielded after a page. -/
def cursorOf (position : Option GitHubResourceCursor) : GitHubResourceCursor :=
  position.getD ⟨.reviewComments, 1⟩

/-- A listed issue is a later state of the one with its number. -/
structure ItemSound (item : GitHubRawIssue) : Prop where
  numbered : item.number.isSome = true
  rows : ∀ issue ∈ initial.issues.rows, item.number = some issue.number →
    ∀ row ∈ toIssueRecords resourceId window issue.raw, row ∈ toIssueRecords resourceId window item
  user : ∀ issue ∈ initial.issues.rows, item.number = some issue.number → item.user = issue.user
  isPull : ∀ issue ∈ initial.issues.rows, item.number = some issue.number →
    isPullRequest item = issue.pull_request.isSome

/-- The records have the rows of what was read and not yielded yet. -/
structure Covers (progress : CrawlProgress) (records : List CommunityActivityRecord) : Prop where
  issues : ∀ issue ∈ initial.issues.rows, issue.number ∈ progress.issues.filterMap (·.number) →
    ∀ row ∈ issue.activityRows resourceId window, row ∈ records
  comments : ∀ comment ∈ progress.comments, ∀ row ∈ toCommentRecord resourceId window comment,
    row ∈ records

/-- A page that is requested is the next one, when nothing is left to be yielded. -/
def Guaranteed : ∀ {α : Type}, CrawlProgress → Yielding GitHubRequest CommunityRecordBatch α →
    Prop
  | _, _, .request (.resolveRepository _) => True
  | _, progress, .request (.issues _ since page) => since = window.start ∧ 0 < page ∧
      progress.position = some ⟨.issues, page⟩ ∧ progress.issues = [] ∧ progress.comments = []
  | _, progress, .request (.comments _ review since page) => since = window.start ∧ 0 < page ∧
      progress.position = some ⟨commentPhase review, page⟩ ∧ progress.issues = [] ∧
      progress.comments = []
  | _, progress, .request (.reviews _ number page) =>
      0 < page ∧ ∃ item ∈ progress.issues, pullRequestNumber item = some number
  | _, progress, .yield batch => batch.cursor = cursorText.stringify (cursorOf progress.position) ∧
      Covers resourceId window initial progress batch.records

/-- Every request is answered, with all reviews that there were. -/
def CountedOn : ∀ {α : Type}, CrawlProgress → Yielding GitHubRequest CommunityRecordBatch α →
    α → Prop
  | _, _, .request (.resolveRepository _), reply => ∃ name, reply = .ok (some name)
  | _, _, .request (.issues _ _ _), reply => ∃ items, reply = .ok items ∧
      ∀ item ∈ items, ItemSound resourceId window initial item
  | _, _, .request (.comments _ _ _ _), reply => ∃ items, reply = .ok items
  | _, _, .request (.reviews _ number page), reply => ∃ reviews, reply = .ok reviews ∧
      ∀ issue ∈ initial.issues.rows, issue.number = number →
        ∀ review ∈ fromPage pageLimit page issue.reviews, review ∈ reviews ∨
          (¬reviews.length < pageLimit ∧ review ∈ fromPage pageLimit (page + 1) issue.reviews)
  | _, _, .yield _, _ => True

def crawlProtocol : Protocol (Yielding GitHubRequest CommunityRecordBatch) CrawlProgress where
  guarantees progress operation := Guaranteed cursorText resourceId window initial progress operation
  counts progress operation reply := CountedOn resourceId window initial progress operation reply
  record := recordRead

/-- Reviews were read, and nothing else. -/
structure SameReading (before after : CrawlProgress) : Prop where
  position : after.position = before.position
  issues : after.issues = before.issues
  comments : after.comments = before.comments
  full : before.full ≤ after.full

theorem SameReading.refl (progress : CrawlProgress) : SameReading progress progress :=
  ⟨rfl, rfl, rfl, Nat.le_refl _⟩

theorem SameReading.trans {before between after : CrawlProgress}
    (first : SameReading before between) (second : SameReading between after) :
    SameReading before after where
  position := second.position.trans first.position
  issues := second.issues.trans first.issues
  comments := second.comments.trans first.comments
  full := Nat.le_trans first.full second.full

/-- Something was read with the reviews: it fails only when the fuel is used up, and then as
many pages were full. -/
structure Reading {τ : Type} (before : CrawlProgress) (holds : τ → Prop) (after : CrawlProgress)
    (result : Except CommunityApiError τ) : Prop where
  same : SameReading before after
  failed : ∀ error, result = .error error → error = .other ∧ fuel ≤ after.full
  holds : ∀ value, result = .ok value → holds value

variable {fuel}

theorem Reading.ok {τ : Type} {before after : CrawlProgress} {holds : τ → Prop} {value : τ}
    (same : SameReading before after) (held : holds value) :
    Reading fuel before holds after (.ok value) where
  same := same
  failed _ failed := by cases failed
  holds _ whole := by
    cases whole
    exact held

theorem Reading.throw {τ υ : Type} {before after : CrawlProgress} {holds : τ → Prop}
    {others : υ → Prop} {error : CommunityApiError}
    (reading : Reading fuel before holds after (.error error)) :
    Reading fuel before others after (.error error) where
  same := reading.same
  failed thrown same := by
    cases same
    exact reading.failed error rfl
  holds _ whole := by cases whole

theorem Reading.after {τ : Type} {first before after : CrawlProgress} {holds : τ → Prop}
    {result : Except CommunityApiError τ} (same : SameReading first before)
    (reading : Reading fuel before holds after result) :
    Reading fuel first holds after result where
  same := same.trans reading.same
  failed := reading.failed
  holds := reading.holds

variable {cursorText resourceId window initial}
variable {repository : String}

/-- The pages of the reviews of a pull request from one page on. -/
theorem reviewPages_obeys {number : Nat} (authorId : Option String) {gas page : Nat}
    {progress : CrawlProgress} (counted : 0 < page)
    (asked : ∃ item ∈ progress.issues, pullRequestNumber item = some number)
    (enough : fuel ≤ gas + (page - 1)) (read : page - 1 ≤ progress.full) :
    (reviewPages resourceId window repository number authorId gas page).Obeys
      (crawlProtocol cursorText resourceId window initial)
      (Reading fuel progress fun records => ∀ issue ∈ initial.issues.rows,
        issue.number = number → ∀ review ∈ fromPage pageLimit page issue.reviews,
        ∀ row ∈ toReviewRecord resourceId window authorId review, row ∈ records) progress := by
  induction gas generalizing page progress with
  | zero =>
      refine Program.obeys_pure ⟨.refl progress, ?_, ?_⟩
      · intro error failed
        cases failed
        exact ⟨rfl, by omega⟩
      · intro records none
        cases none
  | succ gas ih =>
      rw [reviewPages]
      refine Program.obeys_perform_bind ⟨counted, asked⟩ ?_
      intro reply ⟨reviews, replied, shown⟩
      cases replied
      simp only
      by_cases short : reviews.length < pageLimit
      · rw [if_pos short]
        refine Program.obeys_pure (Reading.ok ⟨rfl, rfl, rfl, le_fullAfter _ _ _⟩ ?_)
        intro issue member numbered review reviewMember row derived
        rcases shown issue member numbered review reviewMember with here | ⟨full, _⟩
        · exact List.mem_filterMap.mpr ⟨review, here, derived⟩
        · exact absurd short full
      · rw [if_neg short]
        have most : page + 1 - 1 ≤ fullAfter progress.full page reviews.length := by
          rw [fullAfter, if_neg short]
          exact Nat.le_max_right _ _
        have grown : SameReading progress
            { progress with full := fullAfter progress.full page reviews.length } :=
          ⟨rfl, rfl, rfl, le_fullAfter _ _ _⟩
        refine Program.obeys_bind (ih (Nat.succ_pos _) asked (by omega) most) ?_
        intro after result rest
        cases result with
        | error error => exact Program.obeys_pure (rest.throw.after grown)
        | ok others =>
            refine Program.obeys_pure (Reading.ok (grown.trans rest.same) ?_)
            intro issue member numbered review reviewMember row derived
            rcases shown issue member numbered review reviewMember with here | ⟨_, later⟩
            · exact List.mem_append_left _ (List.mem_filterMap.mpr ⟨review, here, derived⟩)
            · exact List.mem_append_right _
                (rest.holds others rfl issue member numbered review later row derived)

theorem pullRequestNumber_eq_some {item : GitHubRawIssue} {number : Nat}
    (asked : pullRequestNumber item = some number) :
    isPullRequest item = true ∧ item.number = some number := by
  rw [pullRequestNumber] at asked
  split at asked
  · rename_i pull
    exact ⟨pull, asked⟩
  · cases asked

/-- An issue that is no pull request has no reviews. -/
theorem ItemSound.reviews_eq_nil {item : GitHubRawIssue} {issue : RepositoryIssue}
    (sound : ItemSound resourceId window initial item) (member : issue ∈ initial.issues.rows)
    (numbered : item.number = some issue.number) (unasked : pullRequestNumber item = none) :
    issue.reviews = [] := by
  have kind := sound.isPull issue member numbered
  rw [pullRequestNumber] at unasked
  split at unasked
  · rw [numbered] at unasked
    cases unasked
  · rename_i plain
    rw [Bool.eq_false_iff.mpr plain] at kind
    rw [RepositoryIssue.reviews, Option.isNone_iff_eq_none.mp (Option.isSome_eq_false_iff.mp kind.symm)]
    rfl

/-- The reviews of the issue with the number of a listed one are among the records. -/
def ReviewsRead (resourceId : String) (window : CommunityFetchWindow) (initial : Repository)
    (item : GitHubRawIssue) (records : List CommunityActivityRecord) : Prop :=
  ∀ issue ∈ initial.issues.rows, item.number = some issue.number →
    ∀ row ∈ toReviewRecords resourceId window issue.reviews (issue.user.id.map toString),
    row ∈ records

/-- The reviews of a listed issue. -/
theorem fetchReviewRecords_obeys {item : GitHubRawIssue} {progress : CrawlProgress}
    (reading : item ∈ progress.issues) (sound : ItemSound resourceId window initial item) :
    (fetchReviewRecords resourceId window repository fuel item).Obeys
      (crawlProtocol cursorText resourceId window initial)
      (Reading fuel progress (ReviewsRead resourceId window initial item)) progress := by
  rw [fetchReviewRecords]
  cases asked : pullRequestNumber item with
  | none =>
      refine Program.obeys_pure (Reading.ok (.refl progress) ?_)
      intro issue member numbered row derived
      rw [sound.reviews_eq_nil member numbered asked] at derived
      exact absurd derived List.not_mem_nil
  | some number =>
      refine (reviewPages_obeys (item.user.id.map toString) Nat.one_pos ⟨item, reading, asked⟩
        (Nat.le_add_right fuel _) (Nat.zero_le _)).weaken ?_
      intro after result rest
      refine ⟨rest.same, rest.failed, ?_⟩
      intro records whole issue member numbered row derived
      rcases List.mem_filterMap.mp derived with ⟨review, reviewMember, own⟩
      have sameNumber : issue.number = number :=
        Option.some.inj (numbered.symm.trans (pullRequestNumber_eq_some asked).2)
      rw [← sound.user issue member numbered] at own
      apply rest.holds records whole issue member sameNumber review ?_ row own
      rw [fromPage_one]
      exact reviewMember

/-- The rows of listed issues, with their reviews. -/
theorem issueRows_obeys {items : List GitHubRawIssue} {progress : CrawlProgress}
    {state : CrawlState} (reading : ∀ item ∈ items, item ∈ progress.issues)
    (sound : ∀ item ∈ items, ItemSound resourceId window initial item) :
    (issueRows resourceId window repository fuel items state).Obeys
      (crawlProtocol cursorText resourceId window initial)
      (Reading fuel progress fun rows => rows.2 = state ∧ ∀ issue ∈ initial.issues.rows,
        issue.number ∈ items.filterMap (·.number) →
        ∀ row ∈ issue.activityRows resourceId window, row ∈ rows.1) progress := by
  induction items generalizing progress with
  | nil =>
      exact Program.obeys_pure (Reading.ok (.refl progress)
        ⟨rfl, fun _ _ absent => absurd absent List.not_mem_nil⟩)
  | cons item rest ih =>
      have own := sound item List.mem_cons_self
      rw [issueRows]
      refine Program.obeys_bind (fetchReviewRecords_obeys (reading item List.mem_cons_self) own) ?_
      intro after result reviewed
      cases result with
      | error error =>
          have thrown := (reviewed.failed error rfl).1
          cases thrown
          exact Program.obeys_pure reviewed.throw
      | ok reviews =>
          have others : ∀ item ∈ rest, item ∈ after.issues := by
            intro later member
            rw [reviewed.same.issues]
            exact reading later (List.mem_cons_of_mem _ member)
          refine Program.obeys_pure_bind (Program.obeys_bind
            (ih others fun later member => sound later (List.mem_cons_of_mem _ member)) ?_)
          intro last result read
          cases result with
          | error error => exact Program.obeys_pure (read.throw.after reviewed.same)
          | ok rows =>
              rcases rows with ⟨records, left⟩
              rcases read.holds _ rfl with ⟨unchanged, restRows⟩
              refine Program.obeys_pure
                (Reading.ok (reviewed.same.trans read.same) ⟨unchanged, ?_⟩)
              intro issue member numbered row derived
              rcases List.mem_filterMap.mp numbered with ⟨listed, here, number⟩
              rcases List.mem_cons.mp here with same | later
              · cases same
                apply List.mem_append_left
                rcases List.mem_append.mp derived with opened | review
                · exact List.mem_append_left _ (own.rows issue member number row opened)
                · exact List.mem_append_right _
                    (reviewed.holds reviews rfl issue member number row review)
              · exact List.mem_append_right _ (restRows issue member
                  (List.mem_filterMap.mpr ⟨listed, later, number⟩) row derived)

/-- At a page of a phase, when all rows before it were yielded. -/
structure AtPage (phase : GitHubCrawlPhase) (page : Nat) (progress : CrawlProgress) : Prop where
  position : progress.position = some ⟨phase, page⟩
  counted : 0 < page
  issues : progress.issues = []
  comments : progress.comments = []

/-- A page was read, and its rows are ready to be yielded. -/
structure PageRead (resourceId : String) (window : CommunityFetchWindow) (initial : Repository)
    (fuel : Nat) (phase : GitHubCrawlPhase) (page : Nat) (state : CrawlState)
    (before after : CrawlProgress)
    (result : Except CommunityApiError
      (Except CommunityApiError (Nat × List CommunityActivityRecord × CrawlState))) : Prop where
  failed : ∀ error, result = .error error → fuel ≤ after.full
  read : ∀ outcome, result = .ok outcome → ∃ items records,
    outcome = .ok (items, records, state.proven) ∧
      after.position = positionAfter phase page items ∧
      fullAfter before.full page items ≤ after.full ∧
      Covers resourceId window initial after records

theorem phasePage_obeys {phase : GitHubCrawlPhase} {page : Nat} {state : CrawlState}
    {progress : CrawlProgress} (at_ : AtPage phase page progress) :
    (phasePage resourceId window repository fuel phase page state).Obeys
      (crawlProtocol cursorText resourceId window initial)
      (PageRead resourceId window initial fuel phase page state progress) progress := by
  have comments (review : Bool) (same : phase = commentPhase review)
      (items : List GitHubRawComment) :
      PageRead resourceId window initial fuel phase page state progress
        (recordRead progress (.request (.comments repository review window.start page))
          (.ok items))
        (.ok (.ok (items.length, toCommentRecords resourceId window items, state.proven))) := by
    cases same
    refine ⟨?_, ?_⟩
    · intro error failed
      cases failed
    · intro outcome whole
      cases whole
      refine ⟨items.length, _, rfl, rfl, Nat.le_refl _, ?_, ?_⟩
      · intro issue member numbered
        have unread : issue.number ∈ progress.issues.filterMap (·.number) := numbered
        rw [at_.issues] at unread
        exact absurd unread List.not_mem_nil
      · intro comment member row derived
        exact List.mem_filterMap.mpr ⟨comment, member, derived⟩
  cases phase with
  | issueComments =>
      refine Program.obeys_perform_bind
        ⟨rfl, at_.counted, at_.position, at_.issues, at_.comments⟩ ?_
      intro reply ⟨items, replied⟩
      cases replied
      exact Program.obeys_pure (comments false rfl items)
  | reviewComments =>
      refine Program.obeys_perform_bind
        ⟨rfl, at_.counted, at_.position, at_.issues, at_.comments⟩ ?_
      intro reply ⟨items, replied⟩
      cases replied
      exact Program.obeys_pure (comments true rfl items)
  | issues =>
      refine Program.obeys_perform_bind
        ⟨rfl, at_.counted, at_.position, at_.issues, at_.comments⟩ ?_
      intro reply ⟨items, replied, sound⟩
      cases replied
      refine Program.obeys_bind (issueRows_obeys (fun _ member => member) sound) ?_
      intro after result reading
      cases result with
      | error error =>
          refine Program.obeys_pure ⟨?_, ?_⟩
          · intro thrown same
            cases same
            exact (reading.failed error rfl).2
          · intro outcome whole
            cases whole
      | ok rows =>
          rcases rows with ⟨records, left⟩
          rcases reading.holds _ rfl with ⟨unchanged, derived⟩
          cases unchanged
          refine Program.obeys_pure ⟨?_, ?_⟩
          · intro error failed
            cases failed
          · intro outcome whole
            cases whole
            refine ⟨items.length, records, rfl, reading.same.position, reading.same.full, ?_, ?_⟩
            · rw [reading.same.issues]
              exact derived
            · intro comment member
              rw [reading.same.comments] at member
              have unread : comment ∈ progress.comments := member
              rw [at_.comments] at unread
              exact absurd unread List.not_mem_nil

/-- A phase was read to its end, and its rows were yielded. -/
structure PhaseRead (fuel : Nat) (phase : GitHubCrawlPhase) (reasons : List String)
    (after : CrawlProgress)
    (result : Except CommunityApiError (CommunityResourceCoverage ⊕ CrawlState)) : Prop where
  failed : ∀ error, result = .error error → fuel ≤ after.full
  read : ∀ outcome, result = .ok outcome → ∃ left, outcome = .inr left ∧
    left.partialReasons = reasons ∧ after.issues = [] ∧ after.comments = [] ∧
    after.position = (phaseAfter phase).map fun next => ⟨next, 1⟩

theorem cursorOf_phaseAfter (phase : GitHubCrawlPhase) :
    cursorOf ((phaseAfter phase).map fun next => ⟨next, 1⟩) = ⟨phase.next, 1⟩ := by
  cases phase <;> rfl

/-- The pages of a phase from one page on; `read` counts the full pages before it. -/
theorem crawlPhase_obeys {phase : GitHubCrawlPhase} {pages page read : Nat} {state : CrawlState}
    {progress : CrawlProgress} (at_ : AtPage phase page progress) (enough : fuel ≤ pages + read)
    (full : read ≤ progress.full) (before : read < page) :
    (crawlPhase cursorText resourceId window repository fuel phase pages state page).Obeys
      (crawlProtocol cursorText resourceId window initial)
      (PhaseRead fuel phase state.partialReasons) progress := by
  induction pages generalizing page read state progress with
  | zero =>
      refine Program.obeys_pure ⟨?_, ?_⟩
      · intro error _
        omega
      · intro outcome whole
        cases whole
  | succ pages ih =>
      rw [crawlPhase]
      refine Program.obeys_bind (phasePage_obeys at_) ?_
      intro after result paged
      cases result with
      | error error =>
          refine Program.obeys_pure ⟨fun _ _ => paged.failed error rfl, ?_⟩
          intro outcome whole
          cases whole
      | ok outcome =>
          rcases paged.read outcome rfl with ⟨items, records, same, position, counted, covers⟩
          cases same
          simp only
          by_cases short : items < pageLimit
          · rw [if_pos short]
            rw [positionAfter, if_pos short] at position
            refine Program.obeys_perform_bind ⟨?_, covers⟩ ?_
            · rw [position, cursorOf_phaseAfter]
            · intro _ _
              refine Program.obeys_pure ⟨?_, ?_⟩
              · intro error failed
                cases failed
              · intro outcome whole
                cases whole
                exact ⟨_, rfl, rfl, rfl, rfl, position⟩
          · rw [if_neg short]
            rw [positionAfter, if_neg short] at position
            rw [fullAfter, if_neg short] at counted
            have most : page ≤ after.full := Nat.le_trans (Nat.le_max_right _ _) counted
            refine Program.obeys_perform_bind ⟨?_, covers⟩ ?_
            · rw [position]
              rfl
            · intro _ _
              have next : AtPage phase (page + 1) { after with issues := [], comments := [] } :=
                ⟨position, Nat.succ_pos _, rfl, rfl⟩
              exact @ih _ (read + 1) state.proven _ next (by omega) (Nat.le_trans before most)
                (Nat.succ_lt_succ before)

/-- The crawl was read to its end. -/
structure CrawlRead (fuel : Nat) (resourceId : String) (after : CrawlProgress)
    (result : Except CommunityApiError CommunityResourceCoverage) : Prop where
  failed : ∀ error, result = .error error → fuel ≤ after.full
  read : ∀ outcome, result = .ok outcome → outcome = coverage resourceId .complete none ∧
    after.position = none ∧ after.issues = [] ∧ after.comments = []

/-- One phase, and what obeys after it. -/
theorem crawlPhases_cons_obeys {cursor : GitHubResourceCursor} {phase : GitHubCrawlPhase}
    {rest : List GitHubCrawlPhase} {state : CrawlState} {progress : CrawlProgress}
    (clean : state.partialReasons = [])
    (at_ : AtPage phase (if phase = cursor.phase then cursor.page else 1) progress)
    (next : ∀ (left : CrawlState) (after : CrawlProgress), left.partialReasons = [] →
      after.position = ((phaseAfter phase).map fun next => ⟨next, 1⟩) → after.issues = [] →
      after.comments = [] →
      (crawlPhases cursorText resourceId window repository fuel cursor rest left).Obeys
        (crawlProtocol cursorText resourceId window initial) (CrawlRead fuel resourceId) after) :
    (crawlPhases cursorText resourceId window repository fuel cursor (phase :: rest) state).Obeys
      (crawlProtocol cursorText resourceId window initial) (CrawlRead fuel resourceId)
      progress := by
  rw [crawlPhases]
  refine Program.obeys_bind (crawlPhase_obeys at_ (Nat.le_add_right fuel 0) (Nat.zero_le _)
    at_.counted) ?_
  intro after result read
  cases result with
  | error error =>
      refine Program.obeys_pure ⟨fun _ _ => read.failed error rfl, ?_⟩
      intro outcome whole
      cases whole
  | ok outcome =>
      rcases read.read outcome rfl with ⟨left, same, unchanged, issues, comments, position⟩
      cases same
      exact next left after (unchanged.trans clean) position issues comments

theorem crawlPhases_nil_obeys {cursor : GitHubResourceCursor} {state : CrawlState}
    {progress : CrawlProgress} (clean : state.partialReasons = [])
    (position : progress.position = none) (issues : progress.issues = [])
    (comments : progress.comments = []) :
    (crawlPhases cursorText resourceId window repository fuel cursor [] state).Obeys
      (crawlProtocol cursorText resourceId window initial) (CrawlRead fuel resourceId)
      progress := by
  refine Program.obeys_pure ⟨?_, ?_⟩
  · intro error failed
    cases failed
  · intro outcome whole
    cases whole
    rw [finish, if_pos clean]
    exact ⟨rfl, position, issues, comments⟩

/-- The phases from that of the cursor on. -/
theorem crawlPhases_obeys {cursor : GitHubResourceCursor} {state : CrawlState}
    {progress : CrawlProgress} (clean : state.partialReasons = [])
    (at_ : AtPage cursor.phase cursor.page progress) :
    (crawlPhases cursorText resourceId window repository fuel cursor cursor.phase.onwards
      state).Obeys (crawlProtocol cursorText resourceId window initial)
      (CrawlRead fuel resourceId) progress := by
  have first : AtPage cursor.phase
      (if cursor.phase = cursor.phase then cursor.page else 1) progress := by
    rw [if_pos rfl]
    exact at_
  have last (other : cursor.phase ≠ .reviewComments) (left : CrawlState) (after : CrawlProgress)
      (clean : left.partialReasons = []) (position : after.position = some ⟨.reviewComments, 1⟩)
      (issues : after.issues = []) (comments : after.comments = []) :
      (crawlPhases cursorText resourceId window repository fuel cursor [.reviewComments]
        left).Obeys (crawlProtocol cursorText resourceId window initial)
        (CrawlRead fuel resourceId) after := by
    refine crawlPhases_cons_obeys clean ⟨?_, ?_, issues, comments⟩ ?_
    · rw [if_neg (Ne.symm other)]
      exact position
    · rw [if_neg (Ne.symm other)]
      exact Nat.one_pos
    · exact fun _ _ clean position => crawlPhases_nil_obeys clean position
  cases begun : cursor.phase with
  | reviewComments =>
      rw [begun] at first
      refine crawlPhases_cons_obeys clean ?_ fun _ _ clean position =>
        crawlPhases_nil_obeys clean position
      rw [begun]
      exact first
  | issueComments =>
      rw [begun] at first last
      refine crawlPhases_cons_obeys clean ?_ (last (by decide))
      rw [begun]
      exact first
  | issues =>
      rw [begun] at first last
      refine crawlPhases_cons_obeys clean ?_ ?_
      · rw [begun]
        exact first
      · intro left after clean position issues comments
        refine crawlPhases_cons_obeys clean ⟨?_, ?_, issues, comments⟩ (last (by decide))
        · rw [begun, if_neg (by decide)]
          exact position
        · rw [begun, if_neg (by decide)]
          exact Nat.one_pos

theorem iterateRecords_obeys {cursor : Option String}
    (counted : 0 < (parseCursor cursorText cursor).page) :
    (iterateRecords cursorText fuel ⟨resourceId, window, cursor⟩).Obeys
      (crawlProtocol cursorText resourceId window initial) (CrawlRead fuel resourceId)
      (CrawlProgress.begins cursorText cursor) := by
  refine Program.obeys_perform_bind trivial ?_
  intro reply ⟨name, replied⟩
  cases replied
  exact crawlPhases_obeys rfl ⟨rfl, counted, rfl, rfl⟩

end Protocol

end Github

end Reputo.Community

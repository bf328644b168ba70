import Mathlib.Algebra.BigOperators.Ring.Finset
import Mathlib.Order.Bounds.Basic
import Reputo.ScorePosting.Pipeline

/-!
# What became of posted users

The raw scores of a child are posted once each and counted once each.  The counts of a standalone
snapshot add up only as far as a status and its results do.
-/

namespace Reputo.ScorePosting

open Reputo.Library
open Reputo.CustomScore (RawScoreRow ObservedMinMaxObserver NormalizationObservation chunk
  chunkWithin flatten_chunk EXPECTED_DROP_MESSAGE)

/-! ## Children -/

section Child

variable (files : ScoreFiles) (timestamp : String) (child : ResolvedChild)

/-- A row without an identifier or a score, or two rows of one identifier. -/
def Malformed (records : List CsvRow) : Prop :=
  (∃ record ∈ records, readDid record = none) ∨ ¬(records.filterMap readDid).Nodup ∨
    ∃ record ∈ records, readScore files child.scoreColumnKey record = none

/-- The entry that a row is posted as. -/
def entryOf (record : CsvRow) : Option (String × PlainScoreEntry) :=
  match readDid record, readScore files child.scoreColumnKey record with
  | some did, some score => some (did, ⟨score, child.scoreType, timestamp⟩)
  | some _, none => none
  | none, _ => none

/-- The scores that were posted and answered with OK. -/
def acceptedScores (responses : Nat → PostScoresResponse) (run : ChildRun) : Set ℚ :=
  {score | ∃ position request did entry, run.requests[position]? = some request ∧
    request.get? did = some entry ∧ (responses position).results.get? did = some "OK" ∧
      entry.score = score}

end Child

/-- Malformed rows are not posted; others are posted once each in batches of bounded size, and
counted once each. -/
structure ChildAccounted (files : ScoreFiles) (timestamp : String)
    (responses : Nat → PostScoresResponse) (run : ChildRun) : Prop where
  unsent : ∀ text records, files.getObject run.child.csvKey = some text →
    files.parse text = some records → Malformed files run.child records →
      run.requests = [] ∧ ∃ error, run.outcome = .error error
  sent : ∀ text records, files.getObject run.child.csvKey = some text →
    files.parse text = some records → ¬Malformed files run.child records →
      (run.requests.flatMap (·.entries)).map some =
          records.map (entryOf files timestamp run.child) ∧
        (run.requests.flatMap (·.keys)).Nodup ∧
        ∀ request ∈ run.requests, request.entries.length ≤ POST_CHUNK_SIZE
  reported : ∀ result, run.outcome = .ok result →
    result.ok + result.dropped + result.rejected = result.posted ∧
      result.posted = (run.requests.flatMap (·.entries)).length ∧
      IsLeast (acceptedScores responses run) result.observation.min ∧
      IsGreatest (acceptedScores responses run) result.observation.max

/-! ## Responses -/

/-- What the status claims beyond the results that are OK. -/
def claimedBeyond (response : PostScoresResponse) : Int :=
  response.statusOk - response.results.entries.countP (·.2 = "OK")

/-- Users of a batch beyond those that the results name. -/
def unanswered (request : PostScoresRequest) (response : PostScoresResponse) : Int :=
  request.entries.length - response.results.entries.length

/-- All batches together: a status claims what its results leave out. -/
def Consistent (posts : List (PostScoresRequest × PostScoresResponse)) : Prop :=
  (posts.map fun post => claimedBeyond post.2).sum =
    (posts.map fun post => unanswered post.1 post.2).sum

/-! ## Rows of a child -/

section Rows

variable {files : ScoreFiles} {timestamp : String} {child : ResolvedChild}

/-- Rows that are read have different identifiers, which were not seen, and scores. -/
theorem parseNativeScoreRows_ok {seen : List String} {records : List CsvRow}
    {rows : List (RawScoreRow ℚ)}
    (parsed : parseNativeScoreRows files child seen records = .ok rows) :
    records.map (fun record => (readDid record, readScore files child.scoreColumnKey record)) =
        rows.map (fun row => (some row.did, some row.score)) ∧
      (rows.map (·.did)).Nodup ∧ ∀ row ∈ rows, row.did ∉ seen := by
  induction records generalizing seen rows with
  | nil =>
      cases parsed
      exact ⟨rfl, List.nodup_nil, fun _ none_ => by cases none_⟩
  | cons record rest ih =>
      rw [parseNativeScoreRows] at parsed
      cases named : readDid record with
      | none =>
          rw [named] at parsed
          cases parsed
      | some did =>
          rw [named] at parsed
          simp only at parsed
          split at parsed
          · cases parsed
          · rename_i fresh
            cases scored : readScore files child.scoreColumnKey record with
            | none =>
                rw [scored] at parsed
                cases parsed
            | some score =>
                rw [scored] at parsed
                cases others : parseNativeScoreRows files child (did :: seen) rest with
                | error error =>
                    rw [others] at parsed
                    cases parsed
                | ok tail =>
                    rw [others] at parsed
                    cases parsed
                    rcases ih others with ⟨same, nodup, unseen⟩
                    refine ⟨?_, ?_, ?_⟩
                    · rw [List.map_cons, List.map_cons, same, named, scored]
                    · refine List.nodup_cons.mpr ⟨fun member => ?_, nodup⟩
                      rcases List.mem_map.mp member with ⟨row, listed, equal⟩
                      exact unseen row listed (equal ▸ List.mem_cons_self ..)
                    · intro row member
                      rcases List.mem_cons.mp member with rfl | later
                      · exact fresh
                      · exact fun early => unseen row later (List.mem_cons_of_mem _ early)

/-- Rows that cannot be read lack something, or repeat an identifier. -/
theorem parseNativeScoreRows_error {seen : List String} {records : List CsvRow}
    {error : RawScoreError}
    (failed : parseNativeScoreRows files child seen records = .error error) :
    (∃ record ∈ records, readDid record = none) ∨
      (∃ record ∈ records, readScore files child.scoreColumnKey record = none) ∨
      ¬(records.filterMap readDid).Nodup ∨ ∃ did ∈ records.filterMap readDid, did ∈ seen := by
  induction records generalizing seen error with
  | nil => cases failed
  | cons record rest ih =>
      rw [parseNativeScoreRows] at failed
      cases named : readDid record with
      | none => exact .inl ⟨record, List.mem_cons_self .., named⟩
      | some did =>
          rw [named] at failed
          simp only at failed
          have dids : (record :: rest).filterMap readDid = did :: rest.filterMap readDid :=
            List.filterMap_cons_some named
          rw [dids]
          split at failed
          · rename_i repeated
            exact .inr (.inr (.inr ⟨did, List.mem_cons_self .., repeated⟩))
          · cases scored : readScore files child.scoreColumnKey record with
            | none => exact .inr (.inl ⟨record, List.mem_cons_self .., scored⟩)
            | some score =>
                rw [scored] at failed
                cases others : parseNativeScoreRows files child (did :: seen) rest with
                | ok tail =>
                    rw [others] at failed
                    cases failed
                | error error =>
                    rcases ih others with ⟨other, member, none_⟩ | ⟨other, member, none_⟩ |
                      repeated | ⟨other, member, early⟩
                    · exact .inl ⟨other, List.mem_cons_of_mem _ member, none_⟩
                    · exact .inr (.inl ⟨other, List.mem_cons_of_mem _ member, none_⟩)
                    · exact .inr (.inr (.inl fun nodup => repeated (List.nodup_cons.mp nodup).2))
                    · rcases List.mem_cons.mp early with same | before
                      · exact .inr (.inr (.inl fun nodup =>
                          (List.nodup_cons.mp nodup).1 (same ▸ member)))
                      · exact .inr (.inr (.inr ⟨other, List.mem_cons_of_mem _ member, before⟩))

/-- Rows that are read are not malformed. -/
theorem not_malformed_of_ok {records : List CsvRow} {rows : List (RawScoreRow ℚ)}
    (parsed : parseNativeScoreRows files child [] records = .ok rows) :
    ¬Malformed files child records := by
  rcases parseNativeScoreRows_ok parsed with ⟨same, nodup, _⟩
  have read : ∀ record ∈ records, readDid record ≠ none ∧
      readScore files child.scoreColumnKey record ≠ none := by
    intro record member
    have image := List.mem_map_of_mem (f := fun record => (readDid record,
      readScore files child.scoreColumnKey record)) member
    rw [same] at image
    rcases List.mem_map.mp image with ⟨row, _, equal⟩
    rcases Prod.mk.inj equal with ⟨named, scored⟩
    exact ⟨by rw [← named]; exact Option.some_ne_none _, by rw [← scored]; exact Option.some_ne_none _⟩
  have dids : records.filterMap readDid = rows.map (·.did) := by
    have firsts := congrArg (List.filterMap Prod.fst) same
    rw [List.filterMap_map, List.filterMap_map] at firsts
    refine Eq.trans firsts ?_
    exact congrFun List.filterMap_eq_map' rows
  rintro (⟨record, member, none_⟩ | repeated | ⟨record, member, none_⟩)
  · exact (read record member).1 none_
  · rw [dids] at repeated
    exact repeated nodup
  · exact (read record member).2 none_

theorem parse_of_malformed {records : List CsvRow} (malformed : Malformed files child records) :
    ∃ error, parseNativeScoreRows files child [] records = .error error := by
  cases parsed : parseNativeScoreRows files child [] records with
  | error error => exact ⟨error, rfl⟩
  | ok rows => exact absurd malformed (not_malformed_of_ok parsed)

theorem parse_of_not_malformed {records : List CsvRow}
    (wellFormed : ¬Malformed files child records) :
    ∃ rows, parseNativeScoreRows files child [] records = .ok rows := by
  cases parsed : parseNativeScoreRows files child [] records with
  | ok rows => exact ⟨rows, rfl⟩
  | error error =>
      refine absurd ?_ wellFormed
      rcases parseNativeScoreRows_error parsed with missing | unscored | repeated | ⟨_, _, none_⟩
      · exact .inl missing
      · exact .inr (.inr unscored)
      · exact .inr (.inl repeated)
      · cases none_

end Rows

/-! ## Batches -/

section Batches

theorem length_of_mem_chunkWithin {α : Type} {size room : Nat} {items : List α} {batch : List α}
    (member : batch ∈ chunkWithin size room items) : batch.length ≤ size := by
  induction room generalizing items with
  | zero => cases member
  | succ room ih =>
      cases items with
      | nil => cases member
      | cons item rest =>
          rcases List.mem_cons.mp member with rfl | later
          · exact List.length_take_le ..
          · exact ih later

variable {timestamp scoreType : String}

/-- The entry that is posted for a row. -/
def rowEntry (timestamp scoreType : String) (row : RawScoreRow ℚ) : String × PlainScoreEntry :=
  (row.did, ⟨row.score, scoreType, timestamp⟩)

theorem entries_toRequest {batch : List (RawScoreRow ℚ)} (nodup : (batch.map (·.did)).Nodup) :
    (toRequest timestamp scoreType batch).entries = batch.map (rowEntry timestamp scoreType) := by
  refine OrderedMap.entries_ofPairs_of_nodup ?_
  rw [List.map_map]
  exact nodup

/-- The batches of different rows hold every row. -/
theorem entries_requests {rows : List (RawScoreRow ℚ)} (nodup : (rows.map (·.did)).Nodup) :
    ((chunk rows POST_CHUNK_SIZE).map (toRequest timestamp scoreType)).flatMap (·.entries) =
      rows.map (rowEntry timestamp scoreType) := by
  have flat := flatten_chunk rows (by decide : 0 < POST_CHUNK_SIZE)
  have within : ∀ batch ∈ chunk rows POST_CHUNK_SIZE, (batch.map (·.did)).Nodup := by
    intro batch member
    refine nodup.sublist ?_
    rw [← flat]
    exact (List.sublist_flatten_of_mem member).map _
  rw [List.flatMap_map]
  calc (chunk rows POST_CHUNK_SIZE).flatMap (fun batch =>
        (toRequest timestamp scoreType batch).entries) =
      (chunk rows POST_CHUNK_SIZE).flatMap fun batch => batch.map (rowEntry timestamp scoreType) :=
        List.flatMap_congr fun batch member => entries_toRequest (within batch member)
    _ = (chunk rows POST_CHUNK_SIZE).flatten.map (rowEntry timestamp scoreType) := by
        rw [List.map_flatten, List.flatMap_def]
    _ = rows.map (rowEntry timestamp scoreType) := by rw [flat]

end Batches

/-! ## Counts of a child -/

section Tally

/-- The scores of a batch that are answered with OK. -/
def acceptedOf (response : PostScoresResponse) (batch : List (RawScoreRow ℚ)) : List ℚ :=
  (batch.filter fun row => response.results.get? row.did = some "OK").map (·.score)

/-- All rows that were counted. -/
def ChildTally.counted (tally : ChildTally) : Nat := tally.ok + tally.dropped + tally.rejected

theorem foldl_countRow (response : PostScoresResponse) (batch : List (RawScoreRow ℚ))
    (tally : ChildTally) :
    (batch.foldl (countRow response) tally).counted = tally.counted + batch.length ∧
      (batch.foldl (countRow response) tally).observer =
        (acceptedOf response batch).foldl (·.accept ·) tally.observer := by
  induction batch generalizing tally with
  | nil => exact ⟨rfl, rfl⟩
  | cons row rest ih =>
      rcases ih (countRow response tally row) with ⟨counted, observed⟩
      rw [List.foldl_cons, counted, observed, List.length_cons]
      by_cases ok : response.results.get? row.did = some "OK"
      · have accepted : acceptedOf response (row :: rest) =
            row.score :: acceptedOf response rest := by simp [acceptedOf, ok]
        rw [accepted, countRow, if_pos ok]
        exact ⟨by simp only [ChildTally.counted]; omega, rfl⟩
      · have passed : acceptedOf response (row :: rest) = acceptedOf response rest := by
          simp [acceptedOf, ok]
        rw [passed, countRow, if_neg ok]
        split
        · exact ⟨by simp only [ChildTally.counted]; omega, rfl⟩
        · exact ⟨by simp only [ChildTally.counted]; omega, rfl⟩

theorem foldl_countBatch (responses : Nat → PostScoresResponse)
    (batches : List (List (RawScoreRow ℚ) × Nat)) (tally : ChildTally) :
    (batches.foldl (fun tally batch => countBatch tally batch.1 (responses batch.2))
        tally).counted = tally.counted + (batches.map (·.1.length)).sum ∧
      (batches.foldl (fun tally batch => countBatch tally batch.1 (responses batch.2))
        tally).observer = (batches.flatMap fun batch =>
          acceptedOf (responses batch.2) batch.1).foldl (·.accept ·) tally.observer := by
  induction batches generalizing tally with
  | nil => exact ⟨rfl, rfl⟩
  | cons batch rest ih =>
      rcases ih (countBatch tally batch.1 (responses batch.2)) with ⟨counted, observed⟩
      rcases foldl_countRow (responses batch.2) batch.1 { tally with lastRequestId :=
        (responses batch.2).requestId <|> tally.lastRequestId } with ⟨one, seen⟩
      rw [List.foldl_cons, counted, observed, countBatch, one, seen, List.map_cons, List.sum_cons,
        List.flatMap_cons, List.foldl_append]
      exact ⟨Nat.add_assoc _ _ _, rfl⟩

/-- An observer has the least and the greatest of what it accepted. -/
def Observes (observer : ObservedMinMaxObserver ℚ) (scores : Set ℚ) : Prop :=
  (observer.min = none ∧ observer.max = none ∧ scores = ∅) ∨
    ∃ least greatest, observer.min = some least ∧ observer.max = some greatest ∧
      IsLeast scores least ∧ IsGreatest scores greatest

theorem Observes.accept {observer : ObservedMinMaxObserver ℚ} {scores : Set ℚ}
    (observes : Observes observer scores) (score : ℚ) :
    Observes (observer.accept score) (insert score scores) := by
  rcases observes with ⟨min, max, rfl⟩ | ⟨least, greatest, min, max, isLeast, isGreatest⟩
  · refine .inr ⟨score, score, ?_, ?_, ?_, ?_⟩
    · rw [ObservedMinMaxObserver.accept, min]
    · rw [ObservedMinMaxObserver.accept, max]
    · rw [insert_empty_eq]
      exact isLeast_singleton
    · rw [insert_empty_eq]
      exact isGreatest_singleton
  · refine .inr ⟨Min.min score least, Max.max score greatest, ?_, ?_, isLeast.insert score,
      isGreatest.insert score⟩
    · rw [ObservedMinMaxObserver.accept, min]
      simp only [jsNumber_lt, decide_eq_true_eq]
      split
      · rename_i lower
        rw [min_eq_left lower.le]
      · rename_i atLeast
        rw [min_eq_right (not_lt.mp atLeast)]
    · rw [ObservedMinMaxObserver.accept, max]
      simp only [jsNumber_lt, decide_eq_true_eq]
      split
      · rename_i higher
        rw [max_eq_left higher.le]
      · rename_i atMost
        rw [max_eq_right (not_lt.mp atMost)]

theorem Observes.foldl {observer : ObservedMinMaxObserver ℚ} {scores : Set ℚ}
    (observes : Observes observer scores) (accepted : List ℚ) :
    Observes (accepted.foldl (·.accept ·) observer) (scores ∪ {score | score ∈ accepted}) := by
  induction accepted generalizing observer scores with
  | nil =>
      have none_ : {score : ℚ | score ∈ ([] : List ℚ)} = ∅ := by simp
      rw [none_, Set.union_empty]
      exact observes
  | cons score rest ih =>
      have split : scores ∪ {other | other ∈ score :: rest} =
          insert score scores ∪ {other | other ∈ rest} := by
        ext other
        simp only [Set.mem_union, Set.mem_ofPred_eq, List.mem_cons, Set.mem_insert_iff]
        tauto
      rw [List.foldl_cons, split]
      exact ih (observes.accept score)

theorem finish_observes {observer : ObservedMinMaxObserver ℚ} {scores : Set ℚ}
    (observes : Observes observer scores) {observation : NormalizationObservation ℚ}
    (finished : observer.finish = some observation) :
    IsLeast scores observation.min ∧ IsGreatest scores observation.max := by
  rcases observes with ⟨min, max, _⟩ | ⟨least, greatest, min, max, isLeast, isGreatest⟩
  · rw [ObservedMinMaxObserver.finish, min, max] at finished
    cases finished
  · rw [ObservedMinMaxObserver.finish, min, max] at finished
    cases finished
    exact ⟨isLeast, isGreatest⟩

end Tally

/-! ## Runs of children -/

section Runs

variable {files : ScoreFiles} {timestamp : String} {child : ResolvedChild}
  {responses : Nat → PostScoresResponse} {rows : List (RawScoreRow ℚ)}

/-- What was answered with OK is what the observer accepted. -/
theorem acceptedScores_postRows (nodup : (rows.map (·.did)).Nodup) :
    acceptedScores responses (postRows timestamp responses child rows) =
      {score | score ∈ (chunk rows POST_CHUNK_SIZE).zipIdx.flatMap fun batch =>
        acceptedOf (responses batch.2) batch.1} := by
  have within : ∀ batch ∈ chunk rows POST_CHUNK_SIZE, (batch.map (·.did)).Nodup := by
    intro batch member
    refine nodup.sublist ?_
    rw [← flatten_chunk rows (by decide : 0 < POST_CHUNK_SIZE)]
    exact (List.sublist_flatten_of_mem member).map _
  ext score
  rw [acceptedScores, Set.mem_ofPred_eq, Set.mem_ofPred_eq, List.mem_flatMap]
  constructor
  · rintro ⟨position, request, did, entry, placed, found, ok, rfl⟩
    rw [postRows, List.getElem?_map, Option.map_eq_some_iff] at placed
    rcases placed with ⟨batch, at_, rfl⟩
    refine ⟨(batch, position), List.mem_zipIdx_iff_getElem?.mpr at_, ?_⟩
    rcases List.mem_map.mp (OrderedMap.mem_of_get?_ofPairs found) with ⟨row, member, same⟩
    cases same
    exact List.mem_map.mpr ⟨row, List.mem_filter.mpr ⟨member, decide_eq_true ok⟩, rfl⟩
  · rintro ⟨⟨batch, position⟩, placed, accepted⟩
    have at_ := List.mem_zipIdx_iff_getElem?.mp placed
    rcases List.mem_map.mp accepted with ⟨row, kept, rfl⟩
    rcases List.mem_filter.mp kept with ⟨member, ok⟩
    refine ⟨position, toRequest timestamp child.scoreType batch, row.did,
      ⟨row.score, child.scoreType, timestamp⟩, ?_, ?_, of_decide_eq_true ok, rfl⟩
    · rw [postRows, List.getElem?_map, at_]
      rfl
    · refine OrderedMap.get?_ofPairs_of_nodup ?_ (List.mem_map.mpr ⟨row, member, rfl⟩)
      rw [List.map_map]
      exact within batch (List.mem_of_getElem? at_)

theorem reported_postRows (nodup : (rows.map (·.did)).Nodup)
    {result : CustomRawScoresChildResult}
    (reported : (postRows timestamp responses child rows).outcome = .ok result) :
    result.ok + result.dropped + result.rejected = result.posted ∧ result.posted = rows.length ∧
      IsLeast (acceptedScores responses (postRows timestamp responses child rows))
        result.observation.min ∧
      IsGreatest (acceptedScores responses (postRows timestamp responses child rows))
        result.observation.max := by
  rw [acceptedScores_postRows nodup]
  rcases foldl_countBatch responses (chunk rows POST_CHUNK_SIZE).zipIdx {} with ⟨counted, observed⟩
  have lengths : ((chunk rows POST_CHUNK_SIZE).zipIdx.map (·.1.length)).sum = rows.length := by
    have firsts : ((chunk rows POST_CHUNK_SIZE).zipIdx.map fun batch => batch.1.length) =
        (((chunk rows POST_CHUNK_SIZE).zipIdx.map Prod.fst).map List.length) := by
      rw [List.map_map]
      rfl
    rw [firsts, List.zipIdx_map_fst, ← List.length_flatten, flatten_chunk rows (by decide)]
  rw [lengths] at counted
  simp only [postRows] at reported
  split at reported
  · cases reported
  · rename_i observation finished
    cases reported
    have empty : Observes ({} : ObservedMinMaxObserver ℚ) ∅ := .inl ⟨rfl, rfl, rfl⟩
    rw [observed] at finished
    have bounds := finish_observes (empty.foldl _) finished
    rw [Set.empty_union] at bounds
    exact ⟨counted.trans (Nat.zero_add _), rfl, bounds⟩

theorem submitChild_child : (submitChild files timestamp responses child).child = child := by
  rw [submitChild]
  split
  · rfl
  · split
    · rfl
    · split <;> rfl

/-- A child that fails before its first batch is accounted for if its rows are malformed. -/
theorem failed_accounted {error : RawScoreError}
    (malformed : ∀ text records, files.getObject child.csvKey = some text →
      files.parse text = some records → Malformed files child records) :
    ChildAccounted files timestamp responses ⟨child, [], .error error⟩ where
  unsent _ _ _ _ _ := ⟨rfl, error, rfl⟩
  sent text records held table wellFormed :=
    absurd (malformed text records held table) wellFormed
  reported _ other := by cases other

theorem postRows_accounted {text : String} {records : List CsvRow}
    (got : files.getObject child.csvKey = some text) (parsed : files.parse text = some records)
    (read : parseNativeScoreRows files child [] records = .ok rows) :
    ChildAccounted files timestamp responses (postRows timestamp responses child rows) := by
  rcases parseNativeScoreRows_ok read with ⟨same, nodup, _⟩
  have requests : (postRows timestamp responses child rows).requests =
      (chunk rows POST_CHUNK_SIZE).map (toRequest timestamp child.scoreType) := rfl
  have entries := @entries_requests timestamp child.scoreType rows nodup
  rw [← requests] at entries
  constructor
  case unsent =>
    intro other others held table malformed
    cases got.symm.trans held
    cases parsed.symm.trans table
    exact absurd malformed (not_malformed_of_ok read)
  case sent =>
    intro other others held table _
    cases got.symm.trans held
    cases parsed.symm.trans table
    refine ⟨?_, ?_, ?_⟩
    · rw [entries, List.map_map]
      have paired := congrArg (List.map fun pair : Option String × Option ℚ =>
        pair.1.bind fun did => pair.2.map fun score =>
          (did, (⟨score, child.scoreType, timestamp⟩ : PlainScoreEntry))) same
      rw [List.map_map, List.map_map] at paired
      refine Eq.trans ?_ (paired.symm.trans (List.map_congr_left fun record _ => ?_))
      · rfl
      · change _ = entryOf files timestamp child record
        rw [entryOf, Function.comp_apply]
        cases readDid record with
        | none => rfl
        | some did => cases readScore files child.scoreColumnKey record <;> rfl
    · have keys : (postRows timestamp responses child rows).requests.flatMap (·.keys) =
          rows.map (·.did) := by
        have firsts := congrArg (List.map Prod.fst) entries
        rw [List.map_flatMap, List.map_map] at firsts
        exact firsts
      rw [keys]
      exact nodup
    · intro request member
      rw [requests] at member
      rcases List.mem_map.mp member with ⟨batch, listed, rfl⟩
      have within : (batch.map (·.did)).Nodup := by
        refine nodup.sublist ?_
        rw [← flatten_chunk rows (by decide : 0 < POST_CHUNK_SIZE)]
        exact (List.sublist_flatten_of_mem listed).map _
      rw [entries_toRequest within, List.length_map]
      exact length_of_mem_chunkWithin listed
  case reported =>
    intro result reported
    rcases reported_postRows nodup reported with ⟨counted, posted, bounds⟩
    refine ⟨counted, posted.trans ?_, bounds⟩
    rw [entries, List.length_map]

/-- The raw scores of one child are accounted for. -/
theorem submitChild_accounted (files : ScoreFiles) (timestamp : String)
    (responses : Nat → PostScoresResponse) (child : ResolvedChild) :
    ChildAccounted files timestamp responses (submitChild files timestamp responses child) := by
  rw [submitChild]
  cases got : files.getObject child.csvKey with
  | none =>
      refine failed_accounted fun text records held => ?_
      rw [got] at held
      cases held
  | some text =>
      cases parsed : files.parse text with
      | none =>
          simp only [parsed]
          refine failed_accounted fun other records held table => ?_
          cases got.symm.trans held
          rw [parsed] at table
          cases table
      | some records =>
          cases read : parseNativeScoreRows files child [] records with
          | error error =>
              simp only [parsed, read]
              refine failed_accounted fun other others held table => ?_
              cases got.symm.trans held
              cases parsed.symm.trans table
              by_contra wellFormed
              rcases parse_of_not_malformed wellFormed with ⟨rows, some_⟩
              rw [read] at some_
              cases some_
          | ok rows =>
              simp only [parsed, read]
              exact postRows_accounted got parsed read

/-- All children that are reached are accounted for, each by the responses to it. -/
theorem submitCustomRawScores_accounted (files : ScoreFiles) (timestamp : String)
    (responses : Nat → Nat → PostScoresResponse) (position : Nat)
    (children : List ResolvedChild) {index : Nat} {run : ChildRun}
    (reached : (submitCustomRawScores files timestamp responses position children).1[index]? =
      some run) :
    children[index]? = some run.child ∧
      ChildAccounted files timestamp (responses (position + index)) run := by
  induction children generalizing position index with
  | nil => cases reached
  | cons child rest ih =>
      have own := submitChild_accounted files timestamp (responses position) child
      rw [submitCustomRawScores] at reached
      cases outcome : (submitChild files timestamp (responses position) child).outcome with
      | error error =>
          simp only [outcome] at reached
          cases index with
          | zero =>
              cases reached
              exact ⟨congrArg some submitChild_child.symm, own⟩
          | succ index => cases reached
      | ok result =>
          simp only [outcome] at reached
          cases index with
          | zero =>
              cases reached
              exact ⟨congrArg some submitChild_child.symm, own⟩
          | succ index =>
              rcases ih (position + 1) reached with ⟨listed, accounted⟩
              rw [Nat.add_assoc, Nat.add_comm 1] at accounted
              exact ⟨listed, accounted⟩

end Runs

/-! ## Runs of a standalone snapshot -/

section Standalone

variable {files : ScoreFiles} {timestamp : String}

/-- Posted users that no count has. -/
def missing (totals : PostSnapshotScoresResult) : Int :=
  totals.posted - (totals.ok + totals.failed + totals.dropped)

theorem missing_countResponse (totals : PostSnapshotScoresResult)
    (response : PostScoresResponse) :
    missing (countResponse totals response) =
      missing totals - claimedBeyond response - response.results.entries.length := by
  have rest : ∀ messages : List String,
      messages.countP (fun message => message ≠ "OK" ∧ message ≠ EXPECTED_DROP_MESSAGE) +
        messages.countP (fun message => message ≠ "OK" ∧ message = EXPECTED_DROP_MESSAGE) +
          messages.countP (fun message => message = "OK") = messages.length := by
    intro messages
    induction messages with
    | nil => rfl
    | cons message others ih =>
        have one : (if decide (message ≠ "OK" ∧ message ≠ EXPECTED_DROP_MESSAGE) = true then 1
            else 0) + (if decide (message ≠ "OK" ∧ message = EXPECTED_DROP_MESSAGE) = true then 1
              else 0) + (if decide (message = "OK") = true then 1 else 0) = 1 := by
          have apart : ¬EXPECTED_DROP_MESSAGE = "OK" := by decide
          by_cases ok : message = "OK"
          · simp [ok]
          · by_cases drop : message = EXPECTED_DROP_MESSAGE
            · simp [drop, apart]
            · simp [ok, drop]
        rw [List.length_cons, List.countP_cons, List.countP_cons, List.countP_cons, ← ih]
        omega
  have counts := rest (response.results.entries.map (·.2))
  rw [List.length_map] at counts
  have accepted : (response.results.entries.map (·.2)).countP (fun message => message = "OK") =
      response.results.entries.countP (·.2 = "OK") := List.countP_map ..
  rw [accepted] at counts
  simp only [missing, countResponse, claimedBeyond]
  omega

theorem missing_foldl (posts : List (PostScoresRequest × PostScoresResponse))
    (totals : PostSnapshotScoresResult) :
    missing (posts.foldl (fun totals post => countResponse totals post.2) totals) =
      missing totals - (posts.map fun post => claimedBeyond post.2).sum -
        (posts.map fun post => (post.2.results.entries.length : Int)).sum := by
  induction posts generalizing totals with
  | nil => simp
  | cons post rest ih =>
      rw [List.foldl_cons, ih, missing_countResponse, List.map_cons, List.map_cons, List.sum_cons,
        List.sum_cons]
      omega

theorem sum_unanswered (posts : List (PostScoresRequest × PostScoresResponse)) :
    (posts.map fun post => unanswered post.1 post.2).sum =
      (posts.map fun post => (post.1.entries.length : Int)).sum -
        (posts.map fun post => (post.2.results.entries.length : Int)).sum := by
  induction posts with
  | nil => rfl
  | cons post rest ih =>
      rw [List.map_cons, List.map_cons, List.map_cons, List.sum_cons, List.sum_cons, List.sum_cons,
        ih, unanswered]
      omega

/-- Batches of different keys hold every entry. -/
theorem sum_batches (scores : PostScoresRequest) (responses : Nat → PostScoresResponse) :
    ((((chunk scores.entries POST_CHUNK_SIZE).zipIdx.map fun batch =>
      ((OrderedMap.ofPairs batch.1 : PostScoresRequest), responses batch.2)).map fun post =>
        (post.1.entries.length : Int))).sum = scores.entries.length := by
  have flat := flatten_chunk scores.entries (by decide : 0 < POST_CHUNK_SIZE)
  have within : ∀ batch ∈ (chunk scores.entries POST_CHUNK_SIZE).zipIdx,
      ((OrderedMap.ofPairs batch.1).entries.length : Int) = (batch.1.length : Int) := by
    intro batch member
    have listed : batch.1 ∈ chunk scores.entries POST_CHUNK_SIZE := by
      rw [← List.zipIdx_map_fst 0 (chunk scores.entries POST_CHUNK_SIZE)]
      exact List.mem_map_of_mem member
    have nodup : (batch.1.map Prod.fst).Nodup := by
      refine scores.keys_nodup.sublist ?_
      rw [← flat]
      exact (List.sublist_flatten_of_mem listed).map _
    rw [OrderedMap.entries_ofPairs_of_nodup nodup]
  have firsts : ((chunk scores.entries POST_CHUNK_SIZE).zipIdx.map fun batch =>
      (batch.1.length : Int)) =
        ((((chunk scores.entries POST_CHUNK_SIZE).zipIdx.map Prod.fst).map List.length).map
          Nat.cast) := by
    rw [List.map_map, List.map_map]
    rfl
  rw [List.map_map]
  refine (congrArg List.sum (List.map_congr_left within)).trans ?_
  rw [firsts, List.zipIdx_map_fst, ← Nat.cast_list_sum, ← List.length_flatten, flat]

theorem posted_foldl (posts : List (PostScoresRequest × PostScoresResponse))
    (totals : PostSnapshotScoresResult) :
    (posts.foldl (fun totals post => countResponse totals post.2) totals).posted =
      totals.posted := by
  induction posts generalizing totals with
  | nil => rfl
  | cons post rest ih => exact ih _

/-- What the posts of a run leave uncounted. -/
def uncounted (posts : List (PostScoresRequest × PostScoresResponse)) : Int :=
  (posts.map fun post => unanswered post.1 post.2).sum -
    (posts.map fun post => claimedBeyond post.2).sum

theorem uncounted_append (left right : List (PostScoresRequest × PostScoresResponse)) :
    uncounted (left ++ right) = uncounted left + uncounted right := by
  simp only [uncounted, List.map_append, List.sum_append]
  omega

theorem missing_postSource (responses : Nat → PostScoresResponse) (source : ScoreSource)
    (totals : PostSnapshotScoresResult) (records : List CsvRow) :
    missing (postSource files timestamp responses source totals records).2 =
      missing totals + uncounted (postSource files timestamp responses source totals records).1 := by
  rw [postSource]
  generalize records.foldl (collectRow files timestamp source) (.empty, 0) = collected
  rcases collected with ⟨scores, skipped⟩
  simp only
  split
  · simp [missing, uncounted]
  · generalize posted : ((chunk scores.entries POST_CHUNK_SIZE).zipIdx.map fun batch =>
      ((OrderedMap.ofPairs batch.1 : PostScoresRequest), responses batch.2)) = posts
    have lengths := sum_batches scores responses
    rw [posted] at lengths
    have counted := missing_foldl posts { totals with skipped := totals.skipped + skipped }
    have kept := posted_foldl posts { totals with skipped := totals.skipped + skipped }
    rw [uncounted, sum_unanswered, lengths]
    simp only [missing] at counted kept ⊢
    omega

/-- What a run reports as posted and does not count. -/
theorem missing_postSources (responses : Nat → Nat → PostScoresResponse) (position : Nat)
    (sources : List ScoreSource) (start : PostSnapshotScoresResult)
    {totals : PostSnapshotScoresResult}
    (ran : (postSources files timestamp responses position sources start).outcome = .ok totals) :
    missing totals = missing start +
      uncounted (postSources files timestamp responses position sources start).posts := by
  induction sources generalizing position start with
  | nil =>
      cases ran
      simp [postSources, uncounted]
  | cons source rest ih =>
      rw [postSources] at ran ⊢
      cases got : files.getObject source.csvKey with
      | none =>
          simp only [got] at ran
          cases ran
      | some text =>
          cases parsed : files.parse text with
          | none =>
              simp only [got, parsed] at ran
              cases ran
          | some records =>
              simp only [got, parsed] at ran ⊢
              rw [ih _ _ ran, missing_postSource, uncounted_append, add_assoc]

end Standalone

/-! ## The result -/

/-- Posting accounts for every row: of every child that is reached, and of the snapshot. -/
structure Accounted (files : ScoreFiles) (timestamp : String)
    (childResponses : Nat → Nat → PostScoresResponse) (children : List ResolvedChild)
    (totals : PostSnapshotScoresResult) : Prop where
  children : ∀ index run,
    (submitCustomRawScores files timestamp childResponses 0 children).1[index]? = some run →
      children[index]? = some run.child ∧
        ChildAccounted files timestamp (childResponses index) run
  standalone : totals.posted = totals.ok + totals.failed + totals.dropped

private def firstDid : String := "did:sub:aaaaaaaaaaaaaaaaaaaaaaaa"

private def scoredRow (did : String) : CsvRow := .ofPairs [("did", did), ("score", "1")]

/-- A file with two scores, however it is called. -/
private def twoScores : ScoreFiles where
  getObject _ := some ""
  parse _ := some [scoredRow firstDid, scoredRow "did:sub:bbbbbbbbbbbbbbbbbbbbbbbb"]
  toNumber _ := some 1

private def votes : ScoreSource := ⟨"voting_engagement", "votes.csv", "score"⟩

/-- Two users fail or are fine, but only one is named. -/
private def namesOne : PostScoresResponse := ⟨1, 1, .ofPairs [(firstDid, "OK")], none⟩

private theorem twoScores_posted :
    (postScores twoScores "" (fun _ _ => namesOne) [votes]).outcome =
      .ok ⟨true, 2, 1, 0, 0, 0⟩ := by
  decide +kernel

end Reputo.ScorePosting

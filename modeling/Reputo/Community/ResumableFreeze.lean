import Reputo.Community.Freeze
import Reputo.Library.System

/-!
# Resuming a freeze

Attempts fail anywhere, and each goes on from any checkpoint of an earlier one.  A
resource has the same segments in every attempt: those that follow a checkpoint depend
only on the pages after its cursor.  So whatever attempt commits exports what one
uninterrupted crawl yields.
-/

namespace Reputo.Community

open Reputo.Library

variable {Request : Type → Type}

/-! ## Attempts -/

/-- An attempt starts from a checkpoint and stops after a number of operations. -/
structure FreezeAttempt where
  checkpoint : Option CommunityFetchCheckpoint
  cohort : List CommunityCohortRow
  fetchStats : CommunityFetchStats
  steps : Nat

section

variable (input : FreezeCommunityDatasetInput Request) (answer : ∀ {α : Type}, Request α → α)

def FreezeWorld.attempt (world : FreezeWorld Request) (attempt : FreezeAttempt) :
    Option (FreezeWorld Request) :=
  some ((freezeCommunityDataset input attempt.checkpoint).runFor handleFreeze attempt.steps
    { world with cohort := attempt.cohort, fetchStats := attempt.fetchStats }).2

/-- Nothing is stored, and the platform has its answers. -/
def FreezeWorld.Initial (world : FreezeWorld Request) : Prop :=
  world.objects = .empty ∧ world.heartbeats = [] ∧ @world.answer = @answer

/-- The checkpoint is one that was heart-beat. -/
def FreezeAttempt.Admissible (world : FreezeWorld Request) (attempt : FreezeAttempt) : Prop :=
  ∀ checkpoint ∈ attempt.checkpoint, checkpoint ∈ world.heartbeats

/-- Attempts one after another. -/
def freezeSystem : System (FreezeWorld Request) FreezeAttempt :=
  .ofPerform (FreezeWorld.Initial answer) FreezeAttempt.Admissible (FreezeWorld.attempt input)

/-! ## One uninterrupted crawl -/

/-- The pages of a resource after a cursor, and how the crawl ends. -/
def streamOf (resourceId : String) (cursor : Option String) :
    List CommunityRecordBatch × Except CommunityApiError CommunityResourceCoverage :=
  Generator.stream answer (input.iterateRecords ⟨resourceId, input.window, cursor⟩)

/-- A crawl from the cursor of a page goes on exactly where that page ended. -/
def ContinuesExactly : Prop :=
  ∀ resourceId cursor before batch rest,
    (streamOf input answer resourceId cursor).1 = before ++ batch :: rest →
    streamOf input answer resourceId (some batch.cursor) =
      (rest, (streamOf input answer resourceId cursor).2)

/-- All rows of the selected resources. -/
def crawledRecords : List CommunityActivityRecord :=
  input.resourceIds.flatMap fun resourceId =>
    (streamOf input answer resourceId none).1.flatMap (·.records)

/-- The stored files are those of one uninterrupted crawl, with one outcome for each
selected resource. -/
def ExportsWhole (objects : ObjectStore) : Prop :=
  objects.get (.file .activities) =
      some (.activities (exportActivities input.window (crawledRecords input answer))) ∧
    ∃ outcome : String → CommunityResourceCoverage,
      (∀ resourceId ∈ input.resourceIds,
        (streamOf input answer resourceId none).2 = .ok (outcome resourceId)) ∧
      objects.get (.file .coverage) =
        some (.coverage (coverageOrder.orderBy (input.resourceIds.map outcome)))

/-! ## Segments -/

/-- The segments that a crawl stores for the pages that follow, given what is buffered. -/
def segmentsFrom : List CommunityActivityRecord → List CommunityRecordBatch →
    List (List CommunityActivityRecord)
  | buffered, [] => if buffered = [] then [] else [buffered]
  | buffered, batch :: rest =>
      if SEGMENT_MAX_ROWS ≤ (buffered ++ batch.records).length then
        (buffered ++ batch.records) :: segmentsFrom [] rest
      else segmentsFrom (buffered ++ batch.records) rest

/-- The segments of a resource. -/
def segmentsOf (resourceId : String) : List (List CommunityActivityRecord) :=
  segmentsFrom [] (streamOf input answer resourceId none).1

/-- The segments before an index are stored. -/
def Stored (objects : ObjectStore) (resourceId : String) (segments : Nat) : Prop :=
  ∀ index < segments, (objects.get (.segment resourceId index)).isSome = true

/-- The segments behind the progress are stored, and the cursor is where the next one
starts. -/
structure ProgressSound (objects : ObjectStore) (resourceId : String)
    (progress : ResourceProgress) : Prop where
  stored : Stored objects resourceId progress.segments
  resumes : progress.coverage = none →
    segmentsFrom [] (streamOf input answer resourceId progress.cursor).1 =
        (segmentsOf input answer resourceId).drop progress.segments ∧
      (streamOf input answer resourceId progress.cursor).2 =
        (streamOf input answer resourceId none).2
  finished : ∀ coverage, progress.coverage = some coverage →
    progress.segments = (segmentsOf input answer resourceId).length ∧
      (streamOf input answer resourceId none).2 = .ok coverage

def CheckpointSound (objects : ObjectStore) (checkpoint : CommunityFetchCheckpoint) : Prop :=
  ∀ resourceId progress, checkpoint resourceId = some progress →
    ProgressSound input answer objects resourceId progress

/-- No dataset is committed; stored segments and checkpoints are those of the crawl. -/
structure Uncommitted (world : FreezeWorld Request) : Prop where
  answers : @world.answer = @answer
  noManifest : world.objects.get .manifest = none
  segments : ∀ resourceId index body, world.objects.get (.segment resourceId index) = some body →
    ∃ records, (segmentsOf input answer resourceId)[index]? = some records ∧
      body = .segment records
  heartbeats : ∀ checkpoint ∈ world.heartbeats,
    CheckpointSound input answer world.objects checkpoint

/-- A dataset is committed, and it is that of the crawl. -/
structure Committed (world : FreezeWorld Request) : Prop where
  answers : @world.answer = @answer
  manifest : (world.objects.get .manifest).isSome = true
  whole : ExportsWhole input answer world.objects

def FreezeSound (world : FreezeWorld Request) : Prop :=
  Uncommitted input answer world ∨ Committed input answer world

end

section Segments

variable {buffered : List CommunityActivityRecord} {batch : CommunityRecordBatch}
  {rest : List CommunityRecordBatch}

theorem flatten_segmentsFrom (buffered : List CommunityActivityRecord)
    (pages : List CommunityRecordBatch) :
    (segmentsFrom buffered pages).flatten = buffered ++ pages.flatMap (·.records) := by
  induction pages generalizing buffered with
  | nil =>
      rw [segmentsFrom]
      split
      · rename_i empty
        rw [empty]
        rfl
      · simp
  | cons batch rest ih =>
      rw [segmentsFrom]
      split
      · rw [List.flatten_cons, ih, List.nil_append, List.flatMap_cons, List.append_assoc]
      · rw [ih, List.flatMap_cons, List.append_assoc]

theorem segmentsFrom_nil (nonempty : buffered ≠ []) : segmentsFrom buffered [] = [buffered] :=
  if_neg nonempty

theorem segmentsFrom_full (full : SEGMENT_MAX_ROWS ≤ (buffered ++ batch.records).length) :
    segmentsFrom buffered (batch :: rest) = (buffered ++ batch.records) :: segmentsFrom [] rest :=
  if_pos full

theorem segmentsFrom_buffer (short : ¬SEGMENT_MAX_ROWS ≤ (buffered ++ batch.records).length) :
    segmentsFrom buffered (batch :: rest) = segmentsFrom (buffered ++ batch.records) rest :=
  if_neg short

end Segments

/-! ## What the operations keep -/

section Keep

variable {input : FreezeCommunityDatasetInput Request} {answer : ∀ {α : Type}, Request α → α}
  {objects : ObjectStore} {key : ObjectKey} {body : ObjectBody} {resourceId : String}
  {progress : ResourceProgress} {checkpoint : CommunityFetchCheckpoint}
  {world : FreezeWorld Request}

theorem Stored.put {segments : Nat} (stored : Stored objects resourceId segments) :
    Stored (objects.put key body) resourceId segments := by
  intro index below
  by_cases same : ObjectKey.segment resourceId index = key
  · rw [same, ObjectStore.get_put_self]
    rfl
  · rw [ObjectStore.get_put_of_ne same]
    exact stored index below

theorem ProgressSound.put (sound : ProgressSound input answer objects resourceId progress) :
    ProgressSound input answer (objects.put key body) resourceId progress :=
  ⟨sound.stored.put, sound.resumes, sound.finished⟩

theorem CheckpointSound.put (sound : CheckpointSound input answer objects checkpoint) :
    CheckpointSound input answer (objects.put key body) checkpoint :=
  fun resourceId progress found => (sound resourceId progress found).put

theorem CheckpointSound.update (sound : CheckpointSound input answer objects checkpoint)
    (own : ProgressSound input answer objects resourceId progress) :
    CheckpointSound input answer objects
      (Function.update checkpoint resourceId (some progress)) := by
  intro other others found
  by_cases same : other = resourceId
  · cases same
    rw [Function.update_self] at found
    cases found
    exact own
  · rw [Function.update_of_ne same] at found
    exact sound other others found

/-- What the first checkpoint of a resource says. -/
theorem progressSound_begin : ProgressSound input answer objects resourceId {} := by
  constructor
  · intro index below
    exact absurd below (Nat.not_lt_zero index)
  · exact fun _ => ⟨rfl, rfl⟩
  · intro coverage finished
    cases finished

theorem CheckpointSound.getD (sound : CheckpointSound input answer objects checkpoint) :
    ProgressSound input answer objects resourceId ((checkpoint resourceId).getD {}) := by
  cases found : checkpoint resourceId with
  | none => exact progressSound_begin
  | some progress => exact sound resourceId progress found

theorem Uncommitted.heartbeat (sound : Uncommitted input answer world)
    (beaten : CheckpointSound input answer world.objects checkpoint) :
    Uncommitted input answer { world with heartbeats := world.heartbeats ++ [checkpoint] } where
  answers := sound.answers
  noManifest := sound.noManifest
  segments := sound.segments
  heartbeats := by
    intro other member
    rcases List.mem_append.mp member with earlier | last
    · exact sound.heartbeats other earlier
    · cases List.mem_singleton.mp last
      exact beaten

theorem Uncommitted.putSegment {records : List CommunityActivityRecord} {index : Nat}
    (sound : Uncommitted input answer world)
    (canonical : (segmentsOf input answer resourceId)[index]? = some records) :
    Uncommitted input answer
      { world with objects := world.objects.put (.segment resourceId index) (.segment records) }
    where
  answers := sound.answers
  noManifest := by
    rw [ObjectStore.get_put_of_ne (by intro same; cases same)]
    exact sound.noManifest
  segments := by
    intro other position body found
    by_cases same : ObjectKey.segment other position = .segment resourceId index
    · cases same
      rw [ObjectStore.get_put_self] at found
      cases found
      exact ⟨records, canonical, rfl⟩
    · rw [ObjectStore.get_put_of_ne same] at found
      exact sound.segments other position body found
  heartbeats := fun checkpoint member => (sound.heartbeats checkpoint member).put

theorem Uncommitted.putFile {filename : DatasetFile} (sound : Uncommitted input answer world) :
    Uncommitted input answer
      { world with objects := world.objects.put (.file filename) body } where
  answers := sound.answers
  noManifest := by
    rw [ObjectStore.get_put_of_ne (by intro same; cases same)]
    exact sound.noManifest
  segments := by
    intro other position body found
    rw [ObjectStore.get_put_of_ne (by intro same; cases same)] at found
    exact sound.segments other position body found
  heartbeats := fun checkpoint member => (sound.heartbeats checkpoint member).put

/-- Stored segments are segments of the crawl, so there are no more of them. -/
theorem Uncommitted.le_length {segments : Nat} (sound : Uncommitted input answer world)
    (stored : Stored world.objects resourceId segments) :
    segments ≤ (segmentsOf input answer resourceId).length := by
  cases segments with
  | zero => exact Nat.zero_le _
  | succ before =>
      rcases Option.isSome_iff_exists.mp (stored before (Nat.lt_succ_self before)) with
        ⟨body, found⟩
      rcases sound.segments _ _ _ found with ⟨records, located, _⟩
      exact (List.getElem?_eq_some_iff.mp located).1

theorem Committed.delete {keys : List ObjectKey} (sound : Committed input answer world)
    (staging : ∀ key ∈ keys, key.isSegment = true) :
    Committed input answer { world with objects := world.objects.delete keys } := by
  have kept : ∀ key : ObjectKey, key.isSegment = false →
      (world.objects.delete keys).get key = world.objects.get key := by
    intro key other
    apply ObjectStore.get_delete
    intro member
    rw [staging key member] at other
    cases other
  rcases sound.whole with ⟨activities, outcome, outcomes, coverage⟩
  constructor
  · exact sound.answers
  · rw [kept .manifest rfl]
    exact sound.manifest
  · refine ⟨?_, outcome, outcomes, ?_⟩
    · rw [kept _ rfl]
      exact activities
    · rw [kept _ rfl]
      exact coverage

end Keep

/-! ## The crawl of a resource -/

section Pages

variable (input : FreezeCommunityDatasetInput Request) (answer : ∀ {α : Type}, Request α → α)

/-- The crawl has come to the pages ahead, with some rows buffered. -/
structure Staging (checkpoint : CommunityFetchCheckpoint) (resourceId : String)
    (resource : ResourceProgress) (buffered : List CommunityActivityRecord)
    (ahead : List CommunityRecordBatch × Except CommunityApiError CommunityResourceCoverage)
    (objects : ObjectStore) : Prop where
  checkpoint : CheckpointSound input answer objects checkpoint
  progress : ProgressSound input answer objects resourceId resource
  unfinished : resource.coverage = none
  segments : (segmentsOf input answer resourceId).drop resource.segments =
    segmentsFrom buffered ahead.1
  behind : ∃ cursor before, streamOf input answer resourceId cursor = (before ++ ahead.1, ahead.2)
  outcome : ahead.2 = (streamOf input answer resourceId none).2

/-- The flushed rows are stored, and the next segment is the first of those that follow. -/
structure Flushed (checkpoint : CommunityFetchCheckpoint) (resourceId : String)
    (resource : ResourceProgress) (cursor : Option String)
    (later : List (List CommunityActivityRecord)) (flushed : ResourceProgress)
    (objects : ObjectStore) : Prop where
  checkpoint : CheckpointSound input answer objects checkpoint
  stored : Stored objects resourceId flushed.segments
  later : (segmentsOf input answer resourceId).drop flushed.segments = later
  cursor : flushed.cursor = cursor
  coverage : flushed.coverage = resource.coverage

/-- The resource has its outcome, and the other resources are as before. -/
structure CrawlEnded (checkpoint : CommunityFetchCheckpoint) (resourceId : String)
    (ended : CommunityFetchCheckpoint) (objects : ObjectStore) : Prop where
  sound : CheckpointSound input answer objects ended
  covered : ∃ coverage, (ended resourceId).bind (·.coverage) = some coverage
  others : ∀ other, other ≠ resourceId → ended other = checkpoint other

variable {input} {answer} {checkpoint : CommunityFetchCheckpoint} {resourceId : String}
  {resource : ResourceProgress} {buffered : List CommunityActivityRecord}
  {world : FreezeWorld Request}

theorem flushSegment_maintains (cursor : Option String)
    {later : List (List CommunityActivityRecord)}
    (sound : Uncommitted input answer world)
    (checkpointSound : CheckpointSound input answer world.objects checkpoint)
    (stored : Stored world.objects resourceId resource.segments)
    (next : (segmentsOf input answer resourceId).drop resource.segments =
      segmentsFrom buffered [] ++ later) :
    (flushSegment resourceId resource buffered cursor).Maintains handleFreeze
      (Uncommitted input answer)
      (fun flushed after => Flushed input answer checkpoint resourceId resource cursor later flushed
        after.objects) world := by
  rw [flushSegment]
  split
  · rename_i empty
    rw [empty] at next
    apply Program.maintains_pure sound
    exact ⟨checkpointSound, stored, next, rfl, rfl⟩
  · rename_i nonempty
    rw [segmentsFrom_nil nonempty] at next
    have canonical : (segmentsOf input answer resourceId)[resource.segments]? = some buffered := by
      have first := congrArg (·[0]?) next
      rw [List.getElem?_drop] at first
      exact first
    have kept := sound.putSegment canonical
    refine ⟨sound, kept, ?_⟩
    constructor
    · exact checkpointSound.put
    · intro index below
      by_cases last : index = resource.segments
      · rw [last]
        exact congrArg Option.isSome ObjectStore.get_put_self
      · exact stored.put index (lt_of_le_of_ne (Nat.le_of_lt_succ below) last)
    · rw [← List.drop_drop, next]
      rfl
    · rfl
    · rfl

/-- A page is staged: whichever cursor the progress has then, the crawl goes on from it. -/
theorem stagePage_maintains (continues : ContinuesExactly input answer)
    {batch : CommunityRecordBatch} {rest : List CommunityRecordBatch}
    {outcome : Except CommunityApiError CommunityResourceCoverage}
    (sound : Uncommitted input answer world)
    (staging : Staging input answer checkpoint resourceId resource buffered (batch :: rest, outcome)
      world.objects) :
    (stagePage resourceId resource buffered batch).Maintains handleFreeze
      (Uncommitted input answer)
      (fun staged after => Staging input answer checkpoint resourceId staged.1 staged.2
        (rest, outcome) after.objects) world := by
  rcases staging.behind with ⟨cursor, before, behind⟩
  have continued : streamOf input answer resourceId (some batch.cursor) = (rest, outcome) := by
    rw [continues resourceId cursor before batch rest (congrArg Prod.fst behind), behind]
  have behindRest : ∃ cursor before,
      streamOf input answer resourceId cursor = (before ++ rest, outcome) :=
    ⟨some batch.cursor, [], continued⟩
  have segments := staging.segments
  rw [stagePage]
  split
  · rename_i full
    rw [segmentsFrom_full full] at segments
    have nonempty : buffered ++ batch.records ≠ [] := by
      intro empty
      rw [empty] at full
      exact absurd full (by decide)
    apply Program.maintains_bind
    · apply flushSegment_maintains (some batch.cursor) sound staging.checkpoint
        staging.progress.stored
      rw [segments, segmentsFrom_nil nonempty]
      rfl
    · intro flushed after afterSound ended
      apply Program.maintains_pure afterSound
      have unfinished := ended.coverage.trans staging.unfinished
      refine ⟨ended.checkpoint, ⟨ended.stored, fun _ => ?_, ?_⟩, unfinished, ended.later,
        behindRest, staging.outcome⟩
      · rw [ended.cursor, continued]
        exact ⟨ended.later.symm, staging.outcome⟩
      · intro coverage finished
        rw [unfinished] at finished
        cases finished
  · rename_i short
    rw [segmentsFrom_buffer short] at segments
    split
    · rename_i empty
      rw [empty] at segments
      apply Program.maintains_pure sound
      refine ⟨staging.checkpoint, ⟨staging.progress.stored, fun _ => ?_, ?_⟩, staging.unfinished,
        segments, behindRest, staging.outcome⟩
      · rw [continued]
        exact ⟨segments.symm, staging.outcome⟩
      · exact staging.progress.finished
    · apply Program.maintains_pure sound
      exact ⟨staging.checkpoint, staging.progress, staging.unfinished, segments, behindRest,
        staging.outcome⟩

theorem Staging.heartbeat
    {ahead : List CommunityRecordBatch × Except CommunityApiError CommunityResourceCoverage}
    (sound : Uncommitted input answer world)
    (staging : Staging input answer checkpoint resourceId resource buffered ahead world.objects) :
    Uncommitted input answer { world with
      heartbeats := world.heartbeats ++ [Function.update checkpoint resourceId (some resource)] } :=
  sound.heartbeat (staging.checkpoint.update staging.progress)

/-- The last rows are flushed, and the resource has its outcome. -/
theorem Flushed.ended {coverage : CommunityResourceCoverage} {flushed : ResourceProgress}
    (sound : Uncommitted input answer world)
    (ended : Flushed input answer checkpoint resourceId resource none [] flushed world.objects)
    (outcome : (streamOf input answer resourceId none).2 = .ok coverage) :
    CrawlEnded input answer checkpoint resourceId
      (Function.update checkpoint resourceId (some { flushed with coverage := some coverage }))
      world.objects := by
  have all : flushed.segments = (segmentsOf input answer resourceId).length :=
    le_antisymm (sound.le_length ended.stored) (List.drop_eq_nil_iff.mp ended.later)
  constructor
  · apply ended.checkpoint.update
    refine ⟨ended.stored, ?_, ?_⟩
    · intro unfinished
      cases unfinished
    · intro other finished
      cases finished
      exact ⟨all, outcome⟩
  · rw [Function.update_self]
    exact ⟨coverage, rfl⟩
  · exact fun other different => Function.update_of_ne different _ _

/-- By induction on the crawl: requests are answered as in the uninterrupted crawl, and a
page moves on in it. -/
theorem crawlPages_maintains (continues : ContinuesExactly input answer) (crawl : Crawl Request)
    (sound : Uncommitted input answer world)
    (staging : Staging input answer checkpoint resourceId resource buffered
      (Generator.stream answer crawl) world.objects) :
    (crawlPages resourceId checkpoint crawl resource buffered).Maintains handleFreeze
      (Uncommitted input answer)
      (fun result after => ∀ ended, result = .ok ended →
        CrawlEnded input answer checkpoint resourceId ended after.objects) world := by
  induction crawl generalizing resource buffered world with
  | done result =>
      cases result with
      | error error =>
          apply Program.maintains_pure sound
          intro ended failed
          cases failed
      | ok coverage =>
          rw [crawlPages]
          apply Program.maintains_bind (flushSegment_maintains none sound staging.checkpoint
            staging.progress.stored (staging.segments.trans (List.append_nil _).symm))
          intro flushed after afterSound ended
          have finished := ended.ended afterSound staging.outcome.symm
          refine ⟨afterSound, afterSound.heartbeat finished.sound, ?_⟩
          intro result same
          cases same
          exact finished
  | call operation next ih =>
      cases operation with
      | request request =>
          have answered : (handleFreeze (.request request) world).1 = answer request := by
            rw [handleFreeze, sound.answers]
          refine ⟨sound, ih _ sound ?_⟩
          rw [answered]
          exact staging
      | yield batch =>
          rw [crawlPages]
          apply Program.maintains_bind (stagePage_maintains continues sound staging)
          intro staged after afterSound afterStaging
          exact ⟨afterSound, ih () (afterStaging.heartbeat afterSound) afterStaging⟩

theorem crawlResource_maintains (continues : ContinuesExactly input answer)
    (sound : Uncommitted input answer world)
    (checkpointSound : CheckpointSound input answer world.objects checkpoint) :
    (crawlResource input checkpoint resourceId).Maintains handleFreeze (Uncommitted input answer)
      (fun result after => ∀ ended, result = .ok ended →
        CrawlEnded input answer checkpoint resourceId ended after.objects) world := by
  have progress : ProgressSound input answer world.objects resourceId
      ((checkpoint resourceId).getD {}) := checkpointSound.getD
  rw [crawlResource]
  split
  · rename_i finished
    apply Program.maintains_pure sound
    intro ended same
    cases same
    refine ⟨checkpointSound, ?_, fun _ _ => rfl⟩
    cases found : checkpoint resourceId with
    | none =>
        rw [found] at finished
        cases finished
    | some progress =>
        rw [found] at finished
        exact Option.isSome_iff_exists.mp finished
  · rename_i unfinished
    have uncovered : ((checkpoint resourceId).getD {}).coverage = none :=
      Option.not_isSome_iff_eq_none.mp unfinished
    rcases progress.resumes uncovered with ⟨segments, outcome⟩
    apply crawlPages_maintains continues _ sound
    exact ⟨checkpointSound, progress, uncovered, segments.symm, ⟨_, [], rfl⟩, outcome⟩

end Pages

/-! ## The crawl of the resources -/

section Resources

variable {input : FreezeCommunityDatasetInput Request} {answer : ∀ {α : Type}, Request α → α}
  {checkpoint : CommunityFetchCheckpoint} {world : FreezeWorld Request}

def Covered (checkpoint : CommunityFetchCheckpoint) (resourceId : String) : Prop :=
  ∃ coverage, (checkpoint resourceId).bind (·.coverage) = some coverage

theorem CrawlEnded.covered_other {resourceId other : String} {ended : CommunityFetchCheckpoint}
    {objects : ObjectStore}
    (crawled : CrawlEnded input answer checkpoint resourceId ended objects)
    (before : Covered checkpoint other) : Covered ended other := by
  by_cases same : other = resourceId
  · rw [same]
    exact crawled.covered
  · rw [Covered, crawled.others other same]
    exact before

theorem crawlResources_maintains (continues : ContinuesExactly input answer)
    (resourceIds : List String) (sound : Uncommitted input answer world)
    (checkpointSound : CheckpointSound input answer world.objects checkpoint) :
    (crawlResources input resourceIds checkpoint).Maintains handleFreeze (Uncommitted input answer)
      (fun result after => ∀ ended, result = .ok ended →
        CheckpointSound input answer after.objects ended ∧
          ∀ resourceId, resourceId ∈ resourceIds ∨ Covered checkpoint resourceId →
            Covered ended resourceId) world := by
  induction resourceIds generalizing checkpoint world with
  | nil =>
      apply Program.maintains_pure sound
      intro ended same
      cases same
      refine ⟨checkpointSound, ?_⟩
      intro resourceId covered
      exact covered.resolve_left (List.not_mem_nil)
  | cons first rest ih =>
      rw [crawlResources]
      apply Program.maintains_bind (crawlResource_maintains continues sound checkpointSound)
      intro result after afterSound crawled
      cases result with
      | error error =>
          apply Program.maintains_pure afterSound
          intro ended failed
          cases failed
      | ok middle =>
          have head := crawled middle rfl
          apply (ih afterSound head.sound).weaken (fun _ kept => kept)
          intro result after _ ends ended same
          rcases ends ended same with ⟨endedSound, covered⟩
          refine ⟨endedSound, ?_⟩
          intro resourceId before
          apply covered
          rcases before with listed | before
          · rcases List.mem_cons.mp listed with here | later
            · rw [here]
              exact Or.inr head.covered
            · exact Or.inl later
          · exact Or.inr (head.covered_other before)

end Resources

/-! ## The export -/

section Export

variable {input : FreezeCommunityDatasetInput Request} {answer : ∀ {α : Type}, Request α → α}
  {checkpoint : CommunityFetchCheckpoint} {world : FreezeWorld Request}

/-- The rows of the segment with a key. -/
def segmentRows (input : FreezeCommunityDatasetInput Request)
    (answer : ∀ {α : Type}, Request α → α) : ObjectKey → List CommunityActivityRecord
  | .segment resourceId index => ((segmentsOf input answer resourceId)[index]?).getD []
  | _ => []

theorem downloadSegments_maintains (keys : List ObjectKey)
    (segments : ∀ key ∈ keys, key.isSegment = true) (sound : Uncommitted input answer world)
    (checkpointSound : CheckpointSound input answer world.objects checkpoint) :
    (downloadSegments checkpoint keys).Maintains handleFreeze (Uncommitted input answer)
      (fun result after => CheckpointSound input answer after.objects checkpoint ∧
        ∀ staged, result = .ok staged → staged = keys.flatMap (segmentRows input answer)) world := by
  induction keys generalizing world with
  | nil =>
      apply Program.maintains_pure sound
      refine ⟨checkpointSound, ?_⟩
      intro staged same
      cases same
      rfl
  | cons key rest ih =>
      rw [downloadSegments]
      apply Program.maintains_perform_bind sound
      cases found : world.objects.get key with
      | none =>
          rw [show (handleFreeze (.getObject key) world).1 = none from found]
          refine ⟨sound, checkpointSound, ?_⟩
          intro staged failed
          cases failed
      | some body =>
          cases key with
          | file filename => cases segments _ List.mem_cons_self
          | manifest => cases segments _ List.mem_cons_self
          | segment resourceId index =>
              rcases sound.segments _ _ _ found with ⟨records, located, same⟩
              cases same
              rw [show (handleFreeze (.getObject (.segment resourceId index)) world).1 = _ from found]
              apply Program.maintains_perform_bind sound
              have beaten := sound.heartbeat checkpointSound
              apply Program.maintains_bind
                (ih (fun key member => segments key (List.mem_cons_of_mem _ member)) beaten
                  checkpointSound)
              intro result after afterSound ⟨afterCheckpoint, downloaded⟩
              cases result with
              | error error =>
                  apply Program.maintains_pure afterSound
                  refine ⟨afterCheckpoint, ?_⟩
                  intro staged failed
                  cases failed
              | ok others =>
                  apply Program.maintains_pure afterSound
                  refine ⟨afterCheckpoint, ?_⟩
                  intro staged same
                  cases same
                  rw [downloaded others rfl, List.flatMap_cons, segmentRows, located]
                  rfl

/-- The segments of a resource, read by index. -/
theorem flatMap_range_segmentRows (resourceId : String) :
    ((List.range (segmentsOf input answer resourceId).length).map
      (ObjectKey.segment resourceId)).flatMap (segmentRows input answer) =
        (segmentsOf input answer resourceId).flatten := by
  have rows : (List.range (segmentsOf input answer resourceId).length).map
      (segmentRows input answer ∘ ObjectKey.segment resourceId) =
        segmentsOf input answer resourceId := by
    apply List.ext_getElem
    · rw [List.length_map, List.length_range]
    · intro index below inside
      rw [List.getElem_map, List.getElem_range, Function.comp_apply, segmentRows,
        List.getElem?_eq_getElem inside, Option.getD_some]
  rw [List.flatMap_def, List.map_map, rows]

/-- What is downloaded is what the crawl yields. -/
theorem flatMap_segmentKeys
    (checkpointSound : CheckpointSound input answer world.objects checkpoint)
    (covered : ∀ resourceId ∈ input.resourceIds, Covered checkpoint resourceId) :
    (segmentKeys input checkpoint).flatMap (segmentRows input answer) =
      crawledRecords input answer := by
  rw [segmentKeys, crawledRecords, List.flatMap_assoc]
  apply List.flatMap_congr
  intro resourceId member
  rcases covered resourceId member with ⟨coverage, finished⟩
  rcases Option.bind_eq_some_iff.mp finished with ⟨progress, found, finished⟩
  have all := ((checkpointSound resourceId progress found).finished coverage finished).1
  rw [found, Option.map_some, Option.getD_some, all, flatMap_range_segmentRows, segmentsOf,
    flatten_segmentsFrom]
  rfl

theorem isSegment_of_mem_segmentKeys {key : ObjectKey}
    (member : key ∈ segmentKeys input checkpoint) : key.isSegment = true := by
  rcases List.mem_flatMap.mp member with ⟨resourceId, _, own⟩
  rcases List.mem_map.mp own with ⟨index, _, same⟩
  rw [← same]
  rfl

/-- Each selected resource has one outcome, that of the crawl. -/
theorem coveragesOf_eq_map
    (checkpointSound : CheckpointSound input answer world.objects checkpoint)
    (covered : ∀ resourceId ∈ input.resourceIds, Covered checkpoint resourceId) :
    ∃ outcome : String → CommunityResourceCoverage,
      (∀ resourceId ∈ input.resourceIds,
        (streamOf input answer resourceId none).2 = .ok (outcome resourceId)) ∧
      coveragesOf input.resourceIds checkpoint = input.resourceIds.map outcome := by
  refine ⟨fun resourceId => ((checkpoint resourceId).bind (·.coverage)).getD ⟨"", .failed, none⟩,
    ?_, ?_⟩
  · intro resourceId member
    rcases covered resourceId member with ⟨coverage, finished⟩
    rcases Option.bind_eq_some_iff.mp finished with ⟨progress, found, own⟩
    change _ = Except.ok (((checkpoint resourceId).bind (·.coverage)).getD _)
    rw [finished]
    exact ((checkpointSound resourceId progress found).finished coverage own).2
  · rw [coveragesOf, ← List.filterMap_eq_map]
    apply List.filterMap_congr
    intro resourceId member
    rcases covered resourceId member with ⟨coverage, finished⟩
    rw [Function.comp_apply, finished]
    rfl

theorem clearStagingSegments_maintains (sound : Committed input answer world) :
    clearStagingSegments.Maintains handleFreeze (FreezeSound input answer)
      (fun _ after => Committed input answer after) world := by
  have held : FreezeSound input answer world := Or.inr sound
  rw [clearStagingSegments]
  apply Program.maintains_perform_bind held
  split
  · exact Program.maintains_pure held sound
  · have kept : Committed input answer { world with
        objects := world.objects.delete world.objects.stagingKeys } :=
      sound.delete fun _ => ObjectStore.isSegment_of_mem_stagingKeys
    exact Program.maintains_perform held (Or.inr kept) kept

/-- Before the manifest is put, the files are those that it names. -/
theorem putDataset_maintains {activities : List CommunityActivityRecord}
    {coverages : List CommunityResourceCoverage} (cohort : List CommunityCohortRow)
    (sound : Uncommitted input answer world)
    (exported : activities = exportActivities input.window (crawledRecords input answer))
    (outcomes : ∃ outcome : String → CommunityResourceCoverage,
      (∀ resourceId ∈ input.resourceIds,
        (streamOf input answer resourceId none).2 = .ok (outcome resourceId)) ∧
      coverages = coverageOrder.orderBy (input.resourceIds.map outcome)) :
    (putDataset input activities coverages cohort).Maintains handleFreeze
      (FreezeSound input answer) (fun _ after => Committed input answer after) world := by
  rcases outcomes with ⟨outcome, crawled, covered⟩
  refine ⟨Or.inl sound, Or.inl sound.putFile, Or.inl sound.putFile.putFile,
    Or.inl sound.putFile.putFile.putFile, Or.inl sound.putFile.putFile.putFile, ?_⟩
  suffices committed : Committed input answer _ from ⟨Or.inr committed, committed⟩
  constructor
  · exact sound.answers
  · exact congrArg Option.isSome ObjectStore.get_put_self
  · refine ⟨?_, outcome, crawled, ?_⟩
    · rw [← exported]
      simp [handleFreeze, ObjectStore.get_put_of_ne]
    · rw [← covered]
      simp [handleFreeze, ObjectStore.get_put_of_ne]

theorem exportAndCommit_maintains (cohort : List CommunityCohortRow)
    (sound : Uncommitted input answer world)
    (checkpointSound : CheckpointSound input answer world.objects checkpoint)
    (covered : ∀ resourceId ∈ input.resourceIds, Covered checkpoint resourceId) :
    (exportAndCommit input checkpoint (coveragesOf input.resourceIds checkpoint) cohort).Maintains
      handleFreeze (FreezeSound input answer) (fun _ _ => True) world := by
  rw [exportAndCommit]
  apply Program.maintains_bind
  · apply (downloadSegments_maintains (segmentKeys input checkpoint)
      (fun _ => isSegment_of_mem_segmentKeys) sound checkpointSound).weaken
      (fun _ kept => Or.inl kept)
    exact fun result after afterSound ends => And.intro afterSound ends
  · intro result after _ ⟨afterSound, afterCheckpoint, downloaded⟩
    cases result with
    | error error => exact Program.maintains_pure (Or.inl afterSound) trivial
    | ok staged =>
        have whole : staged = crawledRecords input answer := by
          rw [downloaded staged rfl, flatMap_segmentKeys checkpointSound covered]
        have held : FreezeSound input answer after := Or.inl afterSound
        rcases coveragesOf_eq_map checkpointSound covered with ⟨outcome, crawled, outcomes⟩
        apply Program.maintains_perform_bind held
        apply Program.maintains_bind
        · apply putDataset_maintains _ (afterSound.heartbeat afterCheckpoint)
          · rw [whole]
          · exact ⟨outcome, crawled, by rw [outcomes]⟩
        · intro manifest committed _ committedSound
          apply Program.maintains_bind (clearStagingSegments_maintains committedSound)
          intro _ cleared clearedSound _
          exact Program.maintains_pure clearedSound trivial

theorem commitCrawl_maintains (sound : Uncommitted input answer world)
    (checkpointSound : CheckpointSound input answer world.objects checkpoint)
    (covered : ∀ resourceId ∈ input.resourceIds, Covered checkpoint resourceId) :
    (commitCrawl input checkpoint).Maintains handleFreeze (FreezeSound input answer)
      (fun _ _ => True) world := by
  have held : FreezeSound input answer world := Or.inl sound
  rw [commitCrawl]
  split
  · exact Program.maintains_pure held trivial
  · apply Program.maintains_perform_bind held
    apply Program.maintains_perform_bind held
    apply Program.maintains_bind (exportAndCommit_maintains world.cohort
      (sound.heartbeat checkpointSound) checkpointSound covered)
    intro result after afterSound _
    cases result with
    | error error => exact Program.maintains_pure afterSound trivial
    | ok manifest => exact Program.maintains_pure afterSound trivial

end Export

/-! ## Attempts -/

section Attempt

variable {input : FreezeCommunityDatasetInput Request} {answer : ∀ {α : Type}, Request α → α}
  {world : FreezeWorld Request}

theorem verifyFiles_maintains (files : List (DatasetFile × FileMeta))
    (sound : Committed input answer world) :
    (verifyFiles input.sha256 files).Maintains handleFreeze (FreezeSound input answer)
      (fun _ after => Committed input answer after) world := by
  have held : FreezeSound input answer world := Or.inr sound
  induction files with
  | nil => exact Program.maintains_pure held sound
  | cons head rest ih =>
      rw [verifyFiles]
      apply Program.maintains_perform_bind held
      split
      · exact Program.maintains_pure held sound
      · split
        · exact Program.maintains_pure held sound
        · exact ih

/-- Where no dataset is committed none is found, and a committed one is only read. -/
theorem readCommittedManifest_maintains (sound : FreezeSound input answer world) :
    (readCommittedManifest input.sha256).Maintains handleFreeze (FreezeSound input answer)
      (fun found after => if found = .ok none then Uncommitted input answer after ∧ after = world
        else Committed input answer after) world := by
  rw [readCommittedManifest]
  apply Program.maintains_perform_bind sound
  rcases sound with sound | sound
  · rw [show (handleFreeze (.getObject .manifest) world).1 = none from sound.noManifest]
    exact Program.maintains_pure (Or.inl sound) ⟨sound, rfl⟩
  · rcases Option.isSome_iff_exists.mp sound.manifest with ⟨body, found⟩
    rw [show (handleFreeze (.getObject .manifest) world).1 = some body from found]
    have held : FreezeSound input answer world := Or.inr sound
    split
    · rename_i absent
      cases absent
    · apply Program.maintains_bind (verifyFiles_maintains _ sound)
      intro verified after afterSound committed
      cases verified with
      | error error => exact Program.maintains_pure afterSound committed
      | ok => exact Program.maintains_pure afterSound committed
    · exact Program.maintains_pure held sound

theorem freezeCommunityDataset_maintains (continues : ContinuesExactly input answer)
    {lastCheckpoint : Option CommunityFetchCheckpoint} (sound : FreezeSound input answer world)
    (resumed : ∀ checkpoint ∈ lastCheckpoint, checkpoint ∈ world.heartbeats) :
    (freezeCommunityDataset input lastCheckpoint).Maintains handleFreeze
      (FreezeSound input answer) (fun _ _ => True) world := by
  rw [freezeCommunityDataset]
  split
  · exact Program.maintains_pure sound trivial
  · apply Program.maintains_bind (readCommittedManifest_maintains sound)
    intro found after afterSound ends
    split
    · exact Program.maintains_pure afterSound trivial
    · apply Program.maintains_bind (clearStagingSegments_maintains ends)
      intro _ cleared clearedSound _
      exact Program.maintains_pure clearedSound trivial
    · rcases ends with ⟨uncommitted, same⟩
      have checkpointSound : CheckpointSound input answer after.objects
          (normalizeCheckpoint lastCheckpoint) := by
        cases lastCheckpoint with
        | none =>
            intro resourceId progress found
            cases found
        | some checkpoint =>
            apply uncommitted.heartbeats
            rw [same]
            exact resumed checkpoint rfl
      apply Program.maintains_bind
      · apply (crawlResources_maintains continues input.resourceIds uncommitted
          checkpointSound).weaken (fun _ kept => Or.inl kept)
        exact fun result after afterSound ends => And.intro afterSound ends
      · intro result crawled _ ⟨crawledSound, ends⟩
        cases result with
        | error error => exact Program.maintains_pure (Or.inl crawledSound) trivial
        | ok checkpoint =>
            rcases ends checkpoint rfl with ⟨ended, covered⟩
            exact commitCrawl_maintains crawledSound ended
              fun resourceId member => covered resourceId (Or.inl member)

/-- The cohort is fetched anew by each attempt. -/
theorem FreezeSound.fetchAnew (sound : FreezeSound input answer world)
    (cohort : List CommunityCohortRow) (fetchStats : CommunityFetchStats) :
    FreezeSound input answer { world with cohort, fetchStats } := by
  rcases sound with sound | sound
  · exact Or.inl ⟨sound.answers, sound.noManifest, sound.segments, sound.heartbeats⟩
  · exact Or.inr ⟨sound.answers, sound.manifest, sound.whole⟩

theorem freezeSound_of_reachable (continues : ContinuesExactly input answer)
    (reachable : (freezeSystem input answer).Reachable (fun _ _ => True) world) :
    FreezeSound input answer world := by
  refine reachable.invariant ?_ ?_
  · intro first ⟨empty, unbeaten, answers⟩
    refine Or.inl ⟨answers, ?_, ?_, ?_⟩
    · rw [empty]
      rfl
    · intro resourceId index body found
      rw [empty] at found
      cases found
    · intro checkpoint member
      rw [unbeaten] at member
      cases member
  · intro before attempt after sound _ ⟨admissible, performed⟩
    cases performed
    exact (freezeCommunityDataset_maintains continues (sound.fetchAnew attempt.cohort
      attempt.fetchStats) admissible).runFor attempt.steps

/-- Attempts may fail anywhere and go on from any checkpoint of an earlier one: once a
dataset is committed, it holds what one uninterrupted crawl exports, and one outcome for
each selected resource. -/
theorem freeze_losesNothing (continues : ContinuesExactly input answer)
    (reachable : (freezeSystem input answer).Reachable (fun _ _ => True) world)
    (committed : (world.objects.get .manifest).isSome = true) :
    ExportsWhole input answer world.objects := by
  rcases freezeSound_of_reachable continues reachable with sound | sound
  · rw [sound.noManifest] at committed
    cases committed
  · exact sound.whole

end Attempt

/-! ## A freeze that fails once -/

private inductive PageRequest : Type → Type where
  | page (cursor : Option String) : PageRequest (Option CommunityRecordBatch)

private def firstPage : CommunityRecordBatch := ⟨[], "1"⟩

private def secondPage : CommunityRecordBatch :=
  ⟨[⟨"message", "u1", none, "c1", "m1", 5, 1, false, false⟩], "2"⟩

private def pageAnswer : ∀ {α : Type}, PageRequest α → α
  | _, .page cursor =>
      if cursor = none then some firstPage
      else if cursor = some "1" then some secondPage
      else none

/-- Pages until none is left; the fuel is enough for the pages there are. -/
private def pageCrawl : Nat → Option String → Crawl PageRequest
  | 0, _ => pure (.error .other)
  | fuel + 1, cursor => do
      match ← Generator.request (.page cursor) with
      | none => return .ok ⟨"c1", .complete, none⟩
      | some batch =>
          Generator.yield batch
          pageCrawl fuel (some batch.cursor)

private def pagedInput : FreezeCommunityDatasetInput PageRequest where
  snapshotId := "s1"
  platform := "discord"
  window := ⟨0, 10⟩
  resourceIds := ["c1"]
  iterateRecords request := pageCrawl 3 request.cursor
  sha256 _ := "digest"
  byteLength _ := 0
  duckdbVersion := "v1"

private theorem paged_ended (resourceId : String) {cursor : String} (last : cursor ≠ "1") :
    streamOf pagedInput pageAnswer resourceId (some cursor) =
      ([], .ok ⟨"c1", .complete, none⟩) := by
  have answered : pageAnswer (.page (some cursor)) = none := by
    rw [pageAnswer, if_neg (Option.some_ne_none cursor),
      if_neg (fun same => last (Option.some.inj same))]
  simp [streamOf, pagedInput, pageCrawl, Generator.stream_bind, answered]

private theorem pagedInput_continues : ContinuesExactly pagedInput pageAnswer := by
  have ended := paged_ended
  have first : ∀ resourceId, streamOf pagedInput pageAnswer resourceId none =
      ([firstPage, secondPage], .ok ⟨"c1", .complete, none⟩) := fun _ => rfl
  have second : ∀ resourceId, streamOf pagedInput pageAnswer resourceId (some "1") =
      ([secondPage], .ok ⟨"c1", .complete, none⟩) := fun _ => rfl
  intro resourceId cursor before batch rest pages
  cases cursor with
  | none =>
      rw [first] at pages ⊢
      rcases List.cons_eq_append_iff.mp pages with ⟨_, same⟩ | ⟨earlier, _, later⟩
      · cases same
        exact second resourceId
      · rcases List.cons_eq_append_iff.mp later with ⟨_, same⟩ | ⟨_, _, beyond⟩
        · cases same
          exact ended resourceId (by decide)
        · simp at beyond
  | some cursor =>
      by_cases here : cursor = "1"
      · cases here
        rw [second] at pages ⊢
        rcases List.cons_eq_append_iff.mp pages with ⟨_, same⟩ | ⟨_, _, beyond⟩
        · cases same
          exact ended resourceId (by decide)
        · simp at beyond
      · rw [ended resourceId here] at pages
        simp at pages

private def noStats : CommunityFetchStats := ⟨0, 0, 0, 0, 0, 0⟩

private def pagedStart : FreezeWorld PageRequest := ⟨.empty, [], [], noStats, pageAnswer⟩

private def interrupted : FreezeWorld PageRequest :=
  System.performOr (FreezeWorld.attempt pagedInput) pagedStart ⟨none, [], noStats, 3⟩

private def resumed : FreezeWorld PageRequest :=
  System.performOr (FreezeWorld.attempt pagedInput) interrupted
    ⟨interrupted.heartbeats.head?, [], noStats, 20⟩

/-- An attempt that fails after the first page, and one that goes on from its checkpoint
and commits. -/
theorem freeze_losesNothing_sample :
    interrupted.objects.get .manifest = none ∧ interrupted.heartbeats.length = 1 ∧
      (resumed.objects.get .manifest).isSome = true ∧
      ExportsWhole pagedInput pageAnswer resumed.objects := by
  have start : (freezeSystem pagedInput pageAnswer).Reachable (fun _ _ => True) pagedStart :=
    .start ⟨rfl, rfl, rfl⟩
  have first : (freezeSystem pagedInput pageAnswer).Reachable (fun _ _ => True) interrupted :=
    .next start trivial ⟨fun _ absent => (Option.not_mem_none _ absent).elim, rfl⟩
  have second : (freezeSystem pagedInput pageAnswer).Reachable (fun _ _ => True) resumed :=
    .next first trivial ⟨fun _ beaten => List.mem_of_mem_head? beaten, rfl⟩
  have committed : (resumed.objects.get .manifest).isSome = true := by decide +kernel
  refine ⟨by decide +kernel, by decide +kernel, committed, ?_⟩
  exact freeze_losesNothing pagedInput_continues second committed

end Reputo.Community

import Reputo.Community.Records
import Reputo.Library.Generator
import Reputo.Library.Table

/-!
# Freezing a dataset

The dataset engine, operation by operation: what a committed dataset is checked for, the
crawl that is staged in segments behind a checkpoint, and the export that ends with the
manifest.  Whatever throws ends the attempt.
-/

namespace Reputo.Community

open Reputo.Library

/-! ## Objects -/

/-- The exported files. -/
inductive DatasetFile where
  | activities
  | coverage
  | cohort
  deriving DecidableEq, Repr

/-- Keys of the objects of a snapshot and platform; a segment has the resource and the
index in its key. -/
inductive ObjectKey where
  | file (filename : DatasetFile)
  | manifest
  | segment (resourceId : String) (index : Nat)
  deriving DecidableEq, Repr

inductive CohortStatus where
  | matched
  | unmatched
  deriving DecidableEq, Repr

structure CommunityCohortRow where
  did : String
  username : Option String
  accountId : Option String
  status : CohortStatus
  deriving DecidableEq, Repr

structure FileMeta where
  sha256 : String
  bytes : Nat
  rows : Nat
  deriving DecidableEq, Repr

/-- How much was fetched, over all attempts. -/
structure CommunityFetchStats where
  requests : Nat
  pages : Nat
  rows : Nat
  rateLimitWaits : Nat
  rateLimitWaitMs : Nat
  durationMs : Nat
  deriving DecidableEq, Repr

structure CommunityDatasetManifest where
  schemaVersion : Nat
  platform : String
  snapshotId : String
  window : CommunityFetchWindow
  files : List (DatasetFile × FileMeta)
  fetchStats : CommunityFetchStats
  duckdb : String
  deriving DecidableEq, Repr

/-- What is stored under a key. -/
inductive ObjectBody where
  | segment (records : List CommunityActivityRecord)
  | activities (rows : List CommunityActivityRecord)
  | coverage (rows : List CommunityResourceCoverage)
  | cohort (rows : List CommunityCohortRow)
  | manifest (manifest : CommunityDatasetManifest)
  deriving DecidableEq, Repr

/-! ## Checkpoints -/

structure ResourceProgress where
  segments : Nat := 0
  cursor : Option String := none
  coverage : Option CommunityResourceCoverage := none
  deriving DecidableEq, Repr

/-- The progress of each resource that was begun. -/
abbrev CommunityFetchCheckpoint := String → Option ResourceProgress

def normalizeCheckpoint (checkpoint : Option CommunityFetchCheckpoint) :
    CommunityFetchCheckpoint :=
  checkpoint.getD fun _ => none

/-! ## Operations -/

structure IterateRecordsRequest where
  resourceId : String
  window : CommunityFetchWindow
  cursor : Option String
  deriving DecidableEq, Repr

/-- The page batches of a resource, and its coverage; a crawl may throw. -/
abbrev Crawl (Request : Type → Type) :=
  Generator Request CommunityRecordBatch (Except CommunityApiError CommunityResourceCoverage)

/-- What an attempt waits for. -/
inductive FreezeOperation (Request : Type → Type) : Type → Type 1 where
  | request {α : Type} (request : Request α) : FreezeOperation Request α
  | heartbeat (checkpoint : CommunityFetchCheckpoint) : FreezeOperation Request Unit
  | getObject (key : ObjectKey) : FreezeOperation Request (Option ObjectBody)
  | putObject (key : ObjectKey) (body : ObjectBody) : FreezeOperation Request Unit
  | listStagingSegments : FreezeOperation Request (List ObjectKey)
  | deleteObjects (keys : List ObjectKey) : FreezeOperation Request Unit
  | fetchCohort : FreezeOperation Request (List CommunityCohortRow)
  | liveStats : FreezeOperation Request CommunityFetchStats

abbrev FreezeProgram (Request : Type → Type) := Program (FreezeOperation Request)

structure FreezeCommunityDatasetInput (Request : Type → Type) where
  snapshotId : String
  platform : String
  window : CommunityFetchWindow
  resourceIds : List String
  iterateRecords : IterateRecordsRequest → Crawl Request
  sha256 : ObjectBody → String
  byteLength : ObjectBody → Nat
  duckdbVersion : String

inductive FreezeError where
  | noResources
  | hashMismatch (filename : DatasetFile)
  | missingObject (key : ObjectKey)
  | malformedObject (key : ObjectKey)
  | crawl (error : CommunityApiError)
  | allFailed (reasons : List String)
  deriving DecidableEq, Repr

structure FreezeCommunityDatasetResult where
  committed : Bool
  manifest : CommunityDatasetManifest
  deriving DecidableEq, Repr

def COMMUNITY_DATASET_SCHEMA_VERSION : Nat := 2

def SEGMENT_MAX_ROWS : Nat := 5000

variable {Request : Type → Type}

/-! ## The committed dataset -/

/-- The files of a manifest are read one after another and compared with its hashes. -/
def verifyFiles (sha256 : ObjectBody → String) :
    List (DatasetFile × FileMeta) → FreezeProgram Request (Except FreezeError Unit)
  | [] => pure (.ok ())
  | (filename, fileMeta) :: rest => do
      match ← .perform (.getObject (.file filename)) with
      | none => return .error (.missingObject (.file filename))
      | some content =>
          if sha256 content ≠ fileMeta.sha256 then return .error (.hashMismatch filename)
          else verifyFiles sha256 rest

def readCommittedManifest (sha256 : ObjectBody → String) :
    FreezeProgram Request (Except FreezeError (Option CommunityDatasetManifest)) := do
  match ← .perform (.getObject .manifest) with
  | none => return .ok none
  | some (.manifest manifest) =>
      match ← verifyFiles sha256 manifest.files with
      | .error error => return .error error
      | .ok () => return .ok (some manifest)
  | some _ => return .error (.malformedObject .manifest)

/-- Best effort: whatever fails here is ignored. -/
def clearStagingSegments : FreezeProgram Request Unit := do
  let keys ← .perform .listStagingSegments
  if keys = [] then return ()
  else .perform (.deleteObjects keys)

/-! ## The crawl -/

section Crawl

variable (resourceId : String)

/-- The rows that are buffered become the next segment, and the cursor covers them. -/
def flushSegment (resource : ResourceProgress) (buffered : List CommunityActivityRecord)
    (cursor : Option String) : FreezeProgram Request ResourceProgress :=
  if buffered = [] then pure { resource with cursor }
  else do
    let _ ← .perform (.putObject (.segment resourceId resource.segments) (.segment buffered))
    return { resource with segments := resource.segments + 1, cursor }

/-- A page is buffered; a full buffer is flushed, and an empty one lets the cursor pass. -/
def stagePage (resource : ResourceProgress) (buffered : List CommunityActivityRecord)
    (batch : CommunityRecordBatch) :
    FreezeProgram Request (ResourceProgress × List CommunityActivityRecord) :=
  let buffered := buffered ++ batch.records
  if SEGMENT_MAX_ROWS ≤ buffered.length then do
    let resource ← flushSegment resourceId resource buffered (some batch.cursor)
    return (resource, [])
  else if buffered = [] then pure ({ resource with cursor := some batch.cursor }, [])
  else pure (resource, buffered)

/-- The pages of a crawl as they come, with a heartbeat after each. -/
def crawlPages (checkpoint : CommunityFetchCheckpoint) :
    Crawl Request → ResourceProgress → List CommunityActivityRecord →
      FreezeProgram Request (Except FreezeError CommunityFetchCheckpoint)
  | .done (.error error), _, _ => pure (.error (.crawl error))
  | .done (.ok coverage), resource, buffered => do
      let flushed ← flushSegment resourceId resource buffered none
      let resource := { flushed with coverage := some coverage }
      let _ ← .perform (.heartbeat (Function.update checkpoint resourceId (some resource)))
      return .ok (Function.update checkpoint resourceId (some resource))
  | .call (.request request) next, resource, buffered =>
      .call (.request request) fun reply => crawlPages checkpoint (next reply) resource buffered
  | .call (.yield batch) next, resource, buffered => do
      let staged ← stagePage resourceId resource buffered batch
      let _ ← .perform (.heartbeat (Function.update checkpoint resourceId (some staged.1)))
      crawlPages checkpoint (next ()) staged.1 staged.2

end Crawl

section Freeze

variable (input : FreezeCommunityDatasetInput Request)

def crawlResource (checkpoint : CommunityFetchCheckpoint) (resourceId : String) :
    FreezeProgram Request (Except FreezeError CommunityFetchCheckpoint) :=
  let resource := (checkpoint resourceId).getD {}
  if resource.coverage.isSome then pure (.ok checkpoint)
  else crawlPages resourceId checkpoint
    (input.iterateRecords ⟨resourceId, input.window, resource.cursor⟩) resource []

/-- The resources one after another; one that has its coverage is skipped. -/
def crawlResources : List String → CommunityFetchCheckpoint →
    FreezeProgram Request (Except FreezeError CommunityFetchCheckpoint)
  | [], checkpoint => pure (.ok checkpoint)
  | resourceId :: rest, checkpoint => do
      match ← crawlResource input checkpoint resourceId with
      | .error error => return .error error
      | .ok checkpoint => crawlResources rest checkpoint

def coveragesOf (resourceIds : List String) (checkpoint : CommunityFetchCheckpoint) :
    List CommunityResourceCoverage :=
  resourceIds.filterMap fun resourceId => (checkpoint resourceId).bind (·.coverage)

/-! ## The export -/

/-- The segments of the resources in turn. -/
def segmentKeys (checkpoint : CommunityFetchCheckpoint) : List ObjectKey :=
  input.resourceIds.flatMap fun resourceId =>
    (List.range (((checkpoint resourceId).map (·.segments)).getD 0)).map (.segment resourceId)

/-- The segments are downloaded, with a heartbeat after each. -/
def downloadSegments (checkpoint : CommunityFetchCheckpoint) : List ObjectKey →
    FreezeProgram Request (Except FreezeError (List CommunityActivityRecord))
  | [] => pure (.ok [])
  | key :: rest => do
      match ← .perform (.getObject key) with
      | none => return .error (.missingObject key)
      | some (.segment records) =>
          let _ ← .perform (.heartbeat checkpoint)
          match ← downloadSegments checkpoint rest with
          | .error error => return .error error
          | .ok others => return .ok (records ++ others)
      | some _ => return .error (.malformedObject key)

def fileMeta (body : ObjectBody) (rows : Nat) : FileMeta :=
  ⟨input.sha256 body, input.byteLength body, rows⟩

def manifestOf (activities : List CommunityActivityRecord)
    (coverages : List CommunityResourceCoverage) (cohort : List CommunityCohortRow)
    (fetchStats : CommunityFetchStats) : CommunityDatasetManifest where
  schemaVersion := COMMUNITY_DATASET_SCHEMA_VERSION
  platform := input.platform
  snapshotId := input.snapshotId
  window := input.window
  files :=
    [(.activities, fileMeta input (.activities activities) activities.length),
      (.coverage, fileMeta input (.coverage coverages) coverages.length),
      (.cohort, fileMeta input (.cohort cohort) cohort.length)]
  fetchStats
  duckdb := input.duckdbVersion

/-- `ORDER BY resource`. -/
def coverageOrder : RowOrder CommunityResourceCoverage := .byKey (·.resource)

/-- `ORDER BY did`. -/
def cohortOrder : RowOrder CommunityCohortRow := .byKey (·.did)

/-- The three files, and the manifest as the commit. -/
def putDataset (activities : List CommunityActivityRecord)
    (coverages : List CommunityResourceCoverage) (cohort : List CommunityCohortRow) :
    FreezeProgram Request CommunityDatasetManifest := do
  let _ ← .perform (.putObject (.file .activities) (.activities activities))
  let _ ← .perform (.putObject (.file .coverage) (.coverage coverages))
  let _ ← .perform (.putObject (.file .cohort) (.cohort cohort))
  let fetchStats ← .perform .liveStats
  let manifest := manifestOf input activities coverages cohort fetchStats
  let _ ← .perform (.putObject .manifest (.manifest manifest))
  return manifest

def exportAndCommit (checkpoint : CommunityFetchCheckpoint)
    (coverages : List CommunityResourceCoverage) (cohort : List CommunityCohortRow) :
    FreezeProgram Request (Except FreezeError CommunityDatasetManifest) := do
  match ← downloadSegments checkpoint (segmentKeys input checkpoint) with
  | .error error => return .error error
  | .ok staged =>
      let _ ← .perform (.heartbeat checkpoint)
      let manifest ← putDataset input (exportActivities input.window staged)
        (coverageOrder.orderBy coverages) (cohortOrder.orderBy cohort)
      clearStagingSegments
      return .ok manifest

/-- What follows the crawl. -/
def commitCrawl (checkpoint : CommunityFetchCheckpoint) :
    FreezeProgram Request (Except FreezeError FreezeCommunityDatasetResult) := do
  let coverages := coveragesOf input.resourceIds checkpoint
  if coverages.all (·.status = .failed) then
    return .error (.allFailed
      (distinctBy id (coverages.map fun coverage => coverage.reason.getD "unknown")))
  else
    let cohort ← .perform .fetchCohort
    let _ ← .perform (.heartbeat checkpoint)
    match ← exportAndCommit input checkpoint coverages cohort with
    | .error error => return .error error
    | .ok manifest => return .ok ⟨true, manifest⟩

def freezeCommunityDataset (lastCheckpoint : Option CommunityFetchCheckpoint) :
    FreezeProgram Request (Except FreezeError FreezeCommunityDatasetResult) := do
  if input.resourceIds = [] then return .error .noResources
  else match ← readCommittedManifest input.sha256 with
    | .error error => return .error error
    | .ok (some existing) =>
        clearStagingSegments
        return .ok ⟨false, existing⟩
    | .ok none =>
        match ← crawlResources input input.resourceIds (normalizeCheckpoint lastCheckpoint) with
        | .error error => return .error error
        | .ok checkpoint => commitCrawl input checkpoint

end Freeze

/-! ## The store -/

abbrev ObjectStore := Table (ObjectKey × ObjectBody) Prod.fst

def ObjectKey.isSegment : ObjectKey → Bool
  | .segment _ _ => true
  | _ => false

namespace ObjectStore

def get (objects : ObjectStore) (key : ObjectKey) : Option ObjectBody :=
  (objects.find? key).map (·.2)

def put (objects : ObjectStore) (key : ObjectKey) (body : ObjectBody) : ObjectStore :=
  objects.upsert (key, body)

/-- The keys under the staging prefix. -/
def stagingKeys (objects : ObjectStore) : List ObjectKey :=
  (objects.rows.map (·.1)).filter (·.isSegment)

def delete (objects : ObjectStore) (keys : List ObjectKey) : ObjectStore :=
  objects.filter fun row => row.1 ∉ keys

variable {objects : ObjectStore} {key other : ObjectKey} {body : ObjectBody}

@[simp] theorem get_put_self : (objects.put key body).get key = some body := by
  rw [put, get, Table.find?_upsert_self objects (key, body)]
  rfl

theorem get_put_of_ne (different : other ≠ key) :
    (objects.put key body).get other = objects.get other := by
  rw [put, get, get, Table.find?_upsert_of_ne objects different]

theorem get_delete {keys : List ObjectKey} (kept : key ∉ keys) :
    (objects.delete keys).get key = objects.get key := by
  rw [delete, get, get, Table.find?_filter]
  intro row _ same
  rw [same, decide_eq_true_iff]
  exact kept

theorem isSegment_of_mem_stagingKeys (member : key ∈ objects.stagingKeys) :
    key.isSegment = true :=
  (List.mem_filter.mp member).2

end ObjectStore

/-- The objects, the checkpoints that were heart-beat, and what is answered now. -/
structure FreezeWorld (Request : Type → Type) where
  objects : ObjectStore
  heartbeats : List CommunityFetchCheckpoint
  cohort : List CommunityCohortRow
  fetchStats : CommunityFetchStats
  answer : ∀ {α : Type}, Request α → α

def handleFreeze : Handler (FreezeOperation Request) (FreezeWorld Request) :=
  fun operation world => match operation with
  | .request request => (world.answer request, world)
  | .heartbeat checkpoint => ((), { world with heartbeats := world.heartbeats ++ [checkpoint] })
  | .getObject key => (world.objects.get key, world)
  | .putObject key body => ((), { world with objects := world.objects.put key body })
  | .listStagingSegments => (world.objects.stagingKeys, world)
  | .deleteObjects keys => ((), { world with objects := world.objects.delete keys })
  | .fetchCohort => (world.cohort, world)
  | .liveStats => (world.fetchStats, world)

end Reputo.Community

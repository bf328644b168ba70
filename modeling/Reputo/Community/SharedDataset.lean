import Reputo.Community.Freeze
import Reputo.Library.Protocol

/-!
# A dataset that is shared

Attempts to freeze a dataset and downloads of it, on one store: between two operations of
one of them, anything may happen to the others.  The store also records, for no one to
read, which dataset was stored with the first manifest and whose bytes each file holds.
-/

namespace Reputo.Community

open Reputo.Library

variable {Request : Type → Type}

/-! ## Downloads -/

inductive DownloadError where
  | notCommitted
  | malformedManifest
  | noFile (filename : DatasetFile) (schemaVersion : Nat)
  | missingObject (filename : DatasetFile)
  | hashMismatch (filename : DatasetFile)
  deriving DecidableEq, Repr

structure LocalCommunityDataset where
  manifest : CommunityDatasetManifest
  paths : List (DatasetFile × ObjectBody)
  deriving DecidableEq, Repr

def datasetFilenames : List DatasetFile := [.activities, .cohort, .coverage]

def CommunityDatasetManifest.file? (manifest : CommunityDatasetManifest)
    (filename : DatasetFile) : Option FileMeta :=
  manifest.files.lookup filename

def downloadFiles (sha256 : ObjectBody → String) (manifest : CommunityDatasetManifest) :
    List DatasetFile → FreezeProgram Request (Except DownloadError (List (DatasetFile × ObjectBody)))
  | [] => pure (.ok [])
  | filename :: rest => do
      match ← .perform (.getObject (.file filename)) with
      | none => return .error (.missingObject filename)
      | some body =>
          if some (sha256 body) ≠ (manifest.file? filename).map (·.sha256) then
            return .error (.hashMismatch filename)
          else match ← downloadFiles sha256 manifest rest with
            | .error error => return .error error
            | .ok others => return .ok ((filename, body) :: others)

def downloadCommunityDataset (sha256 : ObjectBody → String) :
    FreezeProgram Request (Except DownloadError LocalCommunityDataset) := do
  match ← .perform (.getObject .manifest) with
  | none => return .error .notCommitted
  | some (.manifest manifest) =>
      match datasetFilenames.find? fun filename => (manifest.file? filename).isNone with
      | some filename => return .error (.noFile filename manifest.schemaVersion)
      | none =>
          match ← downloadFiles sha256 manifest datasetFilenames with
          | .error error => return .error error
          | .ok paths => return .ok ⟨manifest, paths⟩
  | some _ => return .error .malformedManifest

/-! ## Attempts and downloads on one store -/

/-- The store; the attempts that were begun, those whose bytes each file still holds, and
the objects after the first manifest was put. -/
structure SharedDataset (Request : Type → Type) where
  world : FreezeWorld Request
  entered : Nat := 0
  wrote : DatasetFile → List Nat := fun _ => []
  committed : Option ObjectStore := none

/-- An attempt or download is given its number, and is told what was committed before it;
only the statement reads either. -/
inductive DatasetOperation (Request : Type → Type) : Type → Type 1 where
  | enter : DatasetOperation Request (Nat × Option ObjectStore)
  | perform {α : Type} (number : Nat) (operation : FreezeOperation Request α) :
      DatasetOperation Request α

/-- What is recorded when a number performs an operation. -/
def SharedDataset.note (shared : SharedDataset Request) (number : Nat) {α : Type} :
    FreezeOperation Request α → SharedDataset Request
  | .putObject (.file filename) body =>
      let others := if shared.world.objects.get (.file filename) = some body then
        shared.wrote filename else []
      { shared with wrote := Function.update shared.wrote filename (number :: others) }
  | .putObject .manifest body =>
      { shared with
        committed := shared.committed.or (some (shared.world.objects.put .manifest body)) }
  | _ => shared

def handleDataset : Handler (DatasetOperation Request) (SharedDataset Request) :=
  fun operation shared => match operation with
  | .enter => ((shared.entered, shared.committed), { shared with entered := shared.entered + 1 })
  | .perform number operation =>
      ((handleFreeze operation shared.world).1,
        { shared.note number operation with world := (handleFreeze operation shared.world).2 })

inductive DatasetTask where
  | freeze (lastCheckpoint : Option CommunityFetchCheckpoint)
  | download

inductive DatasetOutcome where
  | frozen (result : Except FreezeError FreezeCommunityDatasetResult)
  | downloaded (result : Except DownloadError LocalCommunityDataset)

/-- What was committed before a task began, and how the task ended. -/
structure DatasetResult where
  before : Option ObjectStore
  outcome : DatasetOutcome

def DatasetTask.run (input : FreezeCommunityDatasetInput Request) :
    DatasetTask → FreezeProgram Request DatasetOutcome
  | .freeze lastCheckpoint => do return .frozen (← freezeCommunityDataset input lastCheckpoint)
  | .download => do return .downloaded (← downloadCommunityDataset input.sha256)

def DatasetTask.program (input : FreezeCommunityDatasetInput Request) (task : DatasetTask) :
    Program (DatasetOperation Request) DatasetResult := do
  let entered ← .perform .enter
  let outcome ← (task.run input).lift (.perform entered.1)
  return ⟨entered.2, outcome⟩

/-- What changes outside: the cohort, the counters and the answers of the platform. -/
structure DatasetEvent (Request : Type → Type) where
  cohort : List CommunityCohortRow
  fetchStats : CommunityFetchStats
  answer : ∀ {α : Type}, Request α → α

def DatasetEvent.happen (event : DatasetEvent Request) (shared : SharedDataset Request) :
    SharedDataset Request :=
  { shared with world := { shared.world with
      cohort := event.cohort, fetchStats := event.fetchStats, answer := event.answer } }

/-- Nothing is stored and nothing was begun. -/
def SharedDataset.Initial (shared : SharedDataset Request) : Prop :=
  shared.world.objects = .empty ∧ shared.entered = 0 ∧ (∀ filename, shared.wrote filename = []) ∧
    shared.committed = none

abbrev DatasetPool (Request : Type → Type) :=
  Pool (SharedDataset Request) (DatasetOperation Request) DatasetResult

def datasetSystem (input : FreezeCommunityDatasetInput Request) :
    System (DatasetPool Request) (PoolAction DatasetTask (DatasetEvent Request)) :=
  Pool.system handleDataset (DatasetTask.program input) DatasetEvent.happen
    SharedDataset.Initial

/-! ## What a committed dataset promises -/

def ObjectKey.isDataset : ObjectKey → Bool
  | .segment _ _ => false
  | _ => true

/-- Every file that the manifest names is stored with the recorded hash. -/
def ObjectStore.Verifies (sha256 : ObjectBody → String) (objects : ObjectStore)
    (manifest : CommunityDatasetManifest) : Prop :=
  objects.get .manifest = some (.manifest manifest) ∧
    ∀ file ∈ manifest.files, ∃ body, objects.get (.file file.1) = some body ∧
      sha256 body = file.2.sha256

/-- A task that began after the dataset was committed reads that dataset. -/
def DatasetOutcome.Reads (input : FreezeCommunityDatasetInput Request) (dataset : ObjectStore) :
    DatasetOutcome → Prop
  | .frozen result => input.resourceIds = [] ∨ ∃ manifest,
      dataset.get .manifest = some (.manifest manifest) ∧ result = .ok ⟨false, manifest⟩
  | .downloaded result => ∃ downloaded, result = .ok downloaded ∧
      dataset.get .manifest = some (.manifest downloaded.manifest) ∧
      downloaded.paths.map Prod.fst = datasetFilenames ∧
      ∀ path ∈ downloaded.paths, dataset.get (.file path.1) = some path.2

/-- From the first manifest on, the dataset is verified and never changes, and whoever
begins after it reads it. -/
structure CommittedForever (input : FreezeCommunityDatasetInput Request)
    (pool : DatasetPool Request) : Prop where
  committed : pool.store.committed = none ↔ pool.store.world.objects.get .manifest = none
  unchanged : ∀ dataset ∈ pool.store.committed, ∀ key : ObjectKey, key.isDataset = true →
    pool.store.world.objects.get key = dataset.get key
  verified : ∀ dataset ∈ pool.store.committed, ∃ manifest, dataset.Verifies input.sha256 manifest
  read : ∀ result : DatasetResult, .done result ∈ pool.running → ∀ dataset ∈ result.before,
    pool.store.committed = some dataset ∧ result.outcome.Reads input dataset

/-- A file or manifest is put while no manifest is stored, or with the bytes that are
stored; and a manifest is first put by an attempt whose own bytes all files hold. -/
def WritesApart {α : Type} : DatasetOperation Request α → SharedDataset Request → Prop
  | .perform _ (.putObject (.file filename) body), shared =>
      shared.world.objects.get .manifest = none ∨
        shared.world.objects.get (.file filename) = some body
  | .perform number (.putObject .manifest body), shared =>
      (shared.world.objects.get .manifest = none ∧
        ∀ filename ∈ datasetFilenames, number ∈ shared.wrote filename) ∨
      shared.world.objects.get .manifest = some body
  | _, _ => True

end Reputo.Community

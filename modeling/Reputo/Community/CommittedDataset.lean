import Reputo.Community.SharedDataset

/-!
# A committed dataset

What each attempt has put is recorded; whose bytes the files hold then says which contents
are stored.  So where writes are kept apart, the first manifest describes the files that
are stored with it, and no later write changes them.
-/

namespace Reputo.Community

open Reputo.Library

variable {Request : Type → Type}

/-! ## What tasks guarantee -/

/-- The number of a task with what was committed before it, and the files that it has put. -/
structure DatasetRecord where
  entered : Option (Nat × Option ObjectStore) := none
  written : DatasetFile → Option ObjectBody := fun _ => none

def exportedFilenames : List DatasetFile := [.activities, .coverage, .cohort]

/-- The manifest has the hashes of the files that were put. -/
def CommunityDatasetManifest.Describes (sha256 : ObjectBody → String)
    (manifest : CommunityDatasetManifest) (written : DatasetFile → Option ObjectBody) : Prop :=
  manifest.files.map Prod.fst = exportedFilenames ∧
    ∀ file ∈ manifest.files, ∃ body, written file.1 = some body ∧ sha256 body = file.2.sha256

/-- A dataset as it is committed. -/
def ObjectStore.Whole (sha256 : ObjectBody → String) (dataset : ObjectStore) : Prop :=
  ∃ manifest, dataset.Verifies sha256 manifest ∧
    manifest.files.map Prod.fst = exportedFilenames

section Protocol

variable (input : FreezeCommunityDatasetInput Request)

def DatasetRecord.Guarantees (record : DatasetRecord) {α : Type} :
    FreezeOperation Request α → Prop
  | .putObject .manifest body => ∃ manifest, body = .manifest manifest ∧
      manifest.Describes input.sha256 record.written
  | .deleteObjects keys => ∀ key ∈ keys, key.isSegment = true
  | _ => True

def DatasetRecord.Counts (record : DatasetRecord) {α : Type} :
    FreezeOperation Request α → α → Prop
  | .getObject key, reply => ∀ number dataset, record.entered = some (number, some dataset) →
      key.isDataset = true → reply = dataset.get key
  | .listStagingSegments, reply => ∀ key ∈ reply, key.isSegment = true
  | _, _ => True

def DatasetRecord.after (record : DatasetRecord) {α : Type} :
    FreezeOperation Request α → DatasetRecord
  | .putObject (.file filename) body =>
      { record with written := Function.update record.written filename (some body) }
  | _ => record

def datasetProtocol : Protocol (DatasetOperation Request) DatasetRecord where
  guarantees record operation := match operation with
    | .enter => record.entered = none
    | .perform number operation =>
        record.entered.map Prod.fst = some number ∧ record.Guarantees input operation
  counts record operation reply := match operation, reply with
    | .enter, reply => ∀ dataset ∈ reply.2, ObjectStore.Whole input.sha256 dataset
    | .perform _ operation, reply => record.Counts operation reply
  record record operation reply := match operation, reply with
    | .enter, reply => { record with entered := some reply }
    | .perform _ operation, _ => record.after operation

/-- The protocol of a task with a number. -/
def taskProtocol (number : Nat) : Protocol (FreezeOperation Request) DatasetRecord :=
  (datasetProtocol input).inside (.perform number)

/-- A task ends with what it reads of the dataset that was committed before it. -/
def EndsReading (record : DatasetRecord) (result : DatasetResult) : Prop :=
  ∀ dataset ∈ result.before, (∃ number, record.entered = some (number, some dataset)) ∧
    result.outcome.Reads input dataset

end Protocol

/-! ## Before the export -/

/-- Neither a file nor the manifest is put, and nothing is deleted. -/
def FreezeOperation.Neutral {α : Type} : FreezeOperation Request α → Prop
  | .putObject (.file _) _ | .putObject .manifest _ | .deleteObjects _ => False
  | _ => True

/-- Nothing but rows is stored. -/
abbrev OnlyStages {ρ : Type} (program : FreezeProgram Request ρ) : Prop :=
  program.Uses FreezeOperation.Neutral

section Uses

variable {input : FreezeCommunityDatasetInput Request} {resourceId : String}
  {checkpoint : CommunityFetchCheckpoint}

theorem verifyFiles_uses (sha256 : ObjectBody → String) (files : List (DatasetFile × FileMeta)) :
    OnlyStages (verifyFiles sha256 files : FreezeProgram Request _) := by
  induction files with
  | nil => trivial
  | cons file rest ih =>
      rw [verifyFiles]
      apply Program.uses_perform_bind trivial
      intro found
      split
      · trivial
      · split
        · trivial
        · exact ih

theorem readCommittedManifest_uses (sha256 : ObjectBody → String) :
    OnlyStages (readCommittedManifest sha256 : FreezeProgram Request _) := by
  rw [readCommittedManifest]
  apply Program.uses_perform_bind trivial
  intro found
  split
  · trivial
  · apply Program.uses_bind (verifyFiles_uses sha256 _)
    intro result
    cases result <;> trivial
  · trivial

theorem flushSegment_uses (resource : ResourceProgress) (buffered : List CommunityActivityRecord)
    (cursor : Option String) :
    OnlyStages (flushSegment resourceId resource buffered cursor : FreezeProgram Request _) := by
  rw [flushSegment]
  split
  · trivial
  · exact ⟨trivial, fun _ => trivial⟩

theorem stagePage_uses (resource : ResourceProgress) (buffered : List CommunityActivityRecord)
    (batch : CommunityRecordBatch) :
    OnlyStages (stagePage resourceId resource buffered batch : FreezeProgram Request _) := by
  rw [stagePage]
  split
  · exact Program.uses_bind (flushSegment_uses _ _ _) fun _ => trivial
  · split <;> trivial

theorem crawlPages_uses (crawl : Crawl Request) (resource : ResourceProgress)
    (buffered : List CommunityActivityRecord) :
    OnlyStages (crawlPages resourceId checkpoint crawl resource buffered) := by
  induction crawl generalizing resource buffered with
  | done result =>
      cases result with
      | error error => trivial
      | ok coverage =>
          rw [crawlPages]
          apply Program.uses_bind (flushSegment_uses _ _ _)
          exact fun _ => ⟨trivial, fun _ => trivial⟩
  | call operation next ih =>
      cases operation with
      | request request => exact ⟨trivial, fun reply => ih reply _ _⟩
      | yield batch =>
          rw [crawlPages]
          apply Program.uses_bind (stagePage_uses _ _ _)
          exact fun _ => ⟨trivial, fun _ => ih () _ _⟩

theorem crawlResources_uses (resourceIds : List String) :
    OnlyStages (crawlResources input resourceIds checkpoint) := by
  induction resourceIds generalizing checkpoint with
  | nil => trivial
  | cons resourceId rest ih =>
      rw [crawlResources]
      apply Program.uses_bind
      · rw [crawlResource]
        split
        · trivial
        · exact crawlPages_uses _ _ _
      · intro result
        cases result with
        | error error => trivial
        | ok crawled => exact ih

theorem downloadSegments_uses (keys : List ObjectKey) :
    OnlyStages (downloadSegments checkpoint keys : FreezeProgram Request _) := by
  induction keys with
  | nil => trivial
  | cons key rest ih =>
      rw [downloadSegments]
      apply Program.uses_perform_bind trivial
      intro found
      split
      · trivial
      · apply Program.uses_perform_bind trivial
        intro _
        apply Program.uses_bind ih
        intro result
        cases result <;> trivial
      · trivial

theorem downloadFiles_uses (sha256 : ObjectBody → String) (manifest : CommunityDatasetManifest)
    (filenames : List DatasetFile) :
    OnlyStages (downloadFiles sha256 manifest filenames : FreezeProgram Request _) := by
  induction filenames with
  | nil => trivial
  | cons filename rest ih =>
      rw [downloadFiles]
      apply Program.uses_perform_bind trivial
      intro found
      split
      · trivial
      · split
        · trivial
        · apply Program.uses_bind ih
          intro result
          cases result <;> trivial

theorem downloadCommunityDataset_uses (sha256 : ObjectBody → String) :
    OnlyStages (downloadCommunityDataset sha256 : FreezeProgram Request _) := by
  rw [downloadCommunityDataset]
  apply Program.uses_perform_bind trivial
  intro found
  split
  · trivial
  · split
    · trivial
    · apply Program.uses_bind (downloadFiles_uses _ _ _)
      intro result
      cases result <;> trivial
  · trivial

end Uses

/-! ## Attempts keep the protocol -/

section Attempt

variable {input : FreezeCommunityDatasetInput Request} {number : Nat} {record : DatasetRecord}

theorem FreezeOperation.Neutral.guarantees {α : Type} {operation : FreezeOperation Request α}
    (neutral : operation.Neutral) : record.Guarantees input operation := by
  cases operation with
  | putObject key body =>
      cases key with
      | file filename => exact neutral.elim
      | manifest => exact neutral.elim
      | segment resourceId index => trivial
  | deleteObjects keys => exact neutral.elim
  | request | heartbeat | getObject | listStagingSegments | fetchCohort | liveStats => trivial

theorem FreezeOperation.Neutral.after {α : Type} {operation : FreezeOperation Request α}
    (neutral : operation.Neutral) : record.after operation = record := by
  cases operation with
  | putObject key body =>
      cases key with
      | file filename => exact neutral.elim
      | manifest => rfl
      | segment resourceId index => rfl
  | deleteObjects | request | heartbeat | getObject | listStagingSegments | fetchCohort
  | liveStats => rfl

theorem OnlyStages.obeys {ρ : Type} {program : FreezeProgram Request ρ}
    (stages : OnlyStages program) (entered : record.entered.map Prod.fst = some number) :
    program.Obeys (taskProtocol input number) (fun after _ => after = record) record := by
  apply Program.obeys_of_uses _ _ stages
  · exact fun operation neutral => ⟨entered, neutral.guarantees⟩
  · exact fun operation _ neutral => neutral.after

theorem clearStagingSegments_obeys (entered : record.entered.map Prod.fst = some number) :
    clearStagingSegments.Obeys (taskProtocol input number) (fun after _ => after = record)
      record := by
  rw [clearStagingSegments]
  refine Program.obeys_perform_bind ⟨entered, trivial⟩ ?_
  intro keys counted
  split
  · exact Program.obeys_pure rfl
  · exact Program.obeys_perform ⟨entered, counted⟩ fun _ _ => rfl

/-- The manifest has the hashes of the files that are put before it. -/
theorem manifestOf_describes (activities : List CommunityActivityRecord)
    (coverages : List CommunityResourceCoverage) (cohort : List CommunityCohortRow)
    (fetchStats : CommunityFetchStats) (written : DatasetFile → Option ObjectBody) :
    (manifestOf input activities coverages cohort fetchStats).Describes input.sha256
      (Function.update (Function.update (Function.update written .activities
        (some (.activities activities))) .coverage (some (.coverage coverages))) .cohort
        (some (.cohort cohort))) := by
  refine ⟨rfl, ?_⟩
  intro file member
  simp only [manifestOf, List.mem_cons, List.not_mem_nil, or_false] at member
  rcases member with same | same | same
  · rw [same]
    exact ⟨.activities activities, by simp, rfl⟩
  · rw [same]
    exact ⟨.coverage coverages, by simp, rfl⟩
  · rw [same]
    exact ⟨.cohort cohort, by simp, rfl⟩

theorem putDataset_obeys (activities : List CommunityActivityRecord)
    (coverages : List CommunityResourceCoverage) (cohort : List CommunityCohortRow)
    (entered : record.entered.map Prod.fst = some number) :
    (putDataset input activities coverages cohort).Obeys (taskProtocol input number)
      (fun after _ => after.entered = record.entered) record := by
  refine ⟨⟨entered, trivial⟩, fun _ _ => ⟨⟨entered, trivial⟩, fun _ _ => ⟨⟨entered, trivial⟩,
    fun _ _ => ⟨⟨entered, trivial⟩, fun fetchStats _ => ⟨⟨entered, ?_⟩, fun _ _ => rfl⟩⟩⟩⟩⟩
  exact ⟨manifestOf input activities coverages cohort fetchStats, rfl,
    manifestOf_describes activities coverages cohort fetchStats record.written⟩

theorem exportAndCommit_obeys (checkpoint : CommunityFetchCheckpoint)
    (coverages : List CommunityResourceCoverage) (cohort : List CommunityCohortRow)
    (entered : record.entered.map Prod.fst = some number) :
    (exportAndCommit input checkpoint coverages cohort).Obeys (taskProtocol input number)
      (fun after _ => after.entered = record.entered) record := by
  rw [exportAndCommit]
  apply Program.obeys_bind ((downloadSegments_uses _).obeys entered)
  intro same result unchanged
  cases unchanged
  cases result with
  | error error => exact Program.obeys_pure rfl
  | ok staged =>
      refine Program.obeys_perform_bind ⟨entered, trivial⟩ ?_
      intro _ _
      apply Program.obeys_bind (putDataset_obeys _ _ _ entered)
      intro after manifest kept
      apply Program.obeys_bind (clearStagingSegments_obeys (by rw [kept]; exact entered))
      intro same _ unchanged
      cases unchanged
      exact kept

theorem commitCrawl_obeys (checkpoint : CommunityFetchCheckpoint)
    (entered : record.entered.map Prod.fst = some number) :
    (commitCrawl input checkpoint).Obeys (taskProtocol input number)
      (fun after _ => after.entered = record.entered) record := by
  rw [commitCrawl]
  split
  · exact Program.obeys_pure rfl
  · refine Program.obeys_perform_bind ⟨entered, trivial⟩ ?_
    intro cohort _
    refine Program.obeys_perform_bind ⟨entered, trivial⟩ ?_
    intro _ _
    apply Program.obeys_bind (exportAndCommit_obeys checkpoint _ cohort entered)
    intro after result kept
    cases result <;> exact kept

end Attempt

/-! ## What is read of a committed dataset -/

section Read

variable {input : FreezeCommunityDatasetInput Request} {number : Nat} {record : DatasetRecord}
  {dataset : ObjectStore} {manifest : CommunityDatasetManifest}

/-- A read of an object of the dataset, with what follows it. -/
theorem getObject_obeys {ρ : Type} {ends : DatasetRecord → ρ → Prop} {key : ObjectKey}
    {next : Option ObjectBody → FreezeProgram Request ρ}
    (entered : record.entered = some (number, some dataset)) (own : key.isDataset = true)
    (obeys : (next (dataset.get key)).Obeys (taskProtocol input number) ends record) :
    (.perform (.getObject key) >>= next : FreezeProgram Request ρ).Obeys
      (taskProtocol input number) ends record := by
  have known : record.entered.map Prod.fst = some number := by
    rw [entered]
    rfl
  refine Program.obeys_perform_bind ⟨known, trivial⟩ ?_
  intro reply counted
  rw [counted number dataset entered own]
  exact obeys

theorem verifyFiles_reads {files : List (DatasetFile × FileMeta)}
    (entered : record.entered = some (number, some dataset))
    (verified : ∀ file ∈ files, ∃ body, dataset.get (.file file.1) = some body ∧
      input.sha256 body = file.2.sha256) :
    (verifyFiles input.sha256 files).Obeys (taskProtocol input number)
      (fun after result => after = record ∧ result = .ok ()) record := by
  induction files with
  | nil => exact Program.obeys_pure ⟨rfl, rfl⟩
  | cons file rest ih =>
      rcases verified file List.mem_cons_self with ⟨body, stored, hash⟩
      rw [verifyFiles]
      apply getObject_obeys entered rfl
      rw [stored]
      change Program.Obeys _ _ (if _ then _ else _) _
      rw [if_neg (not_not.mpr hash)]
      exact ih fun other member => verified other (List.mem_cons_of_mem _ member)

theorem readCommittedManifest_reads (entered : record.entered = some (number, some dataset))
    (verifies : dataset.Verifies input.sha256 manifest) :
    (readCommittedManifest input.sha256).Obeys (taskProtocol input number)
      (fun after result => after = record ∧ result = .ok (some manifest)) record := by
  rw [readCommittedManifest]
  apply getObject_obeys entered rfl
  rw [verifies.1]
  apply Program.obeys_bind (verifyFiles_reads entered verifies.2)
  intro after result ⟨same, verified⟩
  cases verified
  exact Program.obeys_pure ⟨same, rfl⟩

/-- A manifest with the exported files has all that are downloaded. -/
theorem CommunityDatasetManifest.file?_eq_some
    (exported : manifest.files.map Prod.fst = exportedFilenames) (filename : DatasetFile) :
    ∃ fileMeta, manifest.file? filename = some fileMeta ∧
      (filename, fileMeta) ∈ manifest.files := by
  have named : filename ∈ manifest.files.map Prod.fst := by
    rw [exported]
    cases filename <;> decide
  rcases List.mem_map.mp named with ⟨file, member, same⟩
  have found : ((manifest.files.lookup filename).isSome) = true := by
    rw [List.lookup_isSome_iff]
    exact ⟨file, member, by rw [same, beq_self_eq_true]⟩
  rcases Option.isSome_iff_exists.mp found with ⟨fileMeta, looked⟩
  rcases List.lookup_eq_some_iff.mp looked with ⟨before, after, split, _⟩
  refine ⟨fileMeta, looked, ?_⟩
  rw [split]
  exact List.mem_append_right _ List.mem_cons_self

theorem downloadFiles_reads (filenames : List DatasetFile)
    (entered : record.entered = some (number, some dataset))
    (verifies : dataset.Verifies input.sha256 manifest)
    (exported : manifest.files.map Prod.fst = exportedFilenames) :
    (downloadFiles input.sha256 manifest filenames).Obeys (taskProtocol input number)
      (fun after result => after = record ∧ ∃ paths, result = .ok paths ∧
        paths.map Prod.fst = filenames ∧
        ∀ path ∈ paths, dataset.get (.file path.1) = some path.2) record := by
  induction filenames with
  | nil => exact Program.obeys_pure ⟨rfl, [], rfl, rfl, fun _ absent => absurd absent List.not_mem_nil⟩
  | cons filename rest ih =>
      rcases CommunityDatasetManifest.file?_eq_some exported filename with ⟨fileMeta, found, member⟩
      rcases verifies.2 _ member with ⟨body, stored, hash⟩
      rw [downloadFiles]
      apply getObject_obeys entered rfl
      have recorded : some (input.sha256 body) = (some fileMeta).map (·.sha256) :=
        congrArg some hash
      rw [stored, found]
      change Program.Obeys _ _ (if _ then _ else _) _
      rw [if_neg (not_not.mpr recorded)]
      apply Program.obeys_bind ih
      intro after result ⟨same, paths, ended, names, bodies⟩
      rw [ended]
      refine Program.obeys_pure ⟨same, (filename, body) :: paths, rfl, ?_, ?_⟩
      · rw [List.map_cons, names]
      · intro path here
        rcases List.mem_cons.mp here with first | later
        · rw [first]
          exact stored
        · exact bodies path later

theorem downloadCommunityDataset_reads (entered : record.entered = some (number, some dataset))
    (verifies : dataset.Verifies input.sha256 manifest)
    (exported : manifest.files.map Prod.fst = exportedFilenames) :
    (downloadCommunityDataset input.sha256).Obeys (taskProtocol input number)
      (fun after result => after = record ∧
        (DatasetOutcome.downloaded result).Reads input dataset) record := by
  have named : datasetFilenames.find? (fun filename => (manifest.file? filename).isNone) =
      none := by
    rw [List.find?_eq_none]
    intro filename _
    rcases CommunityDatasetManifest.file?_eq_some exported filename with ⟨fileMeta, found, _⟩
    rw [found]
    exact Bool.false_ne_true
  rw [downloadCommunityDataset]
  apply getObject_obeys entered rfl
  rw [verifies.1]
  dsimp only
  rw [named]
  apply Program.obeys_bind (downloadFiles_reads datasetFilenames entered verifies exported)
  intro after result ⟨same, paths, ended, names, bodies⟩
  rw [ended]
  exact Program.obeys_pure ⟨same, ⟨manifest, paths⟩, rfl, verifies.1, names, bodies⟩

end Read

/-! ## Tasks keep the protocol -/

section Task

variable {input : FreezeCommunityDatasetInput Request} {number : Nat} {record : DatasetRecord}

/-- An attempt before which nothing was committed. -/
theorem freezeCommunityDataset_obeys (lastCheckpoint : Option CommunityFetchCheckpoint)
    (entered : record.entered.map Prod.fst = some number) :
    (freezeCommunityDataset input lastCheckpoint).Obeys (taskProtocol input number)
      (fun after _ => after.entered = record.entered) record := by
  rw [freezeCommunityDataset]
  split
  · exact Program.obeys_pure rfl
  · apply Program.obeys_bind ((readCommittedManifest_uses _).obeys entered)
    intro same found unchanged
    cases unchanged
    split
    · exact Program.obeys_pure rfl
    · apply Program.obeys_bind (clearStagingSegments_obeys entered)
      intro same _ unchanged
      cases unchanged
      exact Program.obeys_pure rfl
    · apply Program.obeys_bind ((crawlResources_uses _).obeys entered)
      intro same crawled unchanged
      cases unchanged
      cases crawled with
      | error error => exact Program.obeys_pure rfl
      | ok checkpoint => exact commitCrawl_obeys checkpoint entered

/-- An attempt after the dataset was committed. -/
theorem freezeCommunityDataset_reads {dataset : ObjectStore}
    {manifest : CommunityDatasetManifest} (lastCheckpoint : Option CommunityFetchCheckpoint)
    (entered : record.entered = some (number, some dataset))
    (verifies : dataset.Verifies input.sha256 manifest) :
    (freezeCommunityDataset input lastCheckpoint).Obeys (taskProtocol input number)
      (fun after result => after = record ∧
        (DatasetOutcome.frozen result).Reads input dataset) record := by
  have known : record.entered.map Prod.fst = some number := by
    rw [entered]
    rfl
  rw [freezeCommunityDataset]
  split
  · rename_i none
    exact Program.obeys_pure ⟨rfl, Or.inl none⟩
  · apply Program.obeys_bind (readCommittedManifest_reads entered verifies)
    intro same found ⟨unchanged, read⟩
    cases unchanged
    rw [read]
    apply Program.obeys_bind (clearStagingSegments_obeys known)
    intro same _ unchanged
    exact Program.obeys_pure ⟨unchanged, Or.inr ⟨manifest, verifies.1, rfl⟩⟩

theorem DatasetTask.run_obeys (task : DatasetTask) {before : Option ObjectStore}
    (entered : record.entered = some (number, before))
    (whole : ∀ dataset ∈ before, ObjectStore.Whole input.sha256 dataset) :
    (task.run input).Obeys (taskProtocol input number)
      (fun after outcome => after.entered = record.entered ∧
        ∀ dataset ∈ before, outcome.Reads input dataset) record := by
  have known : record.entered.map Prod.fst = some number := by
    rw [entered]
    rfl
  cases before with
  | none =>
      cases task with
      | freeze lastCheckpoint =>
          apply Program.obeys_bind (freezeCommunityDataset_obeys lastCheckpoint known)
          exact fun after result kept => ⟨kept, fun _ absent => (Option.not_mem_none _ absent).elim⟩
      | download =>
          apply Program.obeys_bind ((downloadCommunityDataset_uses _).obeys known)
          intro after result unchanged
          rw [unchanged]
          exact ⟨rfl, fun _ absent => (Option.not_mem_none _ absent).elim⟩
  | some dataset =>
      rcases whole dataset rfl with ⟨manifest, verifies, exported⟩
      cases task with
      | freeze lastCheckpoint =>
          apply Program.obeys_bind (freezeCommunityDataset_reads lastCheckpoint entered verifies)
          intro after result ⟨unchanged, reads⟩
          rw [unchanged]
          exact ⟨rfl, fun _ same => Option.mem_some_iff.mp same ▸ reads⟩
      | download =>
          apply Program.obeys_bind (downloadCommunityDataset_reads entered verifies exported)
          intro after result ⟨unchanged, reads⟩
          rw [unchanged]
          exact ⟨rfl, fun _ same => Option.mem_some_iff.mp same ▸ reads⟩

theorem DatasetTask.program_obeys (task : DatasetTask) :
    (task.program input).Obeys (datasetProtocol input) (EndsReading input) {} := by
  rw [DatasetTask.program]
  refine Program.obeys_perform_bind rfl ?_
  intro (number, before) whole
  apply Program.obeys_bind (Program.obeys_lift (task.run_obeys rfl whole))
  intro after outcome ⟨kept, reads⟩ dataset member
  refine ⟨⟨number, ?_⟩, reads dataset member⟩
  rw [kept, ← Option.mem_def.mp member]
  rfl

end Task

end Reputo.Community

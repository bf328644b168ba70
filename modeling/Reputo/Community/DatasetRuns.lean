import Reputo.Community.CommittedDataset

/-!
# Runs on a shared dataset

The store goes with what the tasks have recorded: the bytes that a file holds are those of
every attempt that counts as its writer.
-/

namespace Reputo.Community

open Reputo.Library

variable {Request : Type → Type}

def DatasetRecord.number (record : DatasetRecord) : Option Nat := record.entered.map Prod.fst

section Linked

variable (input : FreezeCommunityDatasetInput Request)

/-- The store and the records of the tasks on it. -/
structure Linked (shared : SharedDataset Request) (records : List DatasetRecord) : Prop where
  committed : shared.committed = none ↔ shared.world.objects.get .manifest = none
  unchanged : ∀ dataset ∈ shared.committed, ∀ key : ObjectKey, key.isDataset = true →
    shared.world.objects.get key = dataset.get key
  whole : ∀ dataset ∈ shared.committed, ObjectStore.Whole input.sha256 dataset
  numbers : ∀ position number, labelAt DatasetRecord.number records position = some number →
    number < shared.entered
  distinct : ∀ position other number,
    labelAt DatasetRecord.number records position = some number →
    labelAt DatasetRecord.number records other = some number → position = other
  writers : ∀ filename, ∀ number ∈ shared.wrote filename, number < shared.entered
  bytes : ∀ (position : Nat) record number, records[position]? = some record →
    record.number = some number → ∀ filename, number ∈ shared.wrote filename →
      ∃ body, record.written filename = some body ∧
        shared.world.objects.get (.file filename) = some body
  before : ∀ record ∈ records, ∀ number dataset,
    record.entered = some (number, some dataset) → shared.committed = some dataset

variable {input} {shared after : SharedDataset Request} {records : List DatasetRecord}
  {record : DatasetRecord} {position number : Nat}

/-- Only the objects of the dataset matter. -/
theorem Linked.frame (linked : Linked input shared records)
    (objects : ∀ key : ObjectKey, key.isDataset = true →
      after.world.objects.get key = shared.world.objects.get key)
    (entered : after.entered = shared.entered) (wrote : after.wrote = shared.wrote)
    (committed : after.committed = shared.committed) : Linked input after records := by
  constructor
  · rw [committed, objects .manifest rfl]
    exact linked.committed
  · intro dataset member key own
    rw [committed] at member
    rw [objects key own]
    exact linked.unchanged dataset member key own
  · rw [committed]
    exact linked.whole
  · rw [entered]
    exact linked.numbers
  · exact linked.distinct
  · rw [wrote, entered]
    exact linked.writers
  · intro position record number located own filename member
    rw [wrote] at member
    rw [objects (.file filename) rfl]
    exact linked.bytes position record number located own filename member
  · rw [committed]
    exact linked.before

/-- A task begins. -/
theorem Linked.begin (linked : Linked input shared records) :
    Linked input shared (records ++ [({} : DatasetRecord)]) := by
  have same : ∀ position, labelAt DatasetRecord.number (records ++ [({} : DatasetRecord)]) position =
      labelAt DatasetRecord.number records position := labelAt_append rfl
  constructor
  · exact linked.committed
  · exact linked.unchanged
  · exact linked.whole
  · simp only [same]
    exact linked.numbers
  · simp only [same]
    exact linked.distinct
  · exact linked.writers
  · intro position record number located own
    rcases List.mem_append.mp (List.mem_of_getElem? located) with earlier | last
    · rw [List.getElem?_append] at located
      split at located
      · exact linked.bytes position record number located own
      · rw [List.mem_singleton.mp (List.mem_of_getElem? located)] at own
        cases own
    · rw [List.mem_singleton.mp last] at own
      cases own
  · intro record member number dataset entered
    rcases List.mem_append.mp member with earlier | last
    · exact linked.before record earlier number dataset entered
    · rw [List.mem_singleton.mp last] at entered
      cases entered

/-- A task is given its number. -/
theorem Linked.enter (linked : Linked input shared records)
    (located : records[position]? = some record) :
    Linked input { shared with entered := shared.entered + 1 } (records.set position
      { record with entered := some (shared.entered, shared.committed) }) := by
  constructor
  · exact linked.committed
  · exact linked.unchanged
  · exact linked.whole
  · intro other number labelled
    rw [labelAt_set located] at labelled
    split at labelled
    · cases labelled
      exact Nat.lt_succ_self shared.entered
    · exact Nat.lt_succ_of_lt (linked.numbers other number labelled)
  · intro first second number firstLabel secondLabel
    rw [labelAt_set located] at firstLabel secondLabel
    split at firstLabel
    · split at secondLabel
      · rename_i here there
        rw [here, there]
      · cases firstLabel
        exact absurd (linked.numbers _ _ secondLabel) (lt_irrefl _)
    · split at secondLabel
      · cases secondLabel
        exact absurd (linked.numbers _ _ firstLabel) (lt_irrefl _)
      · exact linked.distinct first second number firstLabel secondLabel
  · exact fun filename number member => Nat.lt_succ_of_lt (linked.writers filename number member)
  · intro other record' number found own filename member
    rw [List.getElem?_set] at found
    split at found
    · split at found
      · cases found
        cases own
        exact absurd (linked.writers filename _ member) (lt_irrefl _)
      · cases found
    · exact linked.bytes other record' number found own filename member
  · intro other member number dataset entered
    rcases List.mem_or_eq_of_mem_set member with earlier | here
    · exact linked.before other earlier number dataset entered
    · rw [here] at entered
      exact congrArg Prod.snd (Option.some.inj entered)

/-! ## Puts -/

/-- A put of the bytes that are stored changes nothing. -/
theorem ObjectStore.get_put_same {objects : ObjectStore} {key other : ObjectKey}
    {body : ObjectBody} (stored : objects.get key = some body) :
    (objects.put key body).get other = objects.get other := by
  by_cases same : other = key
  · rw [same, get_put_self, stored]
  · rw [get_put_of_ne same]

/-- Those whose bytes a file holds after a put: who put it, and who had put the same. -/
theorem mem_wrote_putFile {filename other : DatasetFile} {body : ObjectBody} {writer : Nat}
    (member : writer ∈ (handleDataset (.perform number (.putObject (.file filename) body))
      shared).2.wrote other) :
    other = filename ∧ writer = number ∨ writer ∈ shared.wrote other ∧
      (other = filename → shared.world.objects.get (.file filename) = some body) := by
  change writer ∈ Function.update shared.wrote filename (number :: if
    shared.world.objects.get (.file filename) = some body then shared.wrote filename else [])
    other at member
  by_cases same : other = filename
  · rw [same, Function.update_self] at member
    rcases List.mem_cons.mp member with own | earlier
    · exact Or.inl ⟨same, own⟩
    · split at earlier
      · rename_i stored
        rw [same]
        exact Or.inr ⟨earlier, fun _ => stored⟩
      · exact absurd earlier List.not_mem_nil
  · rw [Function.update_of_ne same] at member
    exact Or.inr ⟨member, fun equal => absurd equal same⟩

/-- Where a dataset is committed, a file is put only with its own bytes. -/
theorem Linked.putFile {filename : DatasetFile} {body : ObjectBody}
    (linked : Linked input shared records)
    (located : records[position]? = some record) (own : record.number = some number)
    (apart : shared.world.objects.get .manifest = none ∨
      shared.world.objects.get (.file filename) = some body) :
    Linked input (handleDataset (.perform number (.putObject (.file filename) body)) shared).2
      (records.set position
        { record with written := Function.update record.written filename (some body) }) := by
  have labels : ∀ other, labelAt DatasetRecord.number (records.set position
      { record with written := Function.update record.written filename (some body) }) other =
        labelAt DatasetRecord.number records other := labelAt_set_same located rfl
  have numbered : labelAt DatasetRecord.number records position = some number := by
    rw [labelAt_self located, own]
  have manifest : (shared.world.objects.put (.file filename) body).get .manifest =
      shared.world.objects.get .manifest :=
    ObjectStore.get_put_of_ne (by intro same; cases same)
  constructor
  · exact linked.committed.trans (by rw [← manifest]; rfl)
  · intro dataset member key inDataset
    have committed : shared.committed = some dataset := member
    have stored : shared.world.objects.get (.file filename) = some body := by
      apply apart.resolve_left
      intro absent
      rw [linked.committed.mpr absent] at committed
      cases committed
    exact (ObjectStore.get_put_same stored).trans (linked.unchanged dataset member key inDataset)
  · exact linked.whole
  · simp only [labels]
    exact linked.numbers
  · simp only [labels]
    exact linked.distinct
  · intro other writer member
    rcases mem_wrote_putFile member with ⟨_, same⟩ | ⟨earlier, _⟩
    · rw [same]
      exact linked.numbers position number numbered
    · exact linked.writers other writer earlier
  · intro place other writer found owned file member
    rw [List.getElem?_set] at found
    split at found
    · split at found
      · cases found
        have owner : record.number = some writer := owned
        rcases mem_wrote_putFile member with ⟨same, _⟩ | ⟨earlier, _⟩
        · rw [same]
          exact ⟨body, Function.update_self .., ObjectStore.get_put_self⟩
        · by_cases same : file = filename
          · rw [same]
            exact ⟨body, Function.update_self .., ObjectStore.get_put_self⟩
          · rcases linked.bytes position record writer located owner file earlier with
              ⟨bytes, written, held⟩
            refine ⟨bytes, ?_, ?_⟩
            · exact (Function.update_of_ne same ..).trans written
            · exact (ObjectStore.get_put_of_ne fun equal => same (by cases equal; rfl)).trans held
      · cases found
    · rename_i elsewhere
      rcases mem_wrote_putFile member with ⟨_, same⟩ | ⟨earlier, stored⟩
      · have labelled : labelAt DatasetRecord.number records place = some number := by
          rw [labelAt_self found, owned, same]
        exact absurd (linked.distinct position place number numbered labelled) elsewhere
      · rcases linked.bytes place other writer found owned file earlier with ⟨bytes, written, held⟩
        refine ⟨bytes, written, ?_⟩
        by_cases same : file = filename
        · exact (ObjectStore.get_put_same (stored same)).trans held
        · exact (ObjectStore.get_put_of_ne fun equal => same (by cases equal; rfl)).trans held
  · intro other member number' dataset entered
    rcases List.mem_or_eq_of_mem_set member with earlier | here
    · exact linked.before other earlier number' dataset entered
    · rw [here] at entered
      exact linked.before record (List.mem_of_getElem? located) number' dataset entered

/-- A first manifest describes the files that are stored, as they are those of its attempt;
a later one is the same. -/
theorem Linked.putManifest {body : ObjectBody} {manifest : CommunityDatasetManifest}
    (linked : Linked input shared records)
    (located : records[position]? = some record) (own : record.number = some number)
    (describes : body = .manifest manifest ∧ manifest.Describes input.sha256 record.written)
    (apart : (shared.world.objects.get .manifest = none ∧
        ∀ filename ∈ datasetFilenames, number ∈ shared.wrote filename) ∨
      shared.world.objects.get .manifest = some body) :
    Linked input (handleDataset (.perform number (.putObject .manifest body)) shared).2 records := by
  rcases apart with ⟨absent, writer⟩ | stored
  · have uncommitted : shared.committed = none := linked.committed.mpr absent
    have first : (handleDataset (.perform number (.putObject .manifest body)) shared).2.committed =
        some (shared.world.objects.put .manifest body) := by
      change shared.committed.or _ = _
      rw [uncommitted]
      rfl
    have files : ∀ filename, (shared.world.objects.put .manifest body).get (.file filename) =
        shared.world.objects.get (.file filename) :=
      fun filename => ObjectStore.get_put_of_ne (by intro same; cases same)
    constructor
    · rw [first]
      change _ ↔ (shared.world.objects.put .manifest body).get .manifest = none
      rw [ObjectStore.get_put_self]
      simp
    · intro dataset member key _
      rw [first] at member
      cases member
      rfl
    · intro dataset member
      rw [first] at member
      cases member
      rcases describes with ⟨same, exported, described⟩
      refine ⟨manifest, ⟨?_, ?_⟩, exported⟩
      · rw [ObjectStore.get_put_self, same]
      · intro file inManifest
        rcases described file inManifest with ⟨bytes, written, hash⟩
        have named : file.1 ∈ datasetFilenames := by
          cases file.1 <;> decide
        rcases linked.bytes position record number located own file.1 (writer file.1 named) with
          ⟨held, wrote, stored⟩
        rw [written] at wrote
        cases wrote
        exact ⟨bytes, (files file.1).trans stored, hash⟩
    · exact linked.numbers
    · exact linked.distinct
    · exact linked.writers
    · intro place other writer found owned filename member
      rcases linked.bytes place other writer found owned filename member with
        ⟨bytes, written, held⟩
      exact ⟨bytes, written, (files filename).trans held⟩
    · intro other member number' dataset entered
      rw [linked.before other member number' dataset entered] at uncommitted
      cases uncommitted
  · have committed : (handleDataset (.perform number (.putObject .manifest body))
        shared).2.committed = shared.committed := by
      change shared.committed.or _ = _
      cases earlier : shared.committed with
      | none =>
          rw [linked.committed.mp earlier] at stored
          cases stored
      | some dataset => rfl
    exact linked.frame (fun key _ => ObjectStore.get_put_same stored) rfl rfl committed

/-- Segments come and go beside the dataset. -/
theorem get_delete_staging {objects : ObjectStore} {keys : List ObjectKey} {key : ObjectKey}
    (segments : ∀ key ∈ keys, key.isSegment = true) (own : key.isDataset = true) :
    (objects.delete keys).get key = objects.get key := by
  apply ObjectStore.get_delete
  intro member
  have segment := segments key member
  cases key with
  | file | manifest => cases segment
  | segment => cases own

/-- One operation of a task. -/
theorem Linked.perform {α : Type} {operation : FreezeOperation Request α}
    (linked : Linked input shared records) (located : records[position]? = some record)
    (own : record.number = some number) (guaranteed : record.Guarantees input operation)
    (apart : WritesApart (.perform number operation) shared) :
    Linked input (handleDataset (.perform number operation) shared).2
      (records.set position (record.after operation)) := by
  have unchanged : records.set position record = records := by
    rcases List.getElem?_eq_some_iff.mp located with ⟨inside, same⟩
    rw [← same, List.set_getElem_self]
  cases operation with
  | putObject key body =>
      cases key with
      | file filename => exact linked.putFile located own apart
      | manifest =>
          rcases guaranteed with ⟨manifest, describes⟩
          change Linked input _ (records.set position record)
          rw [unchanged]
          exact linked.putManifest located own describes apart
      | segment resourceId index =>
          change Linked input _ (records.set position record)
          rw [unchanged]
          refine linked.frame ?_ rfl rfl rfl
          intro key dataset
          exact ObjectStore.get_put_of_ne (by intro same; cases same; cases dataset)
  | deleteObjects keys =>
      change Linked input _ (records.set position record)
      rw [unchanged]
      exact linked.frame (fun key dataset => get_delete_staging guaranteed dataset) rfl rfl rfl
  | request | heartbeat | getObject | listStagingSegments | fetchCohort | liveStats =>
      change Linked input _ (records.set position record)
      rw [unchanged]
      exact linked.frame (fun _ _ => rfl) rfl rfl rfl

/-- The replies are as a task counts on. -/
theorem Linked.counts {α : Type} {operation : FreezeOperation Request α}
    (linked : Linked input shared records) (located : records[position]? = some record) :
    record.Counts operation (handleFreeze operation shared.world).1 := by
  cases operation with
  | getObject key =>
      intro number dataset entered own
      have committed := linked.before record (List.mem_of_getElem? located) number dataset entered
      exact linked.unchanged dataset committed key own
  | listStagingSegments => exact fun key => ObjectStore.isSegment_of_mem_stagingKeys
  | request | heartbeat | putObject | deleteObjects | fetchCohort | liveStats => trivial

end Linked

/-! ## Runs -/

section Runs

variable {input : FreezeCommunityDatasetInput Request} {pool : DatasetPool Request}

/-- Every task keeps the protocol, and the store goes with what they record. -/
theorem datasetRecords_of_reachable
    (reachable : (datasetSystem input).Reachable
      (fun before action => before.Meets WritesApart action) pool) :
    ∃ stages : List (Program (DatasetOperation Request) DatasetResult × DatasetRecord),
      pool.running = stages.map Prod.fst ∧
      (∀ stage ∈ stages, stage.1.Obeys (datasetProtocol input) (EndsReading input) stage.2) ∧
      Linked input pool.store (stages.map Prod.snd) := by
  refine Pool.protocol_invariant (datasetProtocol input) (EndsReading input) {} (Linked input)
    ?_ (fun task => task.program_obeys) ?_ ?_ ?_ reachable
  · intro shared ⟨empty, entered, wrote, committed⟩
    constructor
    · rw [committed, empty]
      exact ⟨fun _ => rfl, fun _ => rfl⟩
    · rw [committed]
      exact fun dataset absent => (Option.not_mem_none _ absent).elim
    · rw [committed]
      exact fun dataset absent => (Option.not_mem_none _ absent).elim
    · intro position number labelled
      cases labelled
    · intro position other number labelled
      cases labelled
    · intro filename number member
      rw [wrote] at member
      exact absurd member List.not_mem_nil
    · intro position record number located
      cases located
    · exact fun record absent => absurd absent List.not_mem_nil
  · exact fun shared records linked => linked.begin
  · intro α operation shared records position record linked located guaranteed apart
    cases operation with
    | enter => exact ⟨linked.whole, linked.enter located⟩
    | perform number operation =>
        exact ⟨linked.counts located, linked.perform located guaranteed.1 guaranteed.2 apart⟩
  · exact fun event shared records linked => linked.frame (fun _ _ => rfl) rfl rfl rfl

/-- Where writes are kept apart, a dataset that is committed is verified, never changes
and is read by all who begin after it. -/
theorem dataset_committedForever
    (reachable : (datasetSystem input).Reachable
      (fun before action => before.Meets WritesApart action) pool) :
    CommittedForever input pool := by
  rcases datasetRecords_of_reachable reachable with ⟨stages, running, obeys, linked⟩
  constructor
  · exact linked.committed
  · exact linked.unchanged
  · intro dataset member
    rcases linked.whole dataset member with ⟨manifest, verifies, _⟩
    exact ⟨manifest, verifies⟩
  · intro result member dataset before
    rw [running] at member
    rcases List.mem_map.mp member with ⟨stage, inStages, same⟩
    have ended := obeys stage inStages
    rw [same] at ended
    rcases ended dataset before with ⟨⟨number, entered⟩, reads⟩
    exact ⟨linked.before _ (List.mem_map_of_mem inStages) number dataset entered, reads⟩

end Runs

/-! ## Two attempts with different cohorts -/

section Sample

/-- A platform that is asked nothing. -/
private inductive NoRequest : Type → Type

private def silent : ∀ {α : Type}, NoRequest α → α := nofun

private def cohortInput : FreezeCommunityDatasetInput NoRequest where
  snapshotId := "s1"
  platform := "github"
  window := ⟨0, 10⟩
  resourceIds := ["r1"]
  iterateRecords _ := pure (.ok ⟨"r1", .complete, none⟩)
  sha256 body := match body with
    | .cohort [] => "empty"
    | .cohort _ => "members"
    | _ => "rows"
  byteLength _ := 1
  duckdbVersion := "v1"

private def matched : CommunityCohortRow := ⟨"did:1", some "u1", some "1", .matched⟩

private def storeOf (cohort : List CommunityCohortRow) : SharedDataset NoRequest where
  world := ⟨.empty, [], cohort, ⟨1, 0, 0, 0, 0, 0⟩, silent⟩

private theorem reachable_storeOf (cohort : List CommunityCohortRow)
    (permitted : DatasetPool NoRequest → PoolAction DatasetTask (DatasetEvent NoRequest) → Prop) :
    (datasetSystem cohortInput).Reachable permitted ⟨storeOf cohort, []⟩ :=
  .start ⟨⟨rfl, rfl, fun _ => rfl, rfl⟩, rfl⟩

private abbrev performTasks :=
  Pool.perform handleDataset (DatasetTask.program cohortInput) DatasetEvent.happen

private def turns (position count : Nat) :
    List (PoolAction DatasetTask (DatasetEvent NoRequest)) :=
  List.replicate count (.proceed position)

private instance {α : Type} (operation : DatasetOperation NoRequest α)
    (shared : SharedDataset NoRequest) : Decidable (WritesApart operation shared) :=
  match operation with
  | .perform _ (.putObject (.file filename) body) => inferInstanceAs (Decidable
      (shared.world.objects.get .manifest = none ∨
        shared.world.objects.get (.file filename) = some body))
  | .perform number (.putObject .manifest body) => inferInstanceAs (Decidable
      ((shared.world.objects.get .manifest = none ∧
        ∀ filename ∈ datasetFilenames, number ∈ shared.wrote filename) ∨
      shared.world.objects.get .manifest = some body))
  | .enter | .perform _ (.putObject (.segment _ _) _) | .perform _ (.request _)
  | .perform _ (.heartbeat _) | .perform _ (.getObject _) | .perform _ .listStagingSegments
  | .perform _ (.deleteObjects _) | .perform _ .fetchCohort | .perform _ .liveStats =>
      isTrue trivial

/-- An attempt stops after two of its files; its retry commits, and a download follows. -/
private def retried : List (PoolAction DatasetTask (DatasetEvent NoRequest)) :=
  .start (.freeze none) :: turns 0 8 ++ .start (.freeze none) :: turns 1 12 ++
    .start .download :: turns 2 5

theorem dataset_committedForever_sample :
    (System.performAll performTasks ⟨storeOf [matched], []⟩ retried).store.committed.isSome =
        true ∧
      CommittedForever cohortInput
        (System.performAll performTasks ⟨storeOf [matched], []⟩ retried) := by
  have along : System.AllAlong performTasks (fun before action =>
      before.Meets WritesApart action ∧ True) ⟨storeOf [matched], []⟩ retried := by
    decide +kernel
  constructor
  · decide +kernel
  · exact dataset_committedForever
      (System.reachable_performAll (reachable_storeOf [matched] _) along)

/-- The second attempt has found no manifest; the first one commits, and then the second
one puts its files, with another cohort. -/
private def overtaken : List (PoolAction DatasetTask (DatasetEvent NoRequest)) :=
  [.start (.freeze none), .start (.freeze none)] ++ turns 1 2 ++ turns 0 11 ++
    .environment ⟨[matched], ⟨2, 0, 0, 0, 0, 0⟩, silent⟩ :: turns 1 7

/-- A file of the committed dataset changes then. -/
theorem late_attempt_overwrites :
    ¬ ∀ (Request : Type → Type) (input : FreezeCommunityDatasetInput Request)
      (pool : DatasetPool Request),
      (datasetSystem input).Reachable (fun _ _ => True) pool → CommittedForever input pool := by
  intro claimed
  have along : System.AllAlong performTasks (fun _ _ => True ∧ True) ⟨storeOf [], []⟩
      overtaken := by
    decide +kernel
  have reachable := System.reachable_performAll (reachable_storeOf [] fun _ _ => True) along
  have kept := (claimed NoRequest cohortInput _ reachable).unchanged
  have stored : (System.performAll performTasks ⟨storeOf [], []⟩
      overtaken).store.world.objects.get (.file .cohort) = some (.cohort [matched]) := by
    decide +kernel
  have committed : (System.performAll performTasks ⟨storeOf [], []⟩
      overtaken).store.committed.map (ObjectStore.get · (.file .cohort)) =
        some (some (.cohort [])) := by
    decide +kernel
  rcases Option.map_eq_some_iff.mp committed with ⟨dataset, first, before⟩
  have same := kept dataset first (.file .cohort) rfl
  rw [stored, before] at same
  cases same

end Sample

end Reputo.Community

import Reputo.Library.OrderedMap
import Reputo.Library.Query
import Reputo.Library.Table
import Reputo.Orchestrator.Presets

/-!
# Snapshot rows

The rows of snapshots with their outputs and publication records, the repository
that writes them, and the service in front of it, which stamps the times.  All
writers of a row go through `applyExternalUpdate`, whose transactions take place
one after another.
-/

namespace Reputo.Snapshots

open Reputo.Library Reputo.Orchestrator

variable {ν : Type}

/-! ## Statuses -/

inductive SnapshotStatus where
  | queued
  | running
  | completed
  | failed
  | cancelled
  deriving DecidableEq, Repr

def terminalSnapshotStatuses : List SnapshotStatus := [.completed, .failed, .cancelled]

def canTransition (current next : SnapshotStatus) : Bool :=
  if current = next then true
  else if current = .queued then next ≠ .completed
  else if current = .running then terminalSnapshotStatuses.contains next
  else false

/-- A terminal status admits only itself. -/
theorem canTransition_of_terminal {current next : SnapshotStatus}
    (terminal : current ∈ terminalSnapshotStatuses) :
    canTransition current next = true ↔ next = current := by
  cases current <;> cases next <;> simp_all [terminalSnapshotStatuses, canTransition]

/-! ## Rows -/

structure SnapshotTemporal where
  workflowId : Option String := none
  runId : Option String := none
  taskQueue : Option String := none
  algorithmTaskQueue : Option String := none
  deriving DecidableEq, Repr

/-- The outputs of an update; a value may be `undefined`. -/
abbrev SnapshotOutputs := OrderedMap String (Option String)

/-- The stored error.  Its fields other than the message and the timestamp are a map
from names, as the database keeps no order of them. -/
structure SnapshotError (ν : Type) where
  message : String
  timestamp : Option Nat := none
  details : String → Option (Json ν) := fun _ => none

structure SnapshotEntity (ν : Type) where
  id : String
  status : SnapshotStatus
  algorithmPresetFrozen : AlgorithmPresetFrozen ν
  temporal : Option SnapshotTemporal
  error : Option (SnapshotError ν)
  startedAt : Option Nat
  completedAt : Option Nat
  createdAt : Nat
  updatedAt : Nat

structure SnapshotOutputEntity where
  snapshotId : String
  key : String
  value : String
  deriving DecidableEq, Repr

inductive SnapshotPublicationStatus where
  | pending
  | sent
  | failed
  deriving DecidableEq, Repr

structure SnapshotPublicationCounts where
  posted : Nat
  ok : Nat
  failed : Nat
  dropped : Nat
  skipped : Nat
  deriving DecidableEq, Repr

structure SnapshotPublicationEntity where
  snapshotId : String
  algorithmKey : String
  status : SnapshotPublicationStatus
  counts : Option SnapshotPublicationCounts
  error : Option String
  deriving DecidableEq, Repr

structure SnapshotDatabase (ν : Type) where
  snapshots : Table (SnapshotEntity ν) SnapshotEntity.id
  snapshot_outputs : Table SnapshotOutputEntity fun row => (row.snapshotId, row.key)
  snapshot_publications : Table SnapshotPublicationEntity fun row =>
    (row.snapshotId, row.algorithmKey)

def SnapshotDatabase.empty : SnapshotDatabase ν := ⟨.empty, .empty, .empty⟩

/-- A row as the repository returns it. -/
structure SnapshotRow (ν : Type) extends SnapshotEntity ν where
  outputs : Option (OrderedMap String String)

def mapOutputs (outputs : List SnapshotOutputEntity) : Option (OrderedMap String String) :=
  if outputs.isEmpty then none
  else some (OrderedMap.ofPairs (outputs.map fun output => (output.key, output.value)))

def buildOutputRows (snapshotId : String) (outputs : SnapshotOutputs) :
    List SnapshotOutputEntity :=
  outputs.entries.filterMap fun (key, value) => value.map fun value => ⟨snapshotId, key, value⟩

def mapSnapshotRow (db : SnapshotDatabase ν) (entity : SnapshotEntity ν) : SnapshotRow ν :=
  { entity with
    outputs := mapOutputs (db.snapshot_outputs.rows.filter (·.snapshotId = entity.id)) }

/-- What a row holds under an output key. -/
def SnapshotRow.output (row : SnapshotRow ν) (key : String) : Option String :=
  row.outputs.bind (·.get? key)

/-! ## The repository -/

def findById (db : SnapshotDatabase ν) (id : String) : Option (SnapshotRow ν) :=
  (db.snapshots.find? id).map (mapSnapshotRow db)

/-- Deletes a row and, by cascade, what refers to it. -/
def deleteById (db : SnapshotDatabase ν) (id : String) : SnapshotDatabase ν where
  snapshots := db.snapshots.filter (·.id ≠ id)
  snapshot_outputs := db.snapshot_outputs.filter (·.snapshotId ≠ id)
  snapshot_publications := db.snapshot_publications.filter (·.snapshotId ≠ id)

structure SnapshotCreateData (ν : Type) where
  status : Option SnapshotStatus := none
  algorithmPresetFrozen : AlgorithmPresetFrozen ν
  temporal : Option SnapshotTemporal := none
  outputs : Option SnapshotOutputs := none

/-- Stores a new row under an identifier that is not in use. -/
def create (db : SnapshotDatabase ν) (now : Nat) (id : String) (createData : SnapshotCreateData ν) :
    SnapshotDatabase ν :=
  { db with
    snapshots := db.snapshots.insertOrIgnore
      { id
        status := createData.status.getD .queued
        algorithmPresetFrozen := createData.algorithmPresetFrozen
        temporal := createData.temporal
        error := none
        startedAt := none
        completedAt := none
        createdAt := now
        updatedAt := now }
    snapshot_outputs := match createData.outputs with
      | some outputs => db.snapshot_outputs.insertAllOrIgnore (buildOutputRows id outputs)
      | none => db.snapshot_outputs }

structure SnapshotApplyExternalUpdate (ν : Type) where
  status : Option SnapshotStatus := none
  startedAt : Option Nat := none
  completedAt : Option Nat := none
  temporal : Option SnapshotTemporal := none
  outputs : Option SnapshotOutputs := none
  error : Option (SnapshotError ν) := none

structure SnapshotExternalUpdateResult (ν : Type) where
  row : SnapshotRow ν
  /-- False when the update was ignored because of its status. -/
  applied : Bool

/-- The state machine rejects the update. -/
def SnapshotApplyExternalUpdate.blocked (data : SnapshotApplyExternalUpdate ν)
    (current : SnapshotStatus) : Bool :=
  data.status.any fun status => !canTransition current status

def SnapshotApplyExternalUpdate.touched (data : SnapshotApplyExternalUpdate ν) : Bool :=
  data.status.isSome || data.startedAt.isSome || data.completedAt.isSome ||
    data.temporal.isSome || data.error.isSome

/-- The row with the fields that the update provides. -/
def SnapshotApplyExternalUpdate.assign (data : SnapshotApplyExternalUpdate ν) (now : Nat)
    (entity : SnapshotEntity ν) : SnapshotEntity ν :=
  { entity with
    status := data.status.getD entity.status
    startedAt := data.startedAt.or entity.startedAt
    completedAt := data.completedAt.or entity.completedAt
    temporal := data.temporal.or entity.temporal
    error := data.error.or entity.error
    updatedAt := if data.touched then now else entity.updatedAt }

/-- Replaces all outputs of a snapshot. -/
def replaceOutputs (outputs : Table SnapshotOutputEntity fun row => (row.snapshotId, row.key))
    (id : String) : Option SnapshotOutputs →
      Table SnapshotOutputEntity fun row => (row.snapshotId, row.key)
  | none => outputs
  | some replacement =>
      (outputs.filter (·.snapshotId ≠ id)).insertAllOrIgnore (buildOutputRows id replacement)

/-- One transaction: the database after it, and what it returns. -/
def applyExternalUpdate (db : SnapshotDatabase ν) (now : Nat) (id : String)
    (data : SnapshotApplyExternalUpdate ν) :
    SnapshotDatabase ν × Option (SnapshotExternalUpdateResult ν) :=
  match db.snapshots.find? id with
  | none => (db, none)
  | some entity =>
      if data.blocked entity.status then
        (db, some { row := mapSnapshotRow db entity, applied := false })
      else
        let saved := data.assign now entity
        let after : SnapshotDatabase ν :=
          { db with
            snapshots := db.snapshots.upsert saved
            snapshot_outputs := replaceOutputs db.snapshot_outputs id data.outputs }
        (after, some { row := mapSnapshotRow after saved, applied := true })

structure UpsertSnapshotPublicationData where
  algorithmKey : String
  status : SnapshotPublicationStatus
  counts : Option SnapshotPublicationCounts := none
  error : Option String := none
  deriving DecidableEq, Repr

/-- Writes the publication record of a snapshot that exists. -/
def upsertPublication (db : SnapshotDatabase ν) (snapshotId : String)
    (data : UpsertSnapshotPublicationData) : SnapshotDatabase ν × Bool :=
  match db.snapshots.find? snapshotId with
  | none => (db, false)
  | some _ =>
      ({ db with
        snapshot_publications := db.snapshot_publications.upsert
          ⟨snapshotId, data.algorithmKey, data.status, data.counts, data.error⟩ }, true)

/-- Queued and running rows not touched since a time, oldest first. -/
def findUnsettled (db : SnapshotDatabase ν) (updatedBefore : Nat) : List (SnapshotRow ν) :=
  ((RowOrder.byKey SnapshotEntity.createdAt).orderBy (db.snapshots.rows.filter fun row =>
    [SnapshotStatus.queued, SnapshotStatus.running].contains row.status &&
      row.updatedAt < updatedBefore)).map fun row => { row with outputs := none }

/-! ## The service -/

structure UpdateError (ν : Type) where
  message : String
  details : String → Option (Json ν) := fun _ => none

structure UpdateSnapshotInput (ν : Type) where
  snapshotId : String
  status : Option SnapshotStatus := none
  temporal : Option SnapshotTemporal := none
  outputs : Option SnapshotOutputs := none
  error : Option (UpdateError ν) := none

/-- What the clock shows during one call of the service, in the order of reading. -/
structure ClockReadings where
  transition : Nat
  error : Nat
  saved : Nat
  deriving DecidableEq, Repr

/-- All readings of one instant. -/
def ClockReadings.instant (now : Nat) : ClockReadings := ⟨now, now, now⟩

/-- The update with its times. -/
def UpdateSnapshotInput.stamped (input : UpdateSnapshotInput ν) (clock : ClockReadings) :
    SnapshotApplyExternalUpdate ν where
  status := input.status
  startedAt := if input.status = some .running then some clock.transition else none
  completedAt :=
    if input.status = some .completed ∨ input.status = some .failed ∨
      input.status = some .cancelled then some clock.transition else none
  temporal := input.temporal
  outputs := input.outputs
  error := input.error.map fun error =>
    { message := error.message, timestamp := some clock.error, details := error.details }

/-- `SnapshotService.applyExternalUpdate`: an update that is blocked counts as done. -/
def serviceApplyExternalUpdate (db : SnapshotDatabase ν) (clock : ClockReadings)
    (input : UpdateSnapshotInput ν) : SnapshotDatabase ν × Option (SnapshotRow ν) :=
  let result := applyExternalUpdate db clock.saved input.snapshotId (input.stamped clock)
  (result.1, result.2.map (·.row))

/-! ## Outputs -/

section Outputs

variable {db : SnapshotDatabase ν} {entity : SnapshotEntity ν}
  {stored : Table SnapshotOutputEntity fun row => (row.snapshotId, row.key)}
  {id key value : String} {replacement : SnapshotOutputs}

theorem mapOutputs_eq_some_iff {outputs : List SnapshotOutputEntity}
    (nodup : (outputs.map (·.key)).Nodup) :
    (mapOutputs outputs).bind (·.get? key) = some value ↔
      ∃ output ∈ outputs, output.key = key ∧ output.value = value := by
  have pairs : ((outputs.map fun output => (output.key, output.value)).map Prod.fst).Nodup := by
    rwa [List.map_map]
  rw [mapOutputs]
  split
  · rename_i none
    simp [List.isEmpty_iff.mp none]
  · constructor
    · intro found
      rcases List.mem_map.mp (OrderedMap.mem_of_get?_ofPairs found) with ⟨output, member, equal⟩
      cases equal
      exact ⟨output, member, rfl, rfl⟩
    · intro stored
      rcases stored with ⟨output, member, sameKey, sameValue⟩
      apply OrderedMap.get?_ofPairs_of_nodup pairs
      rw [← sameKey, ← sameValue]
      exact List.mem_map_of_mem member

/-- A row shows the outputs stored for it. -/
theorem output_eq_some_iff :
    (mapSnapshotRow db entity).output key = some value ↔
      ⟨entity.id, key, value⟩ ∈ db.snapshot_outputs := by
  have nodup : ((db.snapshot_outputs.rows.filter (·.snapshotId = entity.id)).map
      (·.key)).Nodup := by
    apply List.Nodup.map_on
    · intro left leftMember right rightMember same
      have leftStored := List.mem_filter.mp leftMember
      have rightStored := List.mem_filter.mp rightMember
      apply Table.eq_of_key_eq leftStored.1 rightStored.1
      exact Prod.ext ((of_decide_eq_true leftStored.2).trans
        (of_decide_eq_true rightStored.2).symm) same
    · exact (db.snapshot_outputs.keys_nodup.of_map _).filter _
  rw [SnapshotRow.output]
  refine (mapOutputs_eq_some_iff nodup).trans ?_
  constructor
  · intro ⟨output, member, sameKey, sameValue⟩
    rcases List.mem_filter.mp member with ⟨member, owner⟩
    rw [← of_decide_eq_true owner, ← sameKey, ← sameValue]
    exact member
  · exact fun member => ⟨_, List.mem_filter.mpr ⟨member, decide_eq_true rfl⟩, rfl, rfl⟩

theorem mem_buildOutputRows {row : SnapshotOutputEntity} :
    row ∈ buildOutputRows id replacement ↔
      row.snapshotId = id ∧ replacement.get? row.key = some (some row.value) := by
  rw [buildOutputRows, List.mem_filterMap]
  constructor
  · intro ⟨⟨key, value⟩, member, built⟩
    rcases Option.map_eq_some_iff.mp built with ⟨text, defined, rfl⟩
    exact ⟨rfl, defined ▸ replacement.get?_eq_some_iff_mem.mpr member⟩
  · intro ⟨owner, found⟩
    refine ⟨(row.key, some row.value), replacement.get?_eq_some_iff_mem.mp found, ?_⟩
    rw [← owner]
    rfl

theorem buildOutputRows_keys_nodup :
    ((buildOutputRows id replacement).map fun row => (row.snapshotId, row.key)).Nodup := by
  have keys : ((buildOutputRows id replacement).map (·.key)).Sublist
      (replacement.entries.map Prod.fst) := by
    rw [buildOutputRows]
    induction replacement.entries with
    | nil => exact .slnil
    | cons entry rest ih =>
        rcases entry with ⟨key, value⟩
        cases value with
        | none => exact ih.cons key
        | some value => exact ih.cons_cons key
  have nodup := replacement.keys_nodup.sublist keys
  apply List.Nodup.of_map Prod.snd
  rwa [List.map_map]

/-- The outputs of a snapshot are replaced as a whole. -/
theorem replaceOutputs_rows :
    (replaceOutputs stored id (some replacement)).rows =
      stored.rows.filter (·.snapshotId ≠ id) ++ buildOutputRows id replacement := by
  apply Table.insertAllOrIgnore_rows_of_fresh
  rw [List.map_append, List.nodup_append]
  refine ⟨(stored.filter (·.snapshotId ≠ id)).keys_nodup, buildOutputRows_keys_nodup, ?_⟩
  intro oldKey oldMember newKey newMember same
  rcases List.mem_map.mp oldMember with ⟨old, oldStored, rfl⟩
  rcases List.mem_map.mp newMember with ⟨new, newStored, rfl⟩
  have foreign := of_decide_eq_true (List.mem_filter.mp oldStored).2
  exact foreign ((congrArg Prod.fst same).trans (mem_buildOutputRows.mp newStored).1)

theorem mem_replaceOutputs {row : SnapshotOutputEntity} :
    row ∈ replaceOutputs stored id (some replacement) ↔
      row ∈ stored ∧ row.snapshotId ≠ id ∨
        row.snapshotId = id ∧ replacement.get? row.key = some (some row.value) := by
  rw [Table.mem_iff, replaceOutputs_rows, List.mem_append, List.mem_filter, mem_buildOutputRows,
    decide_eq_true_eq]
  rfl

/-- Outputs of other snapshots stay. -/
theorem mem_replaceOutputs_of_ne {outputs : Option SnapshotOutputs} {row : SnapshotOutputEntity}
    (other : row.snapshotId ≠ id) : row ∈ replaceOutputs stored id outputs ↔ row ∈ stored := by
  cases outputs with
  | none => exact Iff.rfl
  | some replacement =>
      rw [mem_replaceOutputs]
      constructor
      · intro result
        rcases result with ⟨member, _⟩ | ⟨same, _⟩
        · exact member
        · exact absurd same other
      · exact fun member => Or.inl ⟨member, other⟩

/-- Replacing the outputs twice by the same ones is the same as doing it once. -/
theorem replaceOutputs_idem (outputs : Option SnapshotOutputs) :
    replaceOutputs (replaceOutputs stored id outputs) id outputs =
      replaceOutputs stored id outputs := by
  cases outputs with
  | none => rfl
  | some replacement =>
      have foreign : ((replaceOutputs stored id (some replacement)).rows.filter
          (·.snapshotId ≠ id)) = stored.rows.filter (·.snapshotId ≠ id) := by
        have dropped : (buildOutputRows id replacement).filter (·.snapshotId ≠ id) = [] := by
          apply List.filter_eq_nil_iff.mpr
          intro row member
          simp [(mem_buildOutputRows.mp member).1]
        rw [replaceOutputs_rows, List.filter_append, dropped, List.filter_filter,
          List.append_nil]
        simp
      apply Table.ext
      rw [replaceOutputs_rows, foreign, replaceOutputs_rows]

end Outputs

/-! ## Updates -/

section Updates

variable {db : SnapshotDatabase ν} (now : Nat) {id : String}
  {data : SnapshotApplyExternalUpdate ν} {entity : SnapshotEntity ν}

theorem applyExternalUpdate_of_missing (missing : db.snapshots.find? id = none) :
    applyExternalUpdate db now id data = (db, none) := by
  rw [applyExternalUpdate, missing]

theorem applyExternalUpdate_of_blocked (found : db.snapshots.find? id = some entity)
    (blocked : data.blocked entity.status = true) :
    applyExternalUpdate db now id data =
      (db, some { row := mapSnapshotRow db entity, applied := false }) := by
  simp only [applyExternalUpdate, found, blocked, ↓reduceIte]

/-- An update that is not blocked assigns its fields and replaces the outputs. -/
theorem applyExternalUpdate_of_applied (found : db.snapshots.find? id = some entity)
    (passes : data.blocked entity.status = false) :
    (applyExternalUpdate db now id data).1 =
      { db with
        snapshots := db.snapshots.upsert (data.assign now entity)
        snapshot_outputs := replaceOutputs db.snapshot_outputs id data.outputs } := by
  simp only [applyExternalUpdate, found, passes, Bool.false_eq_true, ↓reduceIte]

theorem find?_applyExternalUpdate_self (found : db.snapshots.find? id = some entity)
    (passes : data.blocked entity.status = false) :
    (applyExternalUpdate db now id data).1.snapshots.find? id = some (data.assign now entity) := by
  rw [applyExternalUpdate_of_applied now found passes]
  have same : (data.assign now entity).id = id := (Table.find?_eq_some_iff.mp found).2
  have written := db.snapshots.find?_upsert_self (data.assign now entity)
  rwa [same] at written

/-- The update of a row changes no other row. -/
theorem find?_applyExternalUpdate_of_ne (data : SnapshotApplyExternalUpdate ν) {other : String}
    (different : other ≠ id) :
    (applyExternalUpdate db now id data).1.snapshots.find? other = db.snapshots.find? other := by
  cases found : db.snapshots.find? id with
  | none => rw [applyExternalUpdate_of_missing now found]
  | some entity =>
      cases blocked : data.blocked entity.status with
      | true => rw [applyExternalUpdate_of_blocked now found blocked]
      | false =>
          rw [applyExternalUpdate_of_applied now found blocked]
          apply Table.find?_upsert_of_ne
          rw [show (data.assign now entity).id = id from (Table.find?_eq_some_iff.mp found).2]
          exact different

/-- Every row after an update was there before, or is the row it assigns to. -/
theorem mem_applyExternalUpdate {row : SnapshotEntity ν}
    (member : row ∈ (applyExternalUpdate db now id data).1.snapshots) :
    row ∈ db.snapshots ∨ ∃ entity ∈ db.snapshots, entity.id = id ∧
      data.blocked entity.status = false ∧ row = data.assign now entity := by
  cases found : db.snapshots.find? id with
  | none =>
      rw [applyExternalUpdate_of_missing now found] at member
      exact Or.inl member
  | some entity =>
      cases blocked : data.blocked entity.status with
      | true =>
          rw [applyExternalUpdate_of_blocked now found blocked] at member
          exact Or.inl member
      | false =>
          rw [applyExternalUpdate_of_applied now found blocked] at member
          rcases Table.mem_upsert.mp member with written | ⟨kept, _⟩
          · have stored := Table.find?_eq_some_iff.mp found
            exact Or.inr ⟨entity, stored.1, stored.2, blocked, written⟩
          · exact Or.inl kept

end Updates

end Reputo.Snapshots

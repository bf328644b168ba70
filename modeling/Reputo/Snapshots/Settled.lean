import Reputo.Library.System
import Reputo.Snapshots.Repository

/-!
# Settled rows

A row whose status is terminal is settled.  Its status is final, but an update that
names no status, or the status the row has, passes the state machine and writes its
outputs, its error and its time of completion over those of the settled row.  A
repeated update reads the clock anew and writes the new times.
-/

namespace Reputo.Snapshots

open Reputo.Library

variable {ν : Type}

def Settled (row : SnapshotRow ν) : Prop := row.status ∈ terminalSnapshotStatuses

/-- The fields of a settled row that should be final. -/
structure SameSettled (before after : SnapshotRow ν) : Prop where
  status : after.status = before.status
  outputs : ∀ key, after.output key = before.output key
  error : after.error = before.error
  completedAt : after.completedAt = before.completedAt

/-- Settled rows are still there and show the same. -/
def KeepsSettled (db after : SnapshotDatabase ν) : Prop :=
  ∀ id row, findById db id = some row → Settled row →
    ∃ later, findById after id = some later ∧ SameSettled row later

theorem KeepsSettled.refl (db : SnapshotDatabase ν) : KeepsSettled db db :=
  fun _ row found _ => ⟨row, found, rfl, fun _ => rfl, rfl, rfl⟩

theorem KeepsSettled.trans (first second third : SnapshotDatabase ν)
    (early : KeepsSettled first second) (late : KeepsSettled second third) :
    KeepsSettled first third := by
  intro id row found settled
  rcases early id row found settled with ⟨middle, foundMiddle, same⟩
  have settledMiddle : Settled middle := by
    rw [Settled, same.status]
    exact settled
  rcases late id middle foundMiddle settledMiddle with ⟨last, foundLast, sameLast⟩
  refine ⟨last, foundLast, ?_, ?_, ?_, ?_⟩
  · exact sameLast.status.trans same.status
  · exact fun key => (sameLast.outputs key).trans (same.outputs key)
  · exact sameLast.error.trans same.error
  · exact sameLast.completedAt.trans same.completedAt

/-! ## Runs of calls -/

/-- One call of the repository, and the time at which it saves. -/
structure RepositoryCall (ν : Type) where
  id : String
  now : Nat
  data : SnapshotApplyExternalUpdate ν

def RepositoryCall.perform (db : SnapshotDatabase ν) (call : RepositoryCall ν) :
    Option (SnapshotDatabase ν) :=
  some (applyExternalUpdate db call.now call.id call.data).1

/-- The call on a settled row is blocked, or what it carries of the final fields is in
the row already. -/
def RepositoryCall.Harmless (db : SnapshotDatabase ν) (call : RepositoryCall ν) : Prop :=
  ∀ row, findById db call.id = some row → Settled row → call.data.blocked row.status = false →
    (∀ outputs, call.data.outputs = some outputs →
      ∀ key, (outputs.get? key).join = row.output key) ∧
    (∀ error, call.data.error = some error → row.error = some error) ∧
    (∀ completedAt, call.data.completedAt = some completedAt →
      row.completedAt = some completedAt)

theorem findById_eq_some_iff {db : SnapshotDatabase ν} {id : String} {row : SnapshotRow ν} :
    findById db id = some row ↔
      ∃ entity, db.snapshots.find? id = some entity ∧ mapSnapshotRow db entity = row :=
  Option.map_eq_some_iff

section Step

variable {db : SnapshotDatabase ν} {id : String} (now : Nat)
  {data : SnapshotApplyExternalUpdate ν} {row : SnapshotRow ν}

/-- Rows under other identifiers show the same after an update. -/
theorem findById_applyExternalUpdate_of_ne {other : String} (different : other ≠ id)
    (found : findById db other = some row) :
    ∃ later, findById (applyExternalUpdate db now id data).1 other = some later ∧
      SameSettled row later := by
  rcases findById_eq_some_iff.mp found with ⟨entity, stored, rfl⟩
  have owner := (Table.find?_eq_some_iff.mp stored).2
  have kept := (find?_applyExternalUpdate_of_ne now data different).trans stored
  refine ⟨_, findById_eq_some_iff.mpr ⟨entity, kept, rfl⟩, rfl, ?_, rfl, rfl⟩
  intro key
  apply Option.ext
  intro value
  rw [output_eq_some_iff, output_eq_some_iff]
  cases updated : db.snapshots.find? id with
  | none => rw [applyExternalUpdate_of_missing now updated]
  | some target =>
      cases blocked : data.blocked target.status with
      | true => rw [applyExternalUpdate_of_blocked now updated blocked]
      | false =>
          rw [applyExternalUpdate_of_applied now updated blocked]
          apply mem_replaceOutputs_of_ne
          rw [owner]
          exact different

/-- The row after an update that is not blocked. -/
theorem findById_applyExternalUpdate_self (found : findById db id = some row)
    (passes : data.blocked row.status = false) :
    ∃ later, findById (applyExternalUpdate db now id data).1 id = some later ∧
      later.toSnapshotEntity = data.assign now row.toSnapshotEntity ∧
      ∀ key, later.output key = match data.outputs with
        | none => row.output key
        | some outputs => (outputs.get? key).join := by
  rcases findById_eq_some_iff.mp found with ⟨entity, stored, rfl⟩
  have owner := (Table.find?_eq_some_iff.mp stored).2
  have written := find?_applyExternalUpdate_self now stored passes
  refine ⟨_, findById_eq_some_iff.mpr ⟨_, written, rfl⟩, rfl, ?_⟩
  intro key
  apply Option.ext
  intro value
  rw [output_eq_some_iff, applyExternalUpdate_of_applied now stored passes]
  cases replaced : data.outputs with
  | none => exact output_eq_some_iff.symm
  | some outputs =>
      rw [mem_replaceOutputs, Option.join_eq_some_iff]
      constructor
      · intro result
        rcases result with ⟨_, foreign⟩ | ⟨_, stored⟩
        · exact absurd owner foreign
        · exact stored
      · exact fun stored => Or.inr ⟨owner, stored⟩

/-- An update that passes on a settled row leaves its status. -/
theorem status_of_passes (settled : Settled row) (passes : data.blocked row.status = false) :
    data.status.getD row.status = row.status := by
  cases requested : data.status with
  | none => rfl
  | some status =>
      rw [SnapshotApplyExternalUpdate.blocked, requested] at passes
      exact (canTransition_of_terminal settled).mp (by simpa using passes)

/-- The status of a settled row is final, whatever the update. -/
theorem settled_status_final (settled : Settled row) (found : findById db id = some row)
    (other : String) :
    ∃ later, findById (applyExternalUpdate db now other data).1 id = some later ∧
      later.status = row.status := by
  cases Decidable.em (id = other) with
  | inr different =>
      rcases findById_applyExternalUpdate_of_ne now different found with ⟨later, foundLater, same⟩
      exact ⟨later, foundLater, same.status⟩
  | inl same =>
      cases same
      cases blocked : data.blocked row.status with
      | false =>
          rcases findById_applyExternalUpdate_self now found blocked with
            ⟨later, foundLater, assigned, _⟩
          refine ⟨later, foundLater, ?_⟩
          rw [assigned]
          exact status_of_passes settled blocked
      | true =>
          rcases findById_eq_some_iff.mp found with ⟨entity, stored, rfl⟩
          rw [applyExternalUpdate_of_blocked now stored blocked]
          exact ⟨_, found, rfl⟩

/-- A call keeps the settled rows exactly if it is harmless. -/
theorem keepsSettled_iff_harmless (call : RepositoryCall ν) :
    KeepsSettled db (System.performOr RepositoryCall.perform db call) ↔ call.Harmless db := by
  constructor
  · intro keeps row found settled passes
    rcases keeps _ row found settled with ⟨later, foundLater, same⟩
    rcases findById_applyExternalUpdate_self call.now found passes with
      ⟨written, foundWritten, assigned, outputs⟩
    have equal : written = later := Option.some.inj (foundWritten.symm.trans foundLater)
    rw [equal] at assigned outputs
    refine ⟨?_, ?_, ?_⟩
    · intro replacement carried key
      rw [← same.outputs key, outputs key, carried]
    · intro error carried
      rw [← same.error, assigned, SnapshotApplyExternalUpdate.assign, carried]
      rfl
    · intro completedAt carried
      rw [← same.completedAt, assigned, SnapshotApplyExternalUpdate.assign, carried]
      rfl
  · intro harmless id row found settled
    cases Decidable.em (id = call.id) with
    | inr different => exact findById_applyExternalUpdate_of_ne call.now different found
    | inl same =>
        cases same
        cases blocked : call.data.blocked row.status with
        | true =>
            rcases findById_eq_some_iff.mp found with ⟨entity, stored, rfl⟩
            have unchanged : System.performOr RepositoryCall.perform db call = db :=
              congrArg Prod.fst (applyExternalUpdate_of_blocked call.now stored blocked)
            rw [unchanged]
            exact KeepsSettled.refl db _ _ found settled
        | false =>
            rcases harmless row found settled blocked with ⟨outputs, error, completedAt⟩
            rcases findById_applyExternalUpdate_self call.now found blocked with
              ⟨later, foundLater, assigned, shown⟩
            refine ⟨later, foundLater, ?_, ?_, ?_, ?_⟩
            · rw [assigned]
              exact status_of_passes settled blocked
            · intro key
              rw [shown key]
              cases carried : call.data.outputs with
              | none => rfl
              | some replacement => exact outputs replacement carried key
            · rw [assigned, SnapshotApplyExternalUpdate.assign]
              cases carried : call.data.error with
              | none => rfl
              | some written => exact (error written carried).symm
            · rw [assigned, SnapshotApplyExternalUpdate.assign]
              cases carried : call.data.completedAt with
              | none => rfl
              | some written => exact (completedAt written carried).symm

end Step

/-! ## Repeated updates -/

section Repeated

variable {db : SnapshotDatabase ν} {first second : ClockReadings} {input : UpdateSnapshotInput ν}

/-- A row but for the time of its last write. -/
def contentOf (db : SnapshotDatabase ν) (id : String) : Option (SnapshotRow ν) :=
  (findById db id).map fun row => { row with updatedAt := 0 }

/-- The update enters a status whose time is recorded. -/
def UpdateSnapshotInput.stampsTransition (input : UpdateSnapshotInput ν) : Bool :=
  input.status.any (· ≠ .queued)

/-- The clock readings that the update stores agree. -/
def UpdateSnapshotInput.SameStamps (input : UpdateSnapshotInput ν)
    (first second : ClockReadings) : Prop :=
  (input.stampsTransition = true → second.transition = first.transition) ∧
    (input.error.isSome = true → second.error = first.error)

theorem blocked_stamped (first second : ClockReadings) (current : SnapshotStatus) :
    (input.stamped second).blocked current = (input.stamped first).blocked current := rfl

theorem touched_stamped :
    (input.stamped first).touched =
      (input.status.isSome || input.temporal.isSome || input.error.isSome) := by
  rcases input with ⟨_, status, temporal, _, error⟩
  cases status with
  | none => cases temporal <;> cases error <;> rfl
  | some status => rfl

/-- What an update has set does not block it. -/
theorem blocked_assign (entity : SnapshotEntity ν) (data : SnapshotApplyExternalUpdate ν)
    (now : Nat) (passes : data.blocked entity.status = false) :
    data.blocked (data.assign now entity).status = false := by
  cases requested : data.status with
  | none =>
      rw [SnapshotApplyExternalUpdate.assign, requested]
      exact passes
  | some status =>
      simp [SnapshotApplyExternalUpdate.blocked, SnapshotApplyExternalUpdate.assign, requested,
        canTransition]

theorem entity_eq_iff (left right : SnapshotEntity ν) :
    left = right ↔ { left with updatedAt := 0 } = { right with updatedAt := 0 } ∧
      left.updatedAt = right.updatedAt := by
  cases left
  cases right
  simp [and_assoc]

theorem assign_again_content (entity : SnapshotEntity ν) :
    { (input.stamped second).assign second.saved ((input.stamped first).assign first.saved entity)
      with updatedAt := 0 } =
      { (input.stamped first).assign first.saved entity with updatedAt := 0 } ↔
    input.SameStamps first second := by
  rcases input with ⟨_, status, temporal, _, error⟩
  have kept : temporal.or (temporal.or entity.temporal) = temporal.or entity.temporal := by
    rw [← Option.or_assoc, Option.or_self]
  cases status with
  | none =>
      cases error <;> simp [SnapshotApplyExternalUpdate.assign, UpdateSnapshotInput.stamped,
        UpdateSnapshotInput.SameStamps, UpdateSnapshotInput.stampsTransition, kept]
  | some status =>
      cases status <;> cases error <;> simp [SnapshotApplyExternalUpdate.assign, and_comm,
        UpdateSnapshotInput.stamped, UpdateSnapshotInput.SameStamps,
        UpdateSnapshotInput.stampsTransition, kept]

theorem assign_again (entity : SnapshotEntity ν) :
    (input.stamped second).assign second.saved ((input.stamped first).assign first.saved entity) =
      (input.stamped first).assign first.saved entity ↔
    input.SameStamps first second ∧
      ((input.stamped first).touched = true → second.saved = first.saved) := by
  rw [entity_eq_iff, assign_again_content]
  apply and_congr_right
  intro _
  have touched : (input.stamped second).touched = (input.stamped first).touched := by
    rw [touched_stamped, touched_stamped]
  simp only [SnapshotApplyExternalUpdate.assign, touched]
  cases (input.stamped first).touched <;> simp

/-- The rows after an update that passes, and after repeating it. -/
theorem findById_again (second : ClockReadings) {entity : SnapshotEntity ν}
    (stored : db.snapshots.find? input.snapshotId = some entity)
    (passes : (input.stamped first).blocked entity.status = false) :
    ∃ outputs,
      findById (serviceApplyExternalUpdate db first input).1 input.snapshotId =
        some { (input.stamped first).assign first.saved entity with outputs } ∧
      findById (serviceApplyExternalUpdate (serviceApplyExternalUpdate db first input).1 second
          input).1 input.snapshotId =
        some { (input.stamped second).assign second.saved
          ((input.stamped first).assign first.saved entity) with outputs } := by
  have owner := (Table.find?_eq_some_iff.mp stored).2
  have once := find?_applyExternalUpdate_self first.saved stored passes
  have passesAgain := blocked_assign entity (input.stamped first) first.saved passes
  rw [← blocked_stamped first second] at passesAgain
  have twice := find?_applyExternalUpdate_self second.saved once passesAgain
  have outputsOnce := congrArg SnapshotDatabase.snapshot_outputs
    (applyExternalUpdate_of_applied first.saved stored passes)
  have outputsTwice := congrArg SnapshotDatabase.snapshot_outputs
    (applyExternalUpdate_of_applied second.saved once passesAgain)
  rw [outputsOnce] at outputsTwice
  have kept : (serviceApplyExternalUpdate (serviceApplyExternalUpdate db first input).1 second
      input).1.snapshot_outputs = (serviceApplyExternalUpdate db first input).1.snapshot_outputs :=
    (outputsTwice.trans (replaceOutputs_idem input.outputs)).trans outputsOnce.symm
  refine ⟨_, findById_eq_some_iff.mpr ⟨_, once, rfl⟩, findById_eq_some_iff.mpr ⟨_, twice, ?_⟩⟩
  simp only [mapSnapshotRow]
  rw [kept]
  rfl

/-- The update is for a row that exists, and passes its state machine. -/
def UpdateSnapshotInput.Passes (input : UpdateSnapshotInput ν) (db : SnapshotDatabase ν) : Prop :=
  ∃ row, findById db input.snapshotId = some row ∧
    input.status.any (fun status => !canTransition row.status status) = false

theorem service_of_not_passes (stopped : ¬ input.Passes db) (clock : ClockReadings) :
    (serviceApplyExternalUpdate db clock input).1 = db := by
  rw [serviceApplyExternalUpdate]
  cases stored : db.snapshots.find? input.snapshotId with
  | none => rw [applyExternalUpdate_of_missing clock.saved stored]
  | some entity =>
      cases rejected : (input.stamped clock).blocked entity.status with
      | true => rw [applyExternalUpdate_of_blocked clock.saved stored rejected]
      | false => exact absurd ⟨_, findById_eq_some_iff.mpr ⟨entity, stored, rfl⟩, rejected⟩ stopped

/-- Repeating an update leaves the row as it is, but for the time of its last write,
exactly if it did not pass or its times are those of the first call. -/
theorem contentOf_again_iff :
    contentOf (serviceApplyExternalUpdate (serviceApplyExternalUpdate db first input).1 second
        input).1 input.snapshotId =
      contentOf (serviceApplyExternalUpdate db first input).1 input.snapshotId ↔
    (input.Passes db → input.SameStamps first second) := by
  cases Classical.em (input.Passes db) with
  | inr stopped =>
      rw [service_of_not_passes stopped, service_of_not_passes stopped]
      exact ⟨fun _ passes => absurd passes stopped, fun _ => rfl⟩
  | inl passes =>
      rcases passes with ⟨row, found, free⟩
      rcases findById_eq_some_iff.mp found with ⟨entity, stored, rfl⟩
      rcases findById_again second stored free with ⟨outputs, once, twice⟩
      rw [contentOf, contentOf, once, twice, ← assign_again_content entity]
      constructor
      · intro same _
        exact congrArg SnapshotRow.toSnapshotEntity (Option.some.inj same)
      · intro same
        have equal := same ⟨_, found, free⟩
        simp only [Option.map_some, equal]

/-- Repeating an update leaves the row as it is exactly if it did not pass, or all
times it writes are those of the first call. -/
theorem findById_again_iff :
    findById (serviceApplyExternalUpdate (serviceApplyExternalUpdate db first input).1 second
        input).1 input.snapshotId =
      findById (serviceApplyExternalUpdate db first input).1 input.snapshotId ↔
    (input.Passes db → input.SameStamps first second ∧
      ((input.stamped first).touched = true → second.saved = first.saved)) := by
  cases Classical.em (input.Passes db) with
  | inr stopped =>
      rw [service_of_not_passes stopped, service_of_not_passes stopped]
      exact ⟨fun _ passes => absurd passes stopped, fun _ => rfl⟩
  | inl passes =>
      rcases passes with ⟨row, found, free⟩
      rcases findById_eq_some_iff.mp found with ⟨entity, stored, rfl⟩
      rcases findById_again second stored free with ⟨outputs, once, twice⟩
      rw [once, twice, ← assign_again entity]
      constructor
      · intro same _
        exact congrArg SnapshotRow.toSnapshotEntity (Option.some.inj same)
      · intro same
        rw [same ⟨_, found, free⟩]

end Repeated

/-! ## What is final, and what may be repeated -/

/-- In a run of calls no settled row changes exactly if all its calls are harmless, and
an update may be repeated exactly if it stores no clock reading that differs. -/
theorem settled_final_iff :
    (∀ (db : SnapshotDatabase ν) (calls : List (RepositoryCall ν)),
      System.RelatedThroughout RepositoryCall.perform KeepsSettled db calls ↔
        System.AllAlong RepositoryCall.perform (fun before call => call.Harmless before)
          db calls) ∧
    (∀ (db : SnapshotDatabase ν) (input : UpdateSnapshotInput ν) (first second : ClockReadings),
      contentOf (serviceApplyExternalUpdate (serviceApplyExternalUpdate db first input).1 second
          input).1 input.snapshotId =
        contentOf (serviceApplyExternalUpdate db first input).1 input.snapshotId ↔
      (input.Passes db → input.SameStamps first second)) ∧
    (∀ (db : SnapshotDatabase ν) (input : UpdateSnapshotInput ν) (first second : ClockReadings),
      findById (serviceApplyExternalUpdate (serviceApplyExternalUpdate db first input).1 second
          input).1 input.snapshotId =
        findById (serviceApplyExternalUpdate db first input).1 input.snapshotId ↔
      (input.Passes db → input.SameStamps first second ∧
        ((input.stamped first).touched = true → second.saved = first.saved))) := by
  refine ⟨?_, fun _ _ _ _ => contentOf_again_iff, fun _ _ _ _ => findById_again_iff⟩
  intro db calls
  rw [System.relatedThroughout_iff KeepsSettled.refl KeepsSettled.trans]
  exact System.AllAlong.congr fun _ call => keepsSettled_iff_harmless call

section Late

/-- A snapshot that was created at time zero. -/
private def createdDatabase : SnapshotDatabase Rat :=
  create .empty 0 "s1" { algorithmPresetFrozen := ⟨"custom_score", "1.0.0", []⟩ }

/-- The call that the service makes for an update. -/
private def serviceCall (input : UpdateSnapshotInput Rat) (now : Nat) : RepositoryCall Rat :=
  ⟨input.snapshotId, now, input.stamped (.instant now)⟩

/-- The workflow starts and the reconciler settles its row after a timeout; a write of
the outputs of its children arrives late. -/
private def lateCalls : List (RepositoryCall Rat) :=
  [serviceCall { snapshotId := "s1", status := some .running } 10,
    serviceCall { snapshotId := "s1", status := some .failed,
                  error := some { message := "Workflow closed as TIMED_OUT" } } 20,
    serviceCall { snapshotId := "s1",
                  outputs := some (.ofPairs [("votes", some "snapshots/s1/votes.csv")]) } 30]

/-- The outputs of a failed snapshot change, and a repeated running write moves the
start. -/
theorem late_outputs_change_settled :
    (¬ ∀ (db : SnapshotDatabase Rat) (calls : List (RepositoryCall Rat)),
      System.RelatedThroughout RepositoryCall.perform KeepsSettled db calls) ∧
    (¬ ∀ (db : SnapshotDatabase Rat) (input : UpdateSnapshotInput Rat)
        (first second : ClockReadings),
      contentOf (serviceApplyExternalUpdate (serviceApplyExternalUpdate db first input).1 second
          input).1 input.snapshotId =
        contentOf (serviceApplyExternalUpdate db first input).1 input.snapshotId) := by
  constructor
  · intro final
    have keeps := final createdDatabase lateCalls (lateCalls.take 2) (lateCalls.drop 2) [] rfl
    have settled : (findById (System.performAll RepositoryCall.perform createdDatabase
        (lateCalls.take 2)) "s1").map (fun row => (row.status, row.output "votes")) =
        some (.failed, none) := by
      decide +kernel
    have changed : (findById (System.performAll RepositoryCall.perform createdDatabase
        (lateCalls.take 2 ++ lateCalls.drop 2)) "s1").map (·.output "votes") =
        some (some "snapshots/s1/votes.csv") := by
      decide +kernel
    rcases Option.map_eq_some_iff.mp settled with ⟨row, found, shown⟩
    have status : row.status = .failed := congrArg Prod.fst shown
    have outputs : row.output "votes" = none := congrArg Prod.snd shown
    rcases keeps "s1" row found (by rw [Settled, status]; decide) with ⟨later, foundLater, same⟩
    rw [foundLater, Option.map_some, same.outputs, outputs] at changed
    exact nomatch changed
  · intro repeatable
    have same := congrArg (·.map (·.startedAt))
      (repeatable createdDatabase { snapshotId := "s1", status := some .running }
        (.instant 10) (.instant 20))
    revert same
    decide +kernel

end Late

end Reputo.Snapshots

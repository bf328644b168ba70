import Reputo.AlgorithmPresets.UploadKeys
import Reputo.Snapshots.Launch

/-!
# Deleting presets and snapshots

A preset goes with its snapshots, the files its inputs name and the outputs of its
snapshots; a snapshot goes with its outputs only.  The storage may refuse to list a prefix
or to delete an object, which is logged and otherwise ignored.
-/

namespace Reputo.AlgorithmPresets

open Reputo.Library Reputo.Orchestrator Reputo.Snapshots

variable {ν : Type}

/-! ## Rows and objects -/

structure AlgorithmPresetRow (ν : Type) where
  id : String
  inputs : List (PresetInput ν)

structure SnapshotRow (ν : Type) where
  id : String
  algorithmPresetId : String
  status : SnapshotStatus
  temporal : Option SnapshotTemporal
  algorithmPresetFrozen : Option (AlgorithmPresetFrozen ν)

/-- `snapshot.algorithmPresetFrozen?.inputs ?? []`. -/
def SnapshotRow.frozenInputs (snapshot : SnapshotRow ν) : List (PresetInput ν) :=
  (snapshot.algorithmPresetFrozen.map (·.inputs)).getD []

/-- The stored objects, the prefixes that can be listed and the keys that can be deleted. -/
structure ObjectStorage where
  objects : List String
  lists : String → Bool
  deletes : String → Bool

namespace ObjectStorage

/-- `none` where the listing fails. -/
def listObjectsByPrefix (storage : ObjectStorage) (initial : String) : Option (List String) :=
  if storage.lists initial then some (storage.objects.filter (startsWith · initial)) else none

def deleteObjects (storage : ObjectStorage) (keys : List String) : ObjectStorage :=
  { storage with
    objects := storage.objects.filter fun key => !(keys.contains key && storage.deletes key) }

end ObjectStorage

/-- Everything a deletion touches: the rows, the objects and the workflows told to end. -/
structure Installation (ν : Type) where
  presets : Table (AlgorithmPresetRow ν) AlgorithmPresetRow.id
  snapshots : Table (SnapshotRow ν) SnapshotRow.id
  storage : ObjectStorage
  terminated : List String

def throwNotFoundError {α : Type} (id entity : String) : Except String α :=
  .error s!"The {entity} with ID {id} was not found."

/-- `snapshots/${snapshot._id}/`. -/
def snapshotPrefix (snapshot : SnapshotRow ν) : String := "snapshots/" ++ (snapshot.id ++ "/")

/-! ## Deleting a preset -/

def collectActiveWorkflowIds (snapshots : List (SnapshotRow ν)) : List String :=
  let active := snapshots.filter fun snapshot =>
    snapshot.status = .queued ∨ snapshot.status = .running
  active.filterMap fun snapshot =>
    let derived := if snapshot.id ≠ "" then some (snapshotWorkflowId snapshot.id) else none
    ((snapshot.temporal.bind (·.workflowId)).or derived).filter (· ≠ "")

namespace AlgorithmPresetService

/-- The keys to delete; a prefix that cannot be listed adds none. -/
def keysToDelete (storage : ObjectStorage) (algorithmPreset : AlgorithmPresetRow ν)
    (snapshots : List (SnapshotRow ν)) : List String :=
  collectUploadKeys (algorithmPreset.inputs ++ snapshots.flatMap (·.frozenInputs)) ++
    snapshots.flatMap fun snapshot =>
      (storage.listObjectsByPrefix (snapshotPrefix snapshot)).getD []

def deletePresetWithSnapshots (installation : Installation ν) (presetId : String)
    (snapshotCount : Nat) : Installation ν :=
  { installation with
    snapshots :=
      if snapshotCount > 0 then installation.snapshots.filter (·.algorithmPresetId ≠ presetId)
      else installation.snapshots
    presets := installation.presets.filter (·.id ≠ presetId) }

def deleteS3Objects (installation : Installation ν) (algorithmPreset : AlgorithmPresetRow ν)
    (snapshots : List (SnapshotRow ν)) : Installation ν :=
  let keysToDelete := keysToDelete installation.storage algorithmPreset snapshots
  if keysToDelete.length > 0 then
    { installation with storage := installation.storage.deleteObjects keysToDelete }
  else installation

def deleteById (installation : Installation ν) (id : String) : Except String (Installation ν) :=
  match installation.presets.find? id with
  | none => throwNotFoundError id "algorithm preset"
  | some algorithmPreset =>
      let snapshots := installation.snapshots.rows.filter (·.algorithmPresetId = id)
      let terminating :=
        { installation with
          terminated := installation.terminated ++ collectActiveWorkflowIds snapshots }
      .ok (deleteS3Objects (deletePresetWithSnapshots terminating id snapshots.length)
        algorithmPreset snapshots)

end AlgorithmPresetService

/-! ## Deleting a snapshot -/

namespace SnapshotService

def deleteS3Objects (installation : Installation ν) (snapshot : SnapshotRow ν) : Installation ν :=
  match installation.storage.listObjectsByPrefix (snapshotPrefix snapshot) with
  | none => installation
  | some keysToDelete =>
      if keysToDelete.length > 0 then
        { installation with storage := installation.storage.deleteObjects keysToDelete }
      else installation

def deleteById (installation : Installation ν) (id : String) : Except String (Installation ν) :=
  match installation.snapshots.find? id with
  | none => throwNotFoundError id "snapshot"
  | some snapshot =>
      let terminated :=
        if snapshot.status = .queued ∨ snapshot.status = .running then
          [(snapshot.temporal.bind (·.workflowId)).getD (snapshotWorkflowId id)]
        else []
      .ok (deleteS3Objects
        { installation with
          snapshots := installation.snapshots.filter (·.id ≠ id)
          terminated := installation.terminated ++ terminated }
        snapshot)

end SnapshotService

/-! ## What a deletion removes -/

namespace Installation

/-- An object that is gone. -/
def Removed (before after : Installation ν) (key : String) : Prop :=
  key ∈ before.storage.objects ∧ key ∉ after.storage.objects

/-- A stored row refers to the upload. -/
def InUse (installation : Installation ν) (key : String) : Prop :=
  (∃ preset ∈ installation.presets, References preset.inputs key) ∨
    ∃ snapshot ∈ installation.snapshots, References snapshot.frozenInputs key

/-- The preset or one of its snapshots refers to the upload. -/
def UsedBy (installation : Installation ν) (presetId key : String) : Prop :=
  (∃ preset ∈ installation.presets, preset.id = presetId ∧ References preset.inputs key) ∨
    ∃ snapshot ∈ installation.snapshots,
      snapshot.algorithmPresetId = presetId ∧ References snapshot.frozenInputs key

/-- Another preset or one of its snapshots refers to the upload. -/
def UsedBeside (installation : Installation ν) (presetId key : String) : Prop :=
  (∃ preset ∈ installation.presets, preset.id ≠ presetId ∧ References preset.inputs key) ∨
    ∃ snapshot ∈ installation.snapshots,
      snapshot.algorithmPresetId ≠ presetId ∧ References snapshot.frozenInputs key

end Installation

variable {storage : ObjectStorage} {installation after : Installation ν} {key presetId : String}

theorem mem_deleteObjects {keys : List String} :
    key ∈ (storage.deleteObjects keys).objects ↔
      key ∈ storage.objects ∧ ¬ (key ∈ keys ∧ storage.deletes key) := by
  simp [ObjectStorage.deleteObjects, imp_iff_not_or]

theorem mem_listObjectsByPrefix {initial : String} :
    key ∈ (storage.listObjectsByPrefix initial).getD [] ↔
      storage.lists initial ∧ key ∈ storage.objects ∧ startsWith key initial := by
  rw [ObjectStorage.listObjectsByPrefix]
  split
  · rename_i listed
    simp [listed]
  · rename_i refused
    simp [refused]

theorem startsWith_append {value first second : String}
    (starts : startsWith value (first ++ second)) : startsWith value first := by
  rw [startsWith, List.isPrefixOf_iff_prefix] at starts ⊢
  rw [String.toList_append] at starts
  exact (List.prefix_append _ _).trans starts

/-- An upload is not an output of a snapshot. -/
theorem not_upload_of_output {snapshot : SnapshotRow ν}
    (output : startsWith key (snapshotPrefix snapshot)) : ¬ startsWith key uploadsPrefix := by
  intro upload
  have outputs := startsWith_append output
  rw [startsWith, List.isPrefixOf_iff_prefix] at upload outputs
  rcases upload with ⟨_, uploads⟩
  rcases outputs with ⟨_, same⟩
  rw [← uploads] at same
  exact absurd (List.cons.inj same).1 (by decide)

theorem Refers.upload {value : Json ν} (refers : Refers key value) :
    startsWith key uploadsPrefix := by
  induction refers with
  | root upload => exact upload
  | nested _ _ _ _ _ _ ih => exact ih

theorem References.upload {inputs : List (PresetInput ν)} (references : References inputs key) :
    startsWith key uploadsPrefix := by
  rcases references with ⟨_, _, _, _, refers⟩
  exact refers.upload

theorem references_append {left right : List (PresetInput ν)} :
    References (left ++ right) key ↔ References left key ∨ References right key := by
  simp [References, or_and_right, exists_or]

theorem references_frozenInputs {snapshots : List (SnapshotRow ν)} :
    References (snapshots.flatMap (·.frozenInputs)) key ↔
      ∃ snapshot ∈ snapshots, References snapshot.frozenInputs key := by
  simp only [References, List.mem_flatMap]
  constructor
  · rintro ⟨input, ⟨snapshot, member, held⟩, refers⟩
    exact ⟨snapshot, member, input, held, refers⟩
  · rintro ⟨snapshot, member, input, held, refers⟩
    exact ⟨input, ⟨snapshot, member, held⟩, refers⟩

theorem Installation.UsedBeside.upload (beside : installation.UsedBeside presetId key) :
    startsWith key uploadsPrefix := by
  rcases beside with ⟨_, _, _, references⟩ | ⟨_, _, _, references⟩
  · exact references.upload
  · exact references.upload

namespace AlgorithmPresetService

variable {algorithmPreset : AlgorithmPresetRow ν} {snapshots : List (SnapshotRow ν)}

theorem mem_keysToDelete :
    key ∈ keysToDelete storage algorithmPreset snapshots ↔
      (References algorithmPreset.inputs key ∨
        ∃ snapshot ∈ snapshots, References snapshot.frozenInputs key) ∨
      ∃ snapshot ∈ snapshots, storage.lists (snapshotPrefix snapshot) ∧
        key ∈ storage.objects ∧ startsWith key (snapshotPrefix snapshot) := by
  rw [keysToDelete, List.mem_append, mem_collectUploadKeys, references_append,
    references_frozenInputs, List.mem_flatMap]
  simp only [mem_listObjectsByPrefix]

theorem deleteS3Objects_eq :
    deleteS3Objects installation algorithmPreset snapshots =
      { installation with
        storage := installation.storage.deleteObjects
          (keysToDelete installation.storage algorithmPreset snapshots) } := by
  rw [deleteS3Objects]
  split
  · rfl
  · rename_i none
    rw [List.eq_nil_of_length_eq_zero (Nat.eq_zero_of_not_pos none)]
    simp [ObjectStorage.deleteObjects]

/-- What the deletion of a preset leaves. -/
theorem deleteById_cases (deleted : deleteById installation presetId = .ok after) :
    ∃ algorithmPreset ∈ installation.presets, algorithmPreset.id = presetId ∧
      after.presets = installation.presets.filter (·.id ≠ presetId) ∧
      (∀ snapshot, snapshot ∈ after.snapshots ↔
        snapshot ∈ installation.snapshots ∧ snapshot.algorithmPresetId ≠ presetId) ∧
      after.storage = installation.storage.deleteObjects
        (keysToDelete installation.storage algorithmPreset
          (installation.snapshots.rows.filter (·.algorithmPresetId = presetId))) := by
  rw [deleteById] at deleted
  cases found : installation.presets.find? presetId with
  | none =>
      rw [found] at deleted
      cases deleted
  | some algorithmPreset =>
      rw [found] at deleted
      dsimp only at deleted
      rw [deleteS3Objects_eq] at deleted
      cases deleted
      rcases Table.find?_eq_some_iff.mp found with ⟨member, own⟩
      refine ⟨algorithmPreset, member, own, rfl, fun snapshot => ?_, rfl⟩
      dsimp only [deletePresetWithSnapshots]
      split
      · simp [Table.mem_filter]
      · rename_i none
        have unused := List.eq_nil_of_length_eq_zero (Nat.eq_zero_of_not_pos none)
        simp only [List.filter_eq_nil_iff, decide_eq_true_eq] at unused
        exact ⟨fun stored => ⟨stored, unused snapshot stored⟩, And.left⟩

theorem exists_deleteById {preset : AlgorithmPresetRow ν} (member : preset ∈ installation.presets)
    (own : preset.id = presetId) : ∃ after, deleteById installation presetId = .ok after := by
  rw [deleteById, Table.find?_eq_some_iff.mpr ⟨member, own⟩]
  exact ⟨_, rfl⟩

/-- What the deletion of a preset removes. -/
theorem removed_iff (deleted : deleteById installation presetId = .ok after) :
    installation.Removed after key ↔ key ∈ installation.storage.objects ∧
      installation.storage.deletes key ∧
        (installation.UsedBy presetId key ∨ ∃ snapshot ∈ installation.snapshots,
          snapshot.algorithmPresetId = presetId ∧
            installation.storage.lists (snapshotPrefix snapshot) ∧
            startsWith key (snapshotPrefix snapshot)) := by
  rcases deleteById_cases deleted with ⟨algorithmPreset, member, own, _, _, stored⟩
  have used : References algorithmPreset.inputs key ↔
      ∃ preset ∈ installation.presets, preset.id = presetId ∧ References preset.inputs key := by
    constructor
    · exact fun references => ⟨algorithmPreset, member, own, references⟩
    · rintro ⟨preset, stored, same, references⟩
      rwa [← Table.eq_of_key_eq stored member (same.trans own.symm)]
  rw [Installation.Removed, stored, mem_deleteObjects, mem_keysToDelete, used,
    Installation.UsedBy]
  simp only [List.mem_filter, decide_eq_true_eq, ← Table.mem_iff]
  apply and_congr_right
  intro present
  simp only [present, true_and, not_not, and_assoc]
  exact and_comm

/-- The uploads that are still in use. -/
theorem inUse_iff (deleted : deleteById installation presetId = .ok after) :
    after.InUse key ↔ installation.UsedBeside presetId key := by
  rcases deleteById_cases deleted with ⟨_, _, _, presets, snapshots, _⟩
  simp only [Installation.InUse, Installation.UsedBeside, presets, snapshots, Table.mem_filter,
    decide_eq_true_eq, and_assoc]

end AlgorithmPresetService

/-- The deletion of a snapshot removes outputs of the snapshot. -/
theorem SnapshotService.output_of_removed {id : String}
    (deleted : SnapshotService.deleteById installation id = .ok after)
    (removed : installation.Removed after key) :
    ∃ snapshot ∈ installation.snapshots, snapshot.id = id ∧
      startsWith key (snapshotPrefix snapshot) := by
  rw [SnapshotService.deleteById] at deleted
  cases found : installation.snapshots.find? id with
  | none =>
      rw [found] at deleted
      cases deleted
  | some snapshot =>
      rw [found] at deleted
      rcases Table.find?_eq_some_iff.mp found with ⟨member, own⟩
      refine ⟨snapshot, member, own, ?_⟩
      cases deleted
      rcases removed with ⟨present, gone⟩
      rw [deleteS3Objects] at gone
      dsimp only at gone
      cases listed : installation.storage.listObjectsByPrefix (snapshotPrefix snapshot) with
      | none =>
          rw [listed] at gone
          exact absurd present gone
      | some keysToDelete =>
          rw [listed] at gone
          dsimp only at gone
          split at gone
          · have deleting : key ∈ keysToDelete := by
              by_contra other
              exact gone (mem_deleteObjects.mpr ⟨present, fun both => other both.1⟩)
            rw [← Option.getD_some (a := keysToDelete) (b := []), ← listed] at deleting
            exact (mem_listObjectsByPrefix.mp deleting).2.2
          · exact absurd present gone

/-! ## What a deletion spares -/

/-- No stored upload of the preset that the storage would delete is used beside it. -/
def Installation.Unshared (installation : Installation ν) (presetId : String) : Prop :=
  ∀ preset ∈ installation.presets, preset.id = presetId →
    ∀ key ∈ installation.storage.objects, installation.storage.deletes key →
      installation.UsedBy presetId key → ¬ installation.UsedBeside presetId key

/-- The deletion of a preset spares every upload that is still in use exactly if the preset
shares none; the deletion of a snapshot removes its own outputs only. -/
theorem deletion_spares_iff (installation : Installation ν) (presetId snapshotId : String) :
    ((∀ after, AlgorithmPresetService.deleteById installation presetId = .ok after →
        ∀ key, installation.Removed after key → ¬ after.InUse key) ∧
      ∀ after, SnapshotService.deleteById installation snapshotId = .ok after →
        ∀ key, installation.Removed after key →
          startsWith key ("snapshots/" ++ (snapshotId ++ "/"))) ↔
      installation.Unshared presetId := by
  constructor
  · intro ⟨spares, _⟩ preset member own key present deletes used beside
    rcases AlgorithmPresetService.exists_deleteById member own with ⟨after, deleted⟩
    have removed := (AlgorithmPresetService.removed_iff deleted).mpr
      ⟨present, deletes, Or.inl used⟩
    exact spares after deleted key removed
      ((AlgorithmPresetService.inUse_iff deleted).mpr beside)
  · intro unshared
    constructor
    · intro after deleted key removed inUse
      have beside := (AlgorithmPresetService.inUse_iff deleted).mp inUse
      rcases AlgorithmPresetService.deleteById_cases deleted with ⟨preset, member, own, _⟩
      rcases (AlgorithmPresetService.removed_iff deleted).mp removed with
        ⟨present, deletes, used | ⟨snapshot, _, _, _, output⟩⟩
      · exact unshared preset member own key present deletes used beside
      · exact not_upload_of_output output beside.upload
    · intro after deleted key removed
      rcases SnapshotService.output_of_removed deleted removed with ⟨snapshot, _, own, output⟩
      rwa [snapshotPrefix, own] at output

private def duplicatedPreset : Installation Rat where
  presets :=
    { rows := [⟨"original", [⟨"sub_ids", some (.str "uploads/ids.json")⟩]⟩,
        ⟨"copy", [⟨"sub_ids", some (.str "uploads/ids.json")⟩]⟩]
      keys_nodup := by decide }
  snapshots := .empty
  storage := ⟨["uploads/ids.json"], fun _ => true, fun _ => true⟩
  terminated := []

/-- The deletion of a preset takes the file of its duplicate. -/
theorem deletion_takes_shared_upload :
    ¬ ∀ after, AlgorithmPresetService.deleteById duplicatedPreset "original" = .ok after →
      ∀ key, duplicatedPreset.Removed after key → ¬ after.InUse key := by
  intro spares
  apply spares _ rfl "uploads/ids.json" ⟨by decide, by decide⟩
  exact Or.inl ⟨_, List.mem_cons_self, _, List.mem_cons_self, _, rfl, .root (by decide)⟩

end Reputo.AlgorithmPresets

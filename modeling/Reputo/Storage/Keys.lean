import Reputo.AlgorithmPresets.Deletion
import Reputo.Library.JsText
import Reputo.Library.Result

/-!
# Storage keys

Keys of uploads and of snapshots are generated from an id and a filename, and parsed back into
them.  Parsing accepts exactly the keys that are generated from an id and a filename with an
extension, and the prefix of a snapshot tells its keys from those of all others.
-/

namespace Reputo.Storage

open Reputo.Library Reputo.AlgorithmPresets

inductive StorageKeyType where
  | upload
  | snapshot
  deriving DecidableEq, Repr

/-- A key that cannot be parsed, with the reason. -/
structure InvalidStorageKeyError where
  key : String
  reason : String
  deriving DecidableEq, Repr

inductive ParsedStorageKey where
  | upload (filename ext uuid : String)
  | snapshot (filename ext snapshotId : String)
  deriving DecidableEq, Repr

def generateKey (type : StorageKeyType) (id filename : String) : String :=
  match type with
  | .upload => "uploads/" ++ id ++ "/" ++ filename
  | .snapshot => "snapshots/" ++ id ++ "/" ++ filename

def detectKeyType (key : String) : Option StorageKeyType :=
  if startsWith key "uploads/" then some .upload
  else if startsWith key "snapshots/" then some .snapshot
  else none

def extractFilenameAndExt (key filenamePart : String) :
    Except InvalidStorageKeyError (String × String) :=
  match JsText.splitLast '.' filenamePart with
  | none => .error { key, reason := "No file extension found" }
  | some parts => .ok parts

/-- The id, the filename and the extension of a key. -/
def parseParts (key : String) (parts : List String) (tooShort missing : String) :
    Except InvalidStorageKeyError (String × String × String) :=
  if parts.length < 3 then .error { key, reason := tooShort }
  else
    let id := parts[1]?.getD ""
    if id = "" then .error { key, reason := missing }
    else (extractFilenameAndExt key (JsText.join '/' (parts.drop 2))).map fun file =>
      (id, file.1 ++ "." ++ file.2, file.2)

def parseUploadKey (key : String) (parts : List String) :
    Except InvalidStorageKeyError ParsedStorageKey :=
  (parseParts key parts "Upload key must have at least 3 path segments"
    "Missing UUID segment").map fun parsed => .upload parsed.2.1 parsed.2.2 parsed.1

def parseSnapshotKey (key : String) (parts : List String) :
    Except InvalidStorageKeyError ParsedStorageKey :=
  (parseParts key parts "Snapshot key must have at least 3 path segments"
    "Missing snapshotId segment").map fun parsed => .snapshot parsed.2.1 parsed.2.2 parsed.1

def parseStorageKey (key : String) : Except InvalidStorageKeyError ParsedStorageKey :=
  match detectKeyType key with
  | none => .error { key, reason := "Key must start with \"uploads/\" or \"snapshots/\"" }
  | some .upload => parseUploadKey key (JsText.split '/' key)
  | some .snapshot => parseSnapshotKey key (JsText.split '/' key)

example : parseStorageKey "uploads/u1/votes.csv" = .ok (.upload "votes.csv" "csv" "u1") := by
  decide

/-! ## Parts of a key -/

/-- An id that is one segment of a path, and a filename that ends in an extension. -/
def IsFile (id filename ext : String) : Prop :=
  id ≠ "" ∧ '/' ∉ id.toList ∧ '.' ∉ ext.toList ∧ ∃ name, filename = name ++ "." ++ ext

theorem extractFilenameAndExt_eq_ok {key filenamePart : String} {file : String × String} :
    extractFilenameAndExt key filenamePart = .ok file ↔
      filenamePart = file.1 ++ "." ++ file.2 ∧ '.' ∉ file.2.toList := by
  have dot : ".".toList = ['.'] := rfl
  rw [← JsText.splitLast_eq_some dot, extractFilenameAndExt]
  cases JsText.splitLast '.' filenamePart with
  | none => exact iff_of_false (by simp) (by simp)
  | some parts => exact ⟨fun found => congrArg some (Except.ok.inj found),
      fun found => congrArg Except.ok (Option.some.inj found)⟩

section Segments

variable {key folder rest tooShort missing id filename ext : String}

/-- A path without a third segment is too short. -/
theorem parseParts_of_short (segment : '/' ∉ folder.toList) (short : '/' ∉ rest.toList) :
    parseParts key (JsText.split '/' (folder ++ "/" ++ rest)) tooShort missing =
      .error { key, reason := tooShort } := by
  rw [JsText.split_append rest rfl segment, JsText.split_eq_singleton short]
  rfl

/-- Behind the second segment there is the path of the file. -/
theorem parseParts_of_segments {filenamePart : String} (segment : '/' ∉ folder.toList)
    (idSegment : '/' ∉ id.toList) :
    parseParts key (JsText.split '/' (folder ++ "/" ++ (id ++ "/" ++ filenamePart))) tooShort
        missing =
      if id = "" then .error { key, reason := missing }
      else (extractFilenameAndExt key filenamePart).map fun file =>
        (id, file.1 ++ "." ++ file.2, file.2) := by
  have parts : JsText.split '/' (folder ++ "/" ++ (id ++ "/" ++ filenamePart)) =
      folder :: id :: JsText.split '/' filenamePart := by
    rw [JsText.split_append _ rfl segment, JsText.split_append _ rfl idSegment]
  have some : 0 < (JsText.split '/' filenamePart).length := by
    rw [JsText.split, List.length_map]
    exact List.length_pos_iff.mpr (List.splitOn_ne_nil _ _)
  have long : ¬(folder :: id :: JsText.split '/' filenamePart).length < 3 := by
    simp only [List.length_cons]
    omega
  rw [parts, parseParts, if_neg long]
  simp only [List.getElem?_cons_succ, List.getElem?_cons_zero, Option.getD_some,
    List.drop_succ_cons, List.drop_zero, JsText.join_split]

/-- A path whose first segment is known is accepted exactly if an id and a file follow. -/
theorem parseParts_eq_ok (segment : '/' ∉ folder.toList) :
    parseParts key (JsText.split '/' (folder ++ "/" ++ rest)) tooShort missing =
        .ok (id, filename, ext) ↔
      IsFile id filename ext ∧ rest = id ++ "/" ++ filename := by
  by_cases inside : '/' ∈ rest.toList
  · rcases List.eq_append_cons_of_mem inside with ⟨front, back, text, absent⟩
    have made : rest = String.ofList front ++ "/" ++ String.ofList back := by
      apply String.toList_inj.mp
      simp [text]
    have frontSegment : '/' ∉ (String.ofList front).toList := by
      rwa [String.toList_ofList]
    rw [made, parseParts_of_segments segment frontSegment]
    constructor
    · intro parsed
      split at parsed
      case isTrue => cases parsed
      case isFalse present =>
          rcases Result.map_eq_ok.mp parsed with ⟨file, extracted, same⟩
          cases same
          rcases extractFilenameAndExt_eq_ok.mp extracted with ⟨made, plain⟩
          exact ⟨⟨present, frontSegment, plain, file.1, rfl⟩, by rw [made]⟩
    · rintro ⟨⟨present, idSegment, plain, name, rfl⟩, same⟩
      have texts := congrArg String.toList same
      simp only [String.toList_append, List.append_assoc] at texts
      rcases JsText.append_cons_inj frontSegment idSegment texts with ⟨sameId, sameFile⟩
      have file : String.ofList back = name ++ "." ++ ext := by
        apply String.toList_inj.mp
        rw [String.toList_append, String.toList_append, List.append_assoc]
        exact sameFile
      rw [String.toList_inj.mp sameId, if_neg present]
      apply Result.map_eq_ok.mpr
      exact ⟨(name, ext), extractFilenameAndExt_eq_ok.mpr ⟨file, plain⟩, rfl⟩
  · rw [parseParts_of_short segment inside]
    constructor
    · intro parsed
      cases parsed
    · rintro ⟨_, rfl⟩
      exact absurd (by simp) inside

end Segments

/-! ## Round trips -/

def ParsedStorageKey.type : ParsedStorageKey → StorageKeyType
  | .upload .. => .upload
  | .snapshot .. => .snapshot

def ParsedStorageKey.id : ParsedStorageKey → String
  | .upload _ _ uuid => uuid
  | .snapshot _ _ snapshotId => snapshotId

def ParsedStorageKey.filename : ParsedStorageKey → String
  | .upload filename .. => filename
  | .snapshot filename .. => filename

def ParsedStorageKey.ext : ParsedStorageKey → String
  | .upload _ ext _ => ext
  | .snapshot _ ext _ => ext

/-- The key that the parts were generated into. -/
def ParsedStorageKey.key (parsed : ParsedStorageKey) : String :=
  generateKey parsed.type parsed.id parsed.filename

/-- The first segment of the keys of a type. -/
def StorageKeyType.folder : StorageKeyType → String
  | .upload => "uploads"
  | .snapshot => "snapshots"

theorem StorageKeyType.folder_segment (type : StorageKeyType) : '/' ∉ type.folder.toList := by
  cases type <;> decide

theorem StorageKeyType.folder_injective {type other : StorageKeyType}
    (same : type.folder = other.folder) : type = other := by
  revert same
  cases type <;> cases other <;> decide

theorem ParsedStorageKey.key_eq (parsed : ParsedStorageKey) :
    parsed.key = parsed.type.folder ++ "/" ++ (parsed.id ++ "/" ++ parsed.filename) := by
  apply String.toList_inj.mp
  cases parsed <;>
    simp only [ParsedStorageKey.key, ParsedStorageKey.type, generateKey, StorageKeyType.folder,
      String.toList_append, List.append_assoc] <;> rfl

/-- The first segment tells paths apart. -/
theorem path_inj {type other : StorageKeyType} {rest others : String} :
    type.folder ++ "/" ++ rest = other.folder ++ "/" ++ others ↔ type = other ∧ rest = others := by
  constructor
  · intro same
    have texts := congrArg String.toList same
    simp only [String.toList_append, List.append_assoc] at texts
    rcases JsText.append_cons_inj type.folder_segment other.folder_segment texts with
      ⟨first, second⟩
    exact ⟨StorageKeyType.folder_injective (String.toList_inj.mp first),
      String.toList_inj.mp second⟩
  · rintro ⟨rfl, rfl⟩
    rfl

/-- A path is under no other folder. -/
theorem some_type_eq_iff {found type : StorageKeyType} {rest : String} :
    some found = some type ↔
      ∃ other, found.folder ++ "/" ++ rest = type.folder ++ "/" ++ other := by
  constructor
  · intro same
    cases same
    exact ⟨rest, rfl⟩
  · rintro ⟨other, same⟩
    rw [(path_inj.mp same).1]

theorem startsWith_iff {value initial : String} :
    startsWith value initial = true ↔ ∃ rest, value = initial ++ rest := by
  rw [startsWith, List.isPrefixOf_iff_prefix]
  constructor
  · rintro ⟨rest, same⟩
    exact ⟨String.ofList rest, String.toList_inj.mp (by simp [same])⟩
  · rintro ⟨rest, rfl⟩
    exact ⟨rest.toList, by simp⟩

theorem detectKeyType_eq_some {key : String} {type : StorageKeyType} :
    detectKeyType key = some type ↔ ∃ rest, key = type.folder ++ "/" ++ rest := by
  have first : startsWith key "uploads/" = true ↔
      ∃ rest, key = StorageKeyType.upload.folder ++ "/" ++ rest := startsWith_iff
  have second : startsWith key "snapshots/" = true ↔
      ∃ rest, key = StorageKeyType.snapshot.folder ++ "/" ++ rest := startsWith_iff
  rw [detectKeyType]
  by_cases upload : startsWith key "uploads/" = true
  · rw [if_pos upload]
    rcases first.mp upload with ⟨rest, rfl⟩
    exact some_type_eq_iff
  · rw [if_neg upload]
    by_cases snapshot : startsWith key "snapshots/" = true
    · rw [if_pos snapshot]
      rcases second.mp snapshot with ⟨rest, rfl⟩
      exact some_type_eq_iff
    · rw [if_neg snapshot]
      cases type with
      | upload => exact iff_of_false (by simp) (mt first.mpr upload)
      | snapshot => exact iff_of_false (by simp) (mt second.mpr snapshot)

/-- The parts of a path under a folder. -/
theorem parseStorageKey_path {type : StorageKeyType} {rest : String} {parsed : ParsedStorageKey} :
    parseStorageKey (type.folder ++ "/" ++ rest) = .ok parsed ↔
      IsFile parsed.id parsed.filename parsed.ext ∧
        type = parsed.type ∧ rest = parsed.id ++ "/" ++ parsed.filename := by
  rw [parseStorageKey, detectKeyType_eq_some.mpr ⟨rest, rfl⟩]
  cases type with
  | upload =>
      refine Result.map_eq_ok.trans ?_
      constructor
      · rintro ⟨⟨id, filename, ext⟩, found, rfl⟩
        rcases (parseParts_eq_ok StorageKeyType.upload.folder_segment).mp found with ⟨file, same⟩
        exact ⟨file, rfl, same⟩
      · rintro ⟨file, type, same⟩
        cases parsed with
        | upload filename ext uuid =>
            exact ⟨(uuid, filename, ext),
              (parseParts_eq_ok StorageKeyType.upload.folder_segment).mpr ⟨file, same⟩, rfl⟩
        | snapshot => cases type
  | snapshot =>
      refine Result.map_eq_ok.trans ?_
      constructor
      · rintro ⟨⟨id, filename, ext⟩, found, rfl⟩
        rcases (parseParts_eq_ok StorageKeyType.snapshot.folder_segment).mp found with ⟨file, same⟩
        exact ⟨file, rfl, same⟩
      · rintro ⟨file, type, same⟩
        cases parsed with
        | upload => cases type
        | snapshot filename ext snapshotId =>
            exact ⟨(snapshotId, filename, ext),
              (parseParts_eq_ok StorageKeyType.snapshot.folder_segment).mpr ⟨file, same⟩, rfl⟩

/-- The parts of a key are read from it exactly if the key is generated from them and they are an
id and a file. -/
theorem parseStorageKey_iff {key : String} {parsed : ParsedStorageKey} :
    parseStorageKey key = .ok parsed ↔
      IsFile parsed.id parsed.filename parsed.ext ∧ key = parsed.key := by
  cases detected : detectKeyType key with
  | none =>
      rw [parseStorageKey, detected]
      constructor
      · intro read
        cases read
      · rintro ⟨_, rfl⟩
        rw [detectKeyType_eq_some.mpr ⟨_, parsed.key_eq⟩] at detected
        cases detected
  | some type =>
      rcases detectKeyType_eq_some.mp detected with ⟨rest, rfl⟩
      rw [parseStorageKey_path, parsed.key_eq, path_inj]

/-- A filename ends in an extension exactly if there is a dot in it. -/
theorem exists_extension_iff {filename : String} :
    (∃ name ext, filename = name ++ "." ++ ext ∧ '.' ∉ ext.toList) ↔ '.' ∈ filename.toList := by
  constructor
  · rintro ⟨name, ext, rfl, _⟩
    simp
  · intro dotted
    rcases List.eq_append_cons_of_mem (List.mem_reverse.mpr dotted) with
      ⟨ext, name, reversed, plain⟩
    refine ⟨String.ofList name.reverse, String.ofList ext.reverse, ?_, by simpa using plain⟩
    apply String.toList_inj.mp
    rw [← List.reverse_reverse filename.toList, reversed]
    simp

/-- A generated key is parsed back into its parts exactly if the id is a segment and the filename
has an extension, and every key that is parsed was generated from its parts. -/
theorem parseStorageKey_generateKey :
    (∀ type id filename,
      (∃ parsed, parseStorageKey (generateKey type id filename) = .ok parsed ∧
        parsed.type = type ∧ parsed.id = id ∧ parsed.filename = filename) ↔
        id ≠ "" ∧ '/' ∉ id.toList ∧ '.' ∈ filename.toList) ∧
      ∀ key parsed, parseStorageKey key = .ok parsed →
        generateKey parsed.type parsed.id parsed.filename = key := by
  constructor
  · intro type id filename
    rw [← exists_extension_iff]
    constructor
    · rintro ⟨parsed, read, rfl, rfl, rfl⟩
      rcases (parseStorageKey_iff.mp read).1 with ⟨present, segment, plain, name, made⟩
      exact ⟨present, segment, name, parsed.ext, made, plain⟩
    · rintro ⟨present, segment, name, ext, made, plain⟩
      cases type with
      | upload =>
          exact ⟨.upload filename ext id,
            parseStorageKey_iff.mpr ⟨⟨present, segment, plain, name, made⟩, rfl⟩, rfl, rfl, rfl⟩
      | snapshot =>
          exact ⟨.snapshot filename ext id,
            parseStorageKey_iff.mpr ⟨⟨present, segment, plain, name, made⟩, rfl⟩, rfl, rfl, rfl⟩
  · intro key parsed read
    exact (parseStorageKey_iff.mp read).2.symm

/-! ## Deleted objects -/

section Deletion

variable {ν : Type} {before after : Installation ν} {key : String} {parsed : ParsedStorageKey}

theorem startsWith_uploadsPrefix_iff (read : parseStorageKey key = .ok parsed) :
    startsWith key uploadsPrefix = true ↔ parsed.type = .upload := by
  rcases parseStorageKey_iff.mp read with ⟨_, rfl⟩
  constructor
  · intro upload
    rcases startsWith_iff.mp upload with ⟨rest, same⟩
    rw [parsed.key_eq] at same
    have path : uploadsPrefix ++ rest = StorageKeyType.upload.folder ++ "/" ++ rest := rfl
    exact (path_inj.mp (same.trans path)).1
  · intro upload
    apply startsWith_iff.mpr
    rw [parsed.key_eq, upload]
    exact ⟨_, rfl⟩

/-- The prefix of a snapshot tells its keys from those of all others. -/
theorem startsWith_snapshotPrefix_iff {snapshot : SnapshotRow ν}
    (segment : '/' ∉ snapshot.id.toList) (read : parseStorageKey key = .ok parsed) :
    startsWith key (snapshotPrefix snapshot) = true ↔
      parsed.type = .snapshot ∧ parsed.id = snapshot.id := by
  rcases parseStorageKey_iff.mp read with ⟨⟨_, idSegment, _⟩, rfl⟩
  have path : ∀ rest, snapshotPrefix snapshot ++ rest =
      StorageKeyType.snapshot.folder ++ "/" ++ (snapshot.id ++ "/" ++ rest) := by
    intro rest
    apply String.toList_inj.mp
    simp only [snapshotPrefix, StorageKeyType.folder, String.toList_append, List.append_assoc]
    rfl
  rw [startsWith_iff, parsed.key_eq]
  simp only [path]
  constructor
  · rintro ⟨rest, same⟩
    rcases path_inj.mp same with ⟨type, behind⟩
    have texts := congrArg String.toList behind
    simp only [String.toList_append, List.append_assoc] at texts
    exact ⟨type, String.toList_inj.mp (JsText.append_cons_inj idSegment segment texts).1⟩
  · rintro ⟨type, id⟩
    rw [type, id]
    exact ⟨_, rfl⟩

theorem usedBy_upload {presetId : String} (used : before.UsedBy presetId key) :
    startsWith key uploadsPrefix = true := by
  rcases used with ⟨_, _, _, references⟩ | ⟨_, _, _, references⟩
  · exact references.upload
  · exact references.upload

/-- What the deletion of a snapshot leaves in the storage. -/
theorem storage_deleteById {id : String}
    (deleted : SnapshotService.deleteById before id = .ok after) :
    ∃ snapshot ∈ before.snapshots, snapshot.id = id ∧
      after.storage = before.storage.deleteObjects
        ((before.storage.listObjectsByPrefix (snapshotPrefix snapshot)).getD []) := by
  rw [SnapshotService.deleteById] at deleted
  cases found : before.snapshots.find? id with
  | none =>
      rw [found] at deleted
      cases deleted
  | some snapshot =>
      rw [found] at deleted
      cases deleted
      rcases Table.find?_eq_some_iff.mp found with ⟨member, own⟩
      refine ⟨snapshot, member, own, ?_⟩
      have nothing : before.storage.deleteObjects [] = before.storage := by
        simp [ObjectStorage.deleteObjects]
      rw [SnapshotService.deleteS3Objects]
      cases listed : before.storage.listObjectsByPrefix (snapshotPrefix snapshot) with
      | none => exact nothing.symm
      | some keysToDelete =>
          rw [Option.getD_some]
          dsimp only
          split
          · rfl
          · rename_i none
            rw [List.eq_nil_of_length_eq_zero (Nat.eq_zero_of_not_pos none)]
            exact nothing.symm

/-- Of the objects whose keys can be parsed, the deletion of a preset removes the uploads that it
uses and the outputs of its snapshots, and the deletion of a snapshot its own outputs. -/
theorem deletion_removes_iff (segments : ∀ snapshot ∈ before.snapshots, '/' ∉ snapshot.id.toList)
    (read : parseStorageKey key = .ok parsed) :
    (∀ presetId after, AlgorithmPresetService.deleteById before presetId = .ok after →
      (before.Removed after key ↔
        key ∈ before.storage.objects ∧ before.storage.deletes key ∧
          (parsed.type = .upload ∧ before.UsedBy presetId key ∨
            parsed.type = .snapshot ∧ ∃ snapshot ∈ before.snapshots,
              snapshot.algorithmPresetId = presetId ∧ parsed.id = snapshot.id ∧
                before.storage.lists (snapshotPrefix snapshot)))) ∧
      ∀ id after, SnapshotService.deleteById before id = .ok after →
        (before.Removed after key ↔
          key ∈ before.storage.objects ∧ before.storage.deletes key ∧
            parsed.type = .snapshot ∧ ∃ snapshot ∈ before.snapshots,
              snapshot.id = id ∧ parsed.id = id ∧
                before.storage.lists (snapshotPrefix snapshot)) := by
  constructor
  · intro presetId after deleted
    rw [AlgorithmPresetService.removed_iff deleted]
    apply and_congr_right
    intro _
    apply and_congr_right
    intro _
    apply or_congr
    · constructor
      · exact fun used => ⟨(startsWith_uploadsPrefix_iff read).mp (usedBy_upload used), used⟩
      · exact And.right
    · constructor
      · rintro ⟨snapshot, member, own, lists, starts⟩
        rcases (startsWith_snapshotPrefix_iff (segments snapshot member) read).mp starts with
          ⟨type, id⟩
        exact ⟨type, snapshot, member, own, id, lists⟩
      · rintro ⟨type, snapshot, member, own, id, lists⟩
        exact ⟨snapshot, member, own, lists,
          (startsWith_snapshotPrefix_iff (segments snapshot member) read).mpr ⟨type, id⟩⟩
  · intro id after deleted
    rcases storage_deleteById deleted with ⟨snapshot, member, own, stored⟩
    rw [Installation.Removed, stored, mem_deleteObjects, mem_listObjectsByPrefix]
    apply and_congr_right
    intro present
    constructor
    · intro removed
      rcases not_not.mp fun kept => removed ⟨present, kept⟩ with ⟨⟨lists, _, starts⟩, deletes⟩
      rcases (startsWith_snapshotPrefix_iff (segments snapshot member) read).mp starts with
        ⟨type, same⟩
      exact ⟨deletes, type, snapshot, member, own, same.trans own, lists⟩
    · rintro ⟨deletes, type, other, otherMember, otherOwn, same, lists⟩
      have equal := Table.eq_of_key_eq otherMember member (otherOwn.trans own.symm)
      subst equal
      have starts := (startsWith_snapshotPrefix_iff (segments other member) read).mpr
        ⟨type, same.trans own.symm⟩
      exact fun kept => kept.2 ⟨⟨lists, present, starts⟩, deletes⟩

private def neighbours : Installation Rat where
  presets := .empty
  snapshots :=
    { rows := [⟨"s1", "p1", .completed, none, none⟩]
      keys_nodup := by decide }
  storage := ⟨["snapshots/s1/scores.csv", "snapshots/s12/scores.csv"], fun _ => true, fun _ => true⟩
  terminated := []

/-- The outputs of a snapshot whose id begins with that of a deleted one stay. -/
theorem deletion_removes_iff_neighbours :
    ∃ after, SnapshotService.deleteById neighbours "s1" = .ok after ∧
      neighbours.Removed after "snapshots/s1/scores.csv" ∧
      ¬neighbours.Removed after "snapshots/s12/scores.csv" := by
  have segments : ∀ snapshot ∈ neighbours.snapshots, '/' ∉ snapshot.id.toList := by
    intro snapshot member
    cases List.mem_singleton.mp member
    decide
  have own :
      parseStorageKey "snapshots/s1/scores.csv" = .ok (.snapshot "scores.csv" "csv" "s1") := by
    decide
  have other :
      parseStorageKey "snapshots/s12/scores.csv" = .ok (.snapshot "scores.csv" "csv" "s12") := by
    decide
  refine ⟨_, rfl, ?_, ?_⟩
  · exact ((deletion_removes_iff segments own).2 "s1" _ rfl).mpr
      ⟨List.mem_cons_self, rfl, rfl, _, List.mem_cons_self, rfl, rfl, rfl⟩
  · intro removed
    rcases ((deletion_removes_iff segments other).2 "s1" _ rfl).mp removed with
      ⟨_, _, _, _, _, _, same, _⟩
    exact absurd same (by decide)

end Deletion

end Reputo.Storage

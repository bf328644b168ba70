import Reputo.AlgorithmRegistry.Generator

/-!
# Faithfulness of the generated registry

The generated module is loaded exactly where its names are different identifiers, and it is then
faithful exactly where the order of the code agrees with precedence.
-/

namespace Reputo.AlgorithmRegistry

open Reputo.Library Reputo.Library.SemVer

section Keys

variable {key : String} (valid : (validateKey key).isValid = true)
include valid

theorem matchesKey_of_valid : matchesKey key = true := by
  rw [validateKey, resultOf, List.isEmpty_iff, List.append_eq_nil_iff] at valid
  cases accepted : matchesKey key with
  | false =>
      rw [accepted] at valid
      exact absurd valid.2 (List.cons_ne_nil _ _)
  | true => rfl

theorem isKeyCharacter_of_mem {character : Char} (member : character ∈ key.toList) :
    isKeyCharacter character = true := by
  have matched := matchesKey_of_valid valid
  rw [matchesKey, Bool.and_eq_true] at matched
  exact List.all_eq_true.mp matched.2 character member

theorem not_mem_of_not_isKeyCharacter {character : Char}
    (other : isKeyCharacter character = false) : character ∉ key.toList := by
  intro member
  rw [isKeyCharacter_of_mem valid member] at other
  cases other

end Keys

/-! ## Entries -/

section Entries

variable (index : RegistryIndex)

theorem mem_sortedAlgorithms {algorithm : String × List Version} :
    algorithm ∈ index.sortedAlgorithms ↔ algorithm ∈ index.algorithms :=
  RowOrder.mem_orderBy _

theorem mem_entries {entry : Entry} : entry ∈ index.entries ↔
    ∃ versions, (entry.1, versions) ∈ index.algorithms ∧ entry.2 ∈ versions := by
  rw [RegistryIndex.entries, List.mem_flatMap]
  constructor
  · rintro ⟨⟨key, versions⟩, member, listed⟩
    rcases List.mem_map.mp listed with ⟨version, among, rfl⟩
    exact ⟨versions, (mem_sortedAlgorithms index).mp member, among⟩
  · rintro ⟨versions, member, among⟩
    exact ⟨(entry.1, versions), (mem_sortedAlgorithms index).mpr member,
      List.mem_map.mpr ⟨entry.2, among, rfl⟩⟩

theorem sortedKeys_nodup : (index.sortedAlgorithms.map Prod.fst).Nodup :=
  ((RowOrder.perm_orderBy _ _).map Prod.fst).nodup_iff.mpr index.keysDiffer

theorem entries_nodup : index.entries.Nodup := by
  rw [RegistryIndex.entries, List.nodup_flatMap]
  constructor
  · intro algorithm member
    exact (index.versionsDiffer algorithm ((mem_sortedAlgorithms index).mp member)).map
      fun one other same => (Prod.ext_iff.mp same).2
  · have keys := List.pairwise_map.mp (sortedKeys_nodup index)
    apply keys.imp
    intro one other apart entry first second
    rcases List.mem_map.mp first with ⟨version, _, rfl⟩
    rcases List.mem_map.mp second with ⟨version', _, same⟩
    exact apart (Prod.ext_iff.mp same).1.symm

theorem keyValid {entry : Entry} (member : entry ∈ index.entries) :
    (validateKey entry.1).isValid = true := by
  rcases (mem_entries index).mp member with ⟨versions, listed, _⟩
  exact index.keysValid (entry.1, versions) listed

/-! ## Names of imports -/

/-- Dots and dashes are read as underscores. -/
def blur (character : Char) : Char :=
  if character == '.' || character == '-' then '_' else character

theorem blur_eq_iff {one other : Char} : blur one = blur other ↔
    one = other ∨ (isSeparator one = true ∧ isSeparator other = true) := by
  simp only [blur, isSeparator, Bool.or_eq_true, beq_iff_eq]
  by_cases first : one = '.' ∨ one = '-' <;> by_cases second : other = '.' ∨ other = '-'
  · simp [first, second]
  · rw [if_pos first, if_neg second]
    constructor
    · intro same
      exact .inr ⟨.inl first, .inr same.symm⟩
    · rintro (same | ⟨_, (dotted | same)⟩)
      · exact absurd (same ▸ first) second
      · exact absurd dotted second
      · exact same.symm
  · rw [if_neg first, if_pos second]
    constructor
    · intro same
      exact .inr ⟨.inr same, .inl second⟩
    · rintro (same | ⟨(dotted | same), _⟩)
      · exact absurd (same ▸ second) first
      · exact absurd dotted first
      · exact same
  · rw [if_neg first, if_neg second]
    constructor
    · exact .inl
    · rintro (same | ⟨(dotted | same), (dotted' | same')⟩)
      · exact same
      · exact absurd dotted first
      · exact absurd dotted first
      · exact absurd dotted' second
      · exact same.trans same'.symm

theorem map_blur_eq_iff {text other : List Char} : text.map blur = other.map blur ↔
    List.Forall₂ (fun one another => one = another ∨
      (isSeparator one = true ∧ isSeparator another = true)) text other := by
  have agree : ∀ {text other : List Char}, text.map blur = other.map blur ↔
      List.Forall₂ (fun one another => blur one = blur another) text other := by
    intro text other
    rw [← List.forall₂_eq_eq_eq, List.forall₂_map_left_iff, List.forall₂_map_right_iff]
  rw [agree]
  constructor
  · exact fun same => same.imp fun _ _ => blur_eq_iff.mp
  · exact fun alike => alike.imp fun _ _ => blur_eq_iff.mpr

theorem blur_of_isAlphanum {character : Char} (alphanum : character.isAlphanum = true) :
    blur character = character := by
  have other : ¬(character == '.' || character == '-') = true := by
    rw [Bool.or_eq_true, beq_iff_eq, beq_iff_eq]
    rintro (same | same)
    · rw [same] at alphanum
      exact absurd alphanum (by decide)
    · rw [same] at alphanum
      exact absurd alphanum (by decide)
  rw [blur, if_neg other]

theorem isAlphanum_or_of_isKeyCharacter {character : Char}
    (valid : isKeyCharacter character = true) :
    character.isAlphanum = true ∨ character = '_' := by
  simp only [isKeyCharacter, Bool.or_eq_true, beq_iff_eq] at valid
  rcases valid with (lower | digit) | underscore
  · exact .inl (Bool.or_eq_true_iff.mpr (.inl (Bool.or_eq_true_iff.mpr (.inr lower))))
  · exact .inl (Bool.or_eq_true_iff.mpr (.inr digit))
  · exact .inr underscore

theorem toList_generateImportName {entry : Entry} (valid : (validateKey entry.1).isValid = true) :
    (generateImportName entry).toList =
      '_' :: (entry.1 ++ "_" ++ entry.2.text).toList.map blur := by
  have key : ∀ character ∈ entry.1.toList,
      (if !character.isAlphanum then '_' else character) = blur character := by
    intro character member
    rcases isAlphanum_or_of_isKeyCharacter (isKeyCharacter_of_mem valid member) with
      alphanum | underscore
    · rw [alphanum, blur_of_isAlphanum alphanum]
      rfl
    · rw [underscore]
      rfl
  have sign : "_".toList = ['_'] := rfl
  simp only [generateImportName, replaceWhere, String.toList_append, String.toList_ofList,
    List.map_append, sign]
  rw [List.map_congr_left key]
  rfl

/-- Names are the same exactly where entries look alike. -/
theorem generateImportName_eq_iff {entry other : Entry}
    (valid : (validateKey entry.1).isValid = true) (valid' : (validateKey other.1).isValid = true) :
    generateImportName entry = generateImportName other ↔
      LookAlike (entry.1 ++ "_" ++ entry.2.text) (other.1 ++ "_" ++ other.2.text) := by
  rw [← String.toList_inj, toList_generateImportName valid, toList_generateImportName valid',
    List.cons_inj_right, map_blur_eq_iff, LookAlike]

theorem version_characters (version : Version) : OfVersion version.text.toList :=
  ofVersion_of_matchVersion (Option.some_get version.matches).symm

/-- A character that a name may have after its first one. -/
def isIdentifierPart (character : Char) : Bool :=
  isIdentifierStart character || character.isDigit

theorem isIdentifierPart_of_isAlphanum {character : Char}
    (alphanum : character.isAlphanum = true) : isIdentifierPart character = true := by
  rcases Bool.or_eq_true_iff.mp alphanum with alpha | digit
  · simp [isIdentifierPart, isIdentifierStart, alpha]
  · simp [isIdentifierPart, digit]

theorem isIdentifierPart_blur {character : Char}
    (listed : isIdentifierCharacter character = true ∨ character = '_') :
    isIdentifierPart (blur character) = true := by
  rcases listed with listed | underscore
  · simp only [isIdentifierCharacter, Bool.or_eq_true, beq_iff_eq] at listed
    rcases listed with (alphanum | dash) | dot
    · rw [blur_of_isAlphanum alphanum]
      exact isIdentifierPart_of_isAlphanum alphanum
    · rw [dash]
      rfl
    · rw [dot]
      rfl
  · rw [underscore]
    rfl

/-- Names are identifiers exactly where the version has no build metadata. -/
theorem isIdentifier_generateImportName {entry : Entry}
    (valid : (validateKey entry.1).isValid = true) :
    isIdentifier (generateImportName entry) = true ↔ '+' ∉ entry.2.text.toList := by
  have start : ('_' :: (entry.1 ++ "_" ++ entry.2.text).toList.map blur).head?.any
      isIdentifierStart = true := rfl
  rw [isIdentifier, toList_generateImportName valid, start, Bool.true_and, List.all_eq_true]
  constructor
  · intro all plus
    have listed : '+' ∈ '_' :: (entry.1 ++ "_" ++ entry.2.text).toList.map blur := by
      refine List.mem_cons_of_mem _ (List.mem_map.mpr ⟨'+', ?_, rfl⟩)
      rw [String.toList_append]
      exact List.mem_append_right _ plus
    exact absurd (all '+' listed) (by decide)
  · intro noBuild character member
    rcases List.mem_cons.mp member with same | later
    · rw [same]
      rfl
    · rcases List.mem_map.mp later with ⟨source, among, rfl⟩
      apply isIdentifierPart_blur
      rw [String.toList_append, String.toList_append] at among
      rcases List.mem_append.mp among with front | version
      · rcases List.mem_append.mp front with key | sign
        · rcases isAlphanum_or_of_isKeyCharacter (isKeyCharacter_of_mem valid key) with
            alphanum | underscore
          · exact .inl (by simp [isIdentifierCharacter, alphanum])
          · exact .inr underscore
        · exact .inr (List.mem_singleton.mp sign)
      · rcases version_characters entry.2 source version with listed | plus
        · exact .inl listed
        · exact absurd (plus ▸ version) noBuild

/-! ## Files and definitions -/

/-- A text of a key, a sign and more determines the key and the rest. -/
theorem keyed_inj {key other rest rest' : String} {sign : Char}
    (valid : (validateKey key).isValid = true) (valid' : (validateKey other).isValid = true)
    (outside : isKeyCharacter sign = false)
    (same : key.toList ++ sign :: rest.toList = other.toList ++ sign :: rest'.toList) :
    key = other ∧ rest = rest' := by
  rcases JsText.append_cons_inj (not_mem_of_not_isKeyCharacter valid outside)
    (not_mem_of_not_isKeyCharacter valid' outside) same with ⟨keys, rests⟩
  exact ⟨String.toList_injective keys, String.toList_injective rests⟩

theorem text_injective : Function.Injective Version.text := by
  rintro ⟨text, valid⟩ ⟨text', valid'⟩ same
  cases same
  rfl

theorem entry_ext {entry other : Entry} (keys : entry.1 = other.1)
    (texts : entry.2.text = other.2.text) : entry = other :=
  Prod.ext keys (text_injective texts)

theorem relativePath_inj {entry other : Entry} (valid : (validateKey entry.1).isValid = true)
    (valid' : (validateKey other.1).isValid = true)
    (same : relativePath entry = relativePath other) : entry = other := by
  have characters := congrArg String.toList same
  have slash : "/".toList = ['/'] := rfl
  simp only [relativePath, String.toList_append, slash] at characters
  have inner := List.append_cancel_right characters
  rw [List.append_assoc, List.append_assoc, List.append_assoc, List.append_assoc] at inner
  rcases keyed_inj valid valid' (by decide) (List.append_cancel_left inner) with ⟨keys, texts⟩
  exact entry_ext keys texts

theorem definitionKey_inj {entry other : Entry} (valid : (validateKey entry.1).isValid = true)
    (valid' : (validateKey other.1).isValid = true)
    (same : definitionKey entry.1 entry.2.text = definitionKey other.1 other.2.text) :
    entry = other := by
  have characters := congrArg String.toList same
  have sign : "@".toList = ['@'] := rfl
  simp only [definitionKey, String.toList_append, sign, List.append_assoc] at characters
  rcases keyed_inj valid valid' (by decide) characters with ⟨keys, texts⟩
  exact entry_ext keys texts

variable {D : Type} (directory : RegistryDirectory D)

/-- The path of an entry is that of its file. -/
theorem file_relativePath {entry : Entry} (member : entry ∈ directory.index.entries) :
    directory.file (relativePath entry) = some (directory.definition entry) := by
  have only : ∀ other ∈ directory.index.entries,
      relativePath other = relativePath entry → other = entry := fun other listed =>
    relativePath_inj (keyValid directory.index listed) (keyValid directory.index member)
  cases found : directory.index.entries.find? fun other => relativePath other = relativePath entry
    with
  | none =>
      have none_ := List.find?_eq_none.mp found entry member
      exact absurd (decide_eq_true rfl) none_
  | some other =>
      have same : relativePath other = relativePath entry := by
        simpa using List.find?_some found
      rw [RegistryDirectory.file, found, only other (List.mem_of_find?_eq_some found) same]
      rfl

theorem mapM_eq_some {α β : Type} {items : List α} {read : α → Option β} {result : α → β}
    (reads : ∀ item ∈ items, read item = some (result item)) :
    items.mapM read = some (items.map result) := by
  induction items with
  | nil => rfl
  | cons item rest ih =>
      rw [List.mapM_cons, reads item List.mem_cons_self,
        ih fun other member => reads other (List.mem_cons_of_mem _ member)]
      rfl

/-- Under different identifiers all files are imported and defined. -/
theorem load_generated
    (identifiers : ∀ line ∈ (generateRegistryIndex directory.index).imports,
      isIdentifier line.importName = true)
    (distinct : ((generateRegistryIndex directory.index).imports.map (·.importName)).Nodup) :
    (generateRegistryIndex directory.index).load directory.file =
      some ⟨.ofPairs (generateRegistryIndex directory.index).index,
        .ofPairs (directory.index.entries.map fun entry =>
          (definitionKey entry.1 entry.2.text, directory.definition entry))⟩ := by
  have names : (directory.index.entries.map fun entry =>
      (generateImportName entry, directory.definition entry)).map Prod.fst =
      (generateRegistryIndex directory.index).imports.map (·.importName) := by
    rw [generateRegistryIndex, List.map_map, List.map_map]
    rfl
  have bindings : ((generateRegistryIndex directory.index).imports.mapM fun line =>
      (directory.file line.path).map (line.importName, ·)) =
      some (directory.index.entries.map fun entry =>
        (generateImportName entry, directory.definition entry)) := by
    rw [generateRegistryIndex, List.mapM_map]
    apply mapM_eq_some
    intro entry member
    exact congrArg (Option.map _) (file_relativePath directory member)
  have definitions : ((generateRegistryIndex directory.index).imports.mapM fun line =>
      ((directory.index.entries.map fun entry =>
        (generateImportName entry, directory.definition entry)).lookup line.importName).map
          (line.definitionKey, ·)) =
      some (directory.index.entries.map fun entry =>
        (definitionKey entry.1 entry.2.text, directory.definition entry)) := by
    rw [generateRegistryIndex, List.mapM_map]
    apply mapM_eq_some
    intro entry member
    have listed : (generateImportName entry, directory.definition entry) ∈
        directory.index.entries.map fun entry =>
          (generateImportName entry, directory.definition entry) :=
      List.mem_map.mpr ⟨entry, member, rfl⟩
    have found := OrderedMap.get?_of_mem_entries ⟨_, names.symm ▸ distinct⟩ listed
    exact congrArg (Option.map _) found
  rw [RegistryModule.load, if_pos ⟨identifiers, distinct⟩, bindings, Option.bind_some, definitions]
  rfl

/-! ## Sorted versions -/

theorem le_textRank_iff (lower higher : Version) :
    semVerOrder.le lower higher = true ↔ lower.textRank ≤ higher.textRank := by
  rw [← compareSemVer_ne_gt_iff, semVerOrder, bne_iff_ne]

/-- Sorted versions respect precedence exactly where ranks and the listing do. -/
theorem sorted_iff {versions : List Version} (nodup : versions.Nodup) :
    ((semVerOrder.orderBy versions).Pairwise fun earlier later =>
        earlier.precedence ≤ later.precedence) ↔
      ∀ lower ∈ versions, ∀ higher ∈ versions, lower.precedence < higher.precedence →
        lower.textRank < higher.textRank ∨
          (lower.textRank = higher.textRank ∧ [lower, higher].Sublist versions) := by
  have respected := semVerOrder.pairwise_orderBy_iff_of_nodup
    (fun lower higher : Version => lower.precedence < higher.precedence) nodup
    fun version _ => lt_irrefl version.precedence
  simp only [not_lt] at respected
  rw [respected]
  refine forall₂_congr fun lower _ => forall₂_congr fun higher _ => imp_congr_right fun _ => ?_
  rw [le_textRank_iff, le_textRank_iff]
  constructor
  · rintro ⟨before, tied⟩
    rcases lt_or_eq_of_le before with strict | same
    · exact .inl strict
    · exact .inr ⟨same, tied same.ge⟩
  · rintro (strict | ⟨same, listed⟩)
    · exact ⟨strict.le, fun back => absurd back (not_le.mpr strict)⟩
    · exact ⟨same.le, fun _ => listed⟩

theorem matchVersion_latest : matchVersion "latest" = none := by decide +kernel

theorem text_ne_latest (version : Version) : version.text ≠ "latest" := by
  intro same
  have matched := version.matches
  rw [same, matchVersion_latest] at matched
  cases matched

theorem matchVersion_empty : matchVersion "" = none := by decide +kernel

theorem text_ne_empty (version : Version) : version.text ≠ "" := by
  intro same
  have matched := version.matches
  rw [same, matchVersion_empty] at matched
  cases matched

/-- The last one of versions by precedence is a greatest one. -/
theorem getLast_greatest {sorted : List Version} (nonempty : sorted ≠ [])
    (ordered : sorted.Pairwise fun earlier later => earlier.precedence ≤ later.precedence) :
    ∀ version ∈ sorted, version.precedence ≤ (sorted.getLast nonempty).precedence := by
  intro version member
  rw [← List.dropLast_append_getLast nonempty] at ordered member
  rcases List.mem_append.mp member with before | last
  · exact (List.pairwise_append.mp ordered).2.2 version before _ (List.mem_singleton.mpr rfl)
  · rw [List.mem_singleton.mp last]

/-! ## The loaded module -/

theorem identifiers_iff : (∀ line ∈ (generateRegistryIndex directory.index).imports,
      isIdentifier line.importName = true) ↔
    ∀ entry ∈ directory.index.entries, '+' ∉ entry.2.text.toList := by
  rw [generateRegistryIndex, List.forall_mem_map]
  exact forall₂_congr fun entry member =>
    isIdentifier_generateImportName (keyValid directory.index member)

theorem distinct_iff : ((generateRegistryIndex directory.index).imports.map (·.importName)).Nodup ↔
    directory.index.entries.Pairwise fun entry other =>
      ¬LookAlike (entry.1 ++ "_" ++ entry.2.text) (other.1 ++ "_" ++ other.2.text) := by
  rw [generateRegistryIndex, List.map_map, List.Nodup, List.pairwise_map]
  constructor
  · exact fun apart => apart.imp_of_mem fun member member' differ =>
      (generateImportName_eq_iff (keyValid directory.index member)
        (keyValid directory.index member')).not.mp differ
  · exact fun apart => apart.imp_of_mem fun member member' differ =>
      (generateImportName_eq_iff (keyValid directory.index member)
        (keyValid directory.index member')).not.mpr differ

/-- The module that is loaded under different identifiers. -/
def loadedModule : LoadedModule D where
  REGISTRY_INDEX := .ofPairs (generateRegistryIndex directory.index).index
  DEFINITIONS := .ofPairs (directory.index.entries.map fun entry =>
    (definitionKey entry.1 entry.2.text, directory.definition entry))

theorem get?_definitions {entry : Entry} (member : entry ∈ directory.index.entries) :
    (loadedModule directory).DEFINITIONS.get? (definitionKey entry.1 entry.2.text) =
      some (directory.definition entry) := by
  have nodup : ((directory.index.entries.map fun entry =>
      (definitionKey entry.1 entry.2.text, directory.definition entry)).map Prod.fst).Nodup := by
    rw [List.map_map]
    exact (entries_nodup directory.index).map_on fun one first other second same =>
      definitionKey_inj (keyValid directory.index first) (keyValid directory.index second) same
  rw [loadedModule, OrderedMap.get?_ofPairs_of_nodup nodup]
  exact List.mem_map.mpr ⟨entry, member, rfl⟩

theorem get?_registryIndex {algorithm : String × List Version}
    (member : algorithm ∈ directory.index.algorithms) :
    (loadedModule directory).REGISTRY_INDEX.get? algorithm.1 =
      some ((semVerOrder.orderBy algorithm.2).map (·.text)) := by
  have nodup : ((generateRegistryIndex directory.index).index.map Prod.fst).Nodup := by
    rw [generateRegistryIndex, List.map_map]
    exact sortedKeys_nodup directory.index
  rw [loadedModule, OrderedMap.get?_ofPairs_of_nodup nodup]
  exact List.mem_map.mpr ⟨algorithm, (mem_sortedAlgorithms directory.index).mpr member, rfl⟩

theorem orderBy_ne_nil {algorithm : String × List Version}
    (member : algorithm ∈ directory.index.algorithms) : semVerOrder.orderBy algorithm.2 ≠ [] := by
  intro empty
  have perm := semVerOrder.perm_orderBy algorithm.2
  rw [empty] at perm
  exact directory.index.versioned algorithm member perm.nil_eq.symm

/-- The latest version of a key is the last one in the order of the code. -/
theorem getAlgorithmDefinition_latest {algorithm : String × List Version}
    (member : algorithm ∈ directory.index.algorithms) :
    (loadedModule directory).getAlgorithmDefinition algorithm.1 "latest" =
      .ok (directory.definition (algorithm.1,
        (semVerOrder.orderBy algorithm.2).getLast (orderBy_ne_nil directory member))) := by
  have nonempty := orderBy_ne_nil directory member
  have listed := List.getLast_mem nonempty
  have last : ((semVerOrder.orderBy algorithm.2).map (·.text)).getLast? =
      some ((semVerOrder.orderBy algorithm.2).getLast nonempty).text := by
    rw [List.getLast?_map, List.getLast?_eq_some_getLast nonempty]
    rfl
  have entry : (algorithm.1, (semVerOrder.orderBy algorithm.2).getLast nonempty) ∈
      directory.index.entries :=
    (mem_entries directory.index).mpr ⟨algorithm.2, member, semVerOrder.mem_orderBy.mp listed⟩
  have truthy : JsText.truthyText
      (some ((semVerOrder.orderBy algorithm.2).getLast nonempty).text) =
        some ((semVerOrder.orderBy algorithm.2).getLast nonempty).text := by
    rw [JsText.truthyText, Option.filter_some, if_pos]
    exact decide_eq_true (text_ne_empty _)
  have resolved : (loadedModule directory).resolveVersion algorithm.1 "latest" =
      .ok ((semVerOrder.orderBy algorithm.2).getLast nonempty).text := by
    rw [LoadedModule.resolveVersion, get?_registryIndex directory member]
    simp only [if_true, last, truthy]
    rw [if_pos (List.mem_map.mpr ⟨_, listed, rfl⟩)]
  rw [LoadedModule.getAlgorithmDefinition, resolved]
  simp only [bind, Except.bind, get?_definitions directory entry]

end Entries

theorem unambiguous_of_generated {D : Type} {directory : RegistryDirectory D}
    (generated : GeneratedFaithfully directory) : Unambiguous directory.index := by
  rcases generated with ⟨identifiers, distinct, module, loaded, faithful⟩
  rw [load_generated directory identifiers distinct] at loaded
  cases loaded
  refine ⟨(identifiers_iff directory).mp identifiers, (distinct_iff directory).mp distinct, ?_⟩
  intro algorithm member
  apply (sorted_iff (directory.index.versionsDiffer algorithm member)).mp
  rcases faithful.listed algorithm member with ⟨sorted, stored, _, ordered⟩
  have same := (get?_registryIndex directory member).symm.trans stored
  -- Versions are determined by their texts.
  rwa [List.map_injective_iff.mpr text_injective (Option.some.inj same)]

theorem generated_of_unambiguous {D : Type} {directory : RegistryDirectory D}
    (unambiguous : Unambiguous directory.index) : GeneratedFaithfully directory := by
  rcases unambiguous with ⟨noBuild, apart, ordered⟩
  have identifiers := (identifiers_iff directory).mpr noBuild
  have distinct := (distinct_iff directory).mpr apart
  refine ⟨identifiers, distinct, loadedModule directory,
    load_generated directory identifiers distinct, ?_, ?_, ?_⟩
  · exact fun entry member => get?_definitions directory member
  · intro algorithm member
    exact ⟨semVerOrder.orderBy algorithm.2, get?_registryIndex directory member,
      semVerOrder.perm_orderBy algorithm.2,
      (sorted_iff (directory.index.versionsDiffer algorithm member)).mpr
        (ordered algorithm member)⟩
  · intro algorithm member
    have nonempty := orderBy_ne_nil directory member
    have sorted := (sorted_iff (directory.index.versionsDiffer algorithm member)).mpr
      (ordered algorithm member)
    refine ⟨_, semVerOrder.mem_orderBy.mp (List.getLast_mem nonempty), ?_,
      getAlgorithmDefinition_latest directory member⟩
    intro version among
    exact getLast_greatest nonempty sorted version (semVerOrder.mem_orderBy.mpr among)

/-- The generated module is faithful exactly where names and precedence are unambiguous. -/
theorem generatedFaithfully_iff {D : Type} (directory : RegistryDirectory D) :
    GeneratedFaithfully directory ↔ Unambiguous directory.index :=
  ⟨unambiguous_of_generated, generated_of_unambiguous⟩

/-! ## Two numbered prereleases -/

def ninthAlpha : Version := ⟨"1.0.0-alpha.9", by decide +kernel⟩

def tenthAlpha : Version := ⟨"1.0.0-alpha.10", by decide +kernel⟩

/-- A key with the ninth and the tenth prerelease of a version. -/
def alphaDirectory : RegistryDirectory String where
  index :=
    { algorithms := [("voting_engagement", [ninthAlpha, tenthAlpha])]
      keysDiffer := by decide +kernel
      keysValid := by decide +kernel
      versionsDiffer := by decide +kernel
      versioned := by decide +kernel }
  definition entry := entry.2.text

/-- The ninth prerelease stays the latest one. -/
theorem latest_is_ninthAlpha : ¬GeneratedFaithfully alphaDirectory ∧
    ((generateRegistryIndex alphaDirectory.index).load alphaDirectory.file).map
      (·.getAlgorithmDefinition "voting_engagement" "latest") = some (.ok "1.0.0-alpha.9") := by
  constructor
  · intro generated
    have ordered := (unambiguous_of_generated generated).ordered
      ("voting_engagement", [ninthAlpha, tenthAlpha]) List.mem_cons_self ninthAlpha
      List.mem_cons_self tenthAlpha (List.mem_cons_of_mem _ List.mem_cons_self) (by decide +kernel)
    exact absurd ordered (by decide +kernel)
  · decide +kernel

end Reputo.AlgorithmRegistry

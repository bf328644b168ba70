import Reputo.Orchestrator.SyncTargets

/-!
# Whether everything queried was synced

Both sides reduce the selected catalog entries to the first of every token, the
computation after it dropped the entries whose contract came before.  They agree
exactly when the first spellings they meet are the same.
-/

namespace Reputo.Orchestrator

open Reputo.Library Reputo.TokenValue

variable {ν : Type} (toLowerCase : String → String)

/-! ## Selected entries -/

/-- The token of a catalog entry as both sides spell it. -/
def spelling (entry : ResourceCatalogEntry) : SyncTarget := ⟨entry.chain, entry.tokenIdentifier⟩

/-- The token that is queried for a resource. -/
def queriedToken (resource : ResolvedResource) : SyncTarget :=
  ⟨resource.chain, resource.tokenIdentifier⟩

/-- The entries that a selection picks from a catalog, in order. -/
def selectedEntries (selected : List SelectedResourceInput) (catalog : List ResourceCatalogEntry) :
    List ResourceCatalogEntry :=
  selected.flatMap fun sel =>
    catalog.filter fun entry => entry.chain = sel.chain && entry.key = sel.resourceKey

/-- The entries whose contract or token address no earlier one has. -/
def unshadowed (entries : List ResourceCatalogEntry) : List ResourceCatalogEntry :=
  distinctBy (fun entry => entry.chain ++ ":" ++ toLowerCase entry.identifier) entries

/-- The selection in the inputs of a preset. -/
def selection (inputs : List (PresetInput ν)) : List SelectedResourceInput :=
  (((findValue inputs "selected_resources").bind Json.asArray).getD []).filterMap
    asSelectedResource

theorem selectedEntries_nil (selected : List SelectedResourceInput) :
    selectedEntries selected [] = [] := by
  induction selected with
  | nil => rfl
  | cons sel rest ih => exact ih

/-- The loops over chains and resources pick the same entries as one filter. -/
theorem selectedTokens_eq (selected : List SelectedResourceInput)
    (chains : List RawResourceCatalogChain) :
    selectedTokens selected chains =
      (selectedEntries selected (catalogEntries chains)).map spelling := by
  rw [selectedTokens, selectedEntries, List.map_flatMap]
  congr 1
  funext sel
  induction chains with
  | nil => rfl
  | cons chain rest ih =>
      rw [catalogEntries, List.flatMap_cons, List.filter_append, List.map_append,
        ← catalogEntries, ← ih]
      cases Decidable.em (chain.key = sel.chain) with
      | inl same =>
          rw [List.filter_cons_of_pos (by simpa using same), List.flatMap_cons]
          congr 1
          rw [List.filter_map, List.map_map]
          simp [Function.comp_def, spelling, same]
      | inr different =>
          have none : (chain.resources.map fun resource : RawResourceCatalogResource =>
              ({ chain := chain.key
                 key := resource.key
                 kind := resource.kind
                 identifier := resource.identifier
                 tokenIdentifier := resource.tokenIdentifier
                 tokenKey := resource.tokenKey
                 tokenDecimals := resource.tokenDecimals
                 parentResourceKey := resource.parentResourceKey } : ResourceCatalogEntry)).filter
              (fun entry => entry.chain = sel.chain && entry.key = sel.resourceKey) = [] := by
            simp [List.filter_map, different]
          rw [List.filter_cons_of_neg (by simpa using different), none]
          rfl

/-- The computation queries the first spelling of every unshadowed token. -/
theorem queriedResources_eq (catalog : List ResourceCatalogEntry)
    (params : TokenValueOverTimeParams) :
    (queriedResources toLowerCase catalog params).map queriedToken =
      distinctBy (syncDedupeKey toLowerCase)
        ((unshadowed toLowerCase (selectedEntries params.selectedResources catalog)).map
          spelling) := by
  rw [queriedResources, resolveSelectedResources, distinctBy_map, List.map_map, distinctBy_map]
  rfl

/-! ## One computation -/

/-- The selected entries of the definition that the orchestrator reads, if it has
the tokens synced. -/
def syncedEntries (versions : TokenValueVersions) (preset : AlgorithmPresetFrozen ν) :
    List ResourceCatalogEntry :=
  match getAlgorithmDefinition versions preset.key preset.version with
  | .error _ => []
  | .ok definition =>
      if "onchain-data" ∈ definition.dependencies then
        selectedEntries (selection preset.inputs)
          (catalogEntries ((definitionCatalog definition).getD []))
      else []

theorem syncedEntries_eq {versions : TokenValueVersions} {preset : AlgorithmPresetFrozen ν}
    {definition : AlgorithmDefinition}
    (registered : getAlgorithmDefinition versions preset.key preset.version = .ok definition) :
    syncedEntries versions preset =
      if "onchain-data" ∈ definition.dependencies then
        selectedEntries (selection preset.inputs)
          (catalogEntries ((definitionCatalog definition).getD []))
      else [] := by
  rw [syncedEntries, registered]

/-- The selected entries of version 1.0.0. -/
def queriedEntries (versions : TokenValueVersions) (preset : AlgorithmPresetFrozen ν) :
    List ResourceCatalogEntry :=
  match loadResourceCatalog versions with
  | .error _ => []
  | .ok catalog => selectedEntries (selection preset.inputs) catalog

/-- Of every token, the first selected entry in the preset's definition and the
first unshadowed one in version 1.0.0 are spelled alike, or both are missing. -/
def FirstSpellingsAgree (versions : TokenValueVersions) (preset : AlgorithmPresetFrozen ν) : Prop :=
  ∀ token,
    ((syncedEntries versions preset).map spelling).find?
        (fun target => syncDedupeKey toLowerCase target = token) =
      ((unshadowed toLowerCase (queriedEntries versions preset)).map spelling).find?
        (fun target => syncDedupeKey toLowerCase target = token)

/-- Every queried token was synced under the same spelling and the other way
round, and no token twice on either side. -/
structure EverythingSynced (targets : List SyncTarget) (queried : List ResolvedResource) :
    Prop where
  covered : ∀ resource ∈ queried, queriedToken resource ∈ targets
  needed : ∀ target ∈ targets, ∃ resource ∈ queried, queriedToken resource = target
  syncedOnce : (targets.map (syncDedupeKey toLowerCase)).Nodup
  replayedOnce : (queried.map (tokenDedupeKey toLowerCase)).Nodup

/-- Reduced lists cover each other exactly when their first spellings agree. -/
theorem everythingSynced_iff {targets left right : List SyncTarget}
    {queried : List ResolvedResource}
    (synced : targets = distinctBy (syncDedupeKey toLowerCase) left)
    (computed : queried.map queriedToken = distinctBy (syncDedupeKey toLowerCase) right) :
    EverythingSynced toLowerCase targets queried ↔
      ∀ token, left.find? (fun target => syncDedupeKey toLowerCase target = token) =
        right.find? (fun target => syncDedupeKey toLowerCase target = token) := by
  rw [← distinctBy_mem_congr, ← synced, ← computed]
  constructor
  · intro everything target
    rw [List.mem_map]
    constructor
    · exact everything.needed target
    · intro ⟨resource, member, same⟩
      exact same ▸ everything.covered resource member
  · intro same
    refine ⟨?_, ?_, ?_, ?_⟩
    · intro resource member
      exact (same _).mpr (List.mem_map_of_mem member)
    · intro target member
      exact List.mem_map.mp ((same target).mp member)
    · rw [synced]
      exact keys_distinctBy_nodup _ _
    · have keys : queried.map (tokenDedupeKey toLowerCase) =
          (queried.map queriedToken).map (syncDedupeKey toLowerCase) := by
        rw [List.map_map]
        rfl
      rw [keys, computed]
      exact keys_distinctBy_nodup _ _

section Preset

variable {versions : TokenValueVersions} {context : SnapshotContext}
variable {preset : AlgorithmPresetFrozen ν} {inputs : List (PresetInput ν)}

/-- A computation that reads its inputs queries what its selection finds. -/
theorem tokenValueQueries_ok {queried : List ResolvedResource}
    (computed : tokenValueQueries toLowerCase versions context inputs = .ok queried) :
    (∃ items, findValue inputs "selected_resources" = some (.arr items)) ∧
      ∃ catalog, loadResourceCatalog versions = .ok catalog ∧
        queried.map queriedToken = distinctBy (syncDedupeKey toLowerCase)
          ((unshadowed toLowerCase (selectedEntries (selection inputs) catalog)).map spelling) := by
  rcases Result.bind_eq_ok.mp computed with ⟨params, extracted, continued⟩
  rcases Result.bind_eq_ok.mp continued with ⟨catalog, loaded, built⟩
  cases built
  simp only [extractInputs] at extracted
  split at extracted
  · cases extracted
  · rename_i items found
    rcases Result.bind_eq_ok.mp extracted with ⟨didsKey, _, filled⟩
    cases filled
    constructor
    · rcases Option.bind_eq_some_iff.mp found with ⟨value, listed, isArray⟩
      cases value <;> cases isArray
      exact ⟨items, listed⟩
    · refine ⟨catalog, loaded, ?_⟩
      rw [queriedResources_eq, selection, found]
      rfl

theorem extractOnchainSyncTargets_eq [JsNumber ν] {items : List (Json ν)}
    (found : findValue preset.inputs "selected_resources" = some (.arr items))
    (definition : AlgorithmDefinition) :
    extractOnchainSyncTargets toLowerCase preset definition =
      .ok (distinctBy (syncDedupeKey toLowerCase)
        ((selectedEntries (selection preset.inputs)
          (catalogEntries ((definitionCatalog definition).getD []))).map spelling)) := by
  rw [extractOnchainSyncTargets, found]
  simp only [selection, found, Option.bind_some, Json.asArray, Option.getD_some]
  cases definitionCatalog definition with
  | none =>
      change _ = Except.ok (distinctBy _ ((selectedEntries _ []).map spelling))
      rw [selectedEntries_nil]
      rfl
  | some chains => simp only [Option.getD_some, selectedTokens_eq]

/-- Pointing `dids` elsewhere leaves the other inputs alone. -/
theorem findValue_applyDidsOverride (didsKey : String) (inputs : List (PresetInput ν))
    {key : String} (other : key ≠ "dids") :
    findValue (applyDidsOverride didsKey inputs) key = findValue inputs key := by
  induction inputs with
  | nil => simp [applyDidsOverride, findValue, other.symm]
  | cons input rest ih =>
      rw [applyDidsOverride]
      split
      · rename_i same
        simp [findValue, same, other.symm]
      · simp only [findValue, List.find?_cons] at ih ⊢
        split
        · rfl
        · exact ih

theorem findValue_childSnapshotInputs (child : SubAlgorithmEntry ν) (didsKey : Option String)
    {key : String} (other : key ≠ "dids") :
    findValue (childSnapshotInputs child didsKey) key = findValue child.inputs key := by
  have kept : (child.inputs.filter (·.key ≠ "dids")).find? (·.key = key) =
      child.inputs.find? (·.key = key) := by
    rw [List.find?_filter]
    congr 1
    funext input
    rw [Bool.eq_iff_iff]
    simp only [decide_eq_true_eq]
    constructor
    · intro ⟨_, same⟩
      exact same
    · intro same
      exact ⟨same ▸ other, same⟩
  cases didsKey with
  | none => simp only [childSnapshotInputs, findValue, kept]
  | some didsKey =>
      simp only [childSnapshotInputs, findValue, List.find?_append, kept]
      simp [other.symm]

theorem selection_congr {left right : List (PresetInput ν)}
    (same : findValue left "selected_resources" = findValue right "selected_resources") :
    selection left = selection right := by
  rw [selection, selection, same]

/-- The targets of one source with the `onchain-data` dependency, or none. -/
theorem syncedTargets_standalone [JsNumber ν] {items : List (Json ν)} {targets : List SyncTarget}
    (token : preset.key = TOKEN_VALUE_OVER_TIME)
    (found : findValue preset.inputs "selected_resources" = some (.arr items))
    (synced : syncedTargets toLowerCase versions preset = .ok targets) :
    targets = distinctBy (syncDedupeKey toLowerCase)
      ((syncedEntries versions preset).map spelling) := by
  rcases Result.bind_eq_ok.mp synced with ⟨definition, registered, continued⟩
  rw [syncedEntries_eq registered]
  have standalone : definition.kind = "standalone" := by
    rw [token, getAlgorithmDefinition, if_pos rfl] at registered
    split at registered
    · cases registered
      rfl
    · cases registered
  rw [standalone, if_neg (by decide)] at continued
  split at continued
  · rename_i none
    cases continued
    rw [List.length_eq_zero_iff.mp none, if_neg List.not_mem_nil]
    rfl
  · rw [extractOnchainSyncTargets_eq toLowerCase found] at continued
    cases continued
    cases Decidable.em ("onchain-data" ∈ definition.dependencies) with
    | inl declared => simp only [if_pos declared]
    | inr undeclared =>
        simp only [if_neg undeclared]
        rfl

end Preset

/-! ## Children -/

section Children

variable {versions : TokenValueVersions}

/-- An entry that the computation parses is one that the orchestrator reads. -/
theorem isSubAlgorithmEntryLike_of_parseChildEntry [JsNumber ν] {value : Json ν} {index : Nat}
    {child : SubAlgorithmEntry ν} (parsed : parseChildEntry value index = .ok child) :
    isSubAlgorithmEntryLike value = some child := by
  rcases Result.bind_eq_ok.mp parsed with ⟨_, _, afterRecord⟩
  rcases Result.bind_eq_ok.mp afterRecord with ⟨key, keyed, afterKey⟩
  rcases Result.bind_eq_ok.mp afterKey with ⟨version, versioned, afterVersion⟩
  rcases Result.bind_eq_ok.mp afterVersion with ⟨weight, weighted, afterWeight⟩
  rcases Result.bind_eq_ok.mp afterWeight with ⟨inputs, listed, built⟩
  cases built
  rw [Result.ofOption_eq_ok, Option.filter_eq_some_iff] at keyed versioned weighted
  rw [Result.ofOption_eq_ok] at listed
  rcases Option.bind_eq_some_iff.mp keyed.1 with ⟨keyValue, keyField, keyText⟩
  rcases Option.bind_eq_some_iff.mp versioned.1 with ⟨versionValue, versionField, versionText⟩
  rcases Option.bind_eq_some_iff.mp weighted.1 with ⟨weightValue, weightField, weightNumber⟩
  rcases Option.bind_eq_some_iff.mp listed with ⟨items, isArray, inputsRead⟩
  rcases Option.bind_eq_some_iff.mp isArray with ⟨inputsValue, inputsField, inputsItems⟩
  simp [isSubAlgorithmEntryLike, keyField, keyText, versionField, versionText, weightField,
    weightNumber, inputsField, inputsItems, inputsRead]

theorem filterMap_of_parseChildEntry [JsNumber ν] {values : List (Json ν × Nat)}
    {children : List (SubAlgorithmEntry ν)}
    (parsed : List.Forall₂ (fun value child => parseChildEntry value.1 value.2 = .ok child)
      values children) :
    (values.map Prod.fst).filterMap isSubAlgorithmEntryLike = children := by
  induction parsed with
  | nil => rfl
  | cons first _ ih =>
      rw [List.map_cons, List.filterMap_cons_some (isSubAlgorithmEntryLike_of_parseChildEntry first),
        ih]

theorem nodup_of_duplicateKey {seen : List String} {children : List (SubAlgorithmEntry ν)}
    (unique : duplicateKey seen children = none) :
    (children.map (·.algorithm_key)).Nodup ∧ ∀ key ∈ seen, key ∉ children.map (·.algorithm_key) := by
  induction children generalizing seen with
  | nil => exact ⟨List.nodup_nil, fun _ _ => List.not_mem_nil⟩
  | cons child rest ih =>
      rw [duplicateKey] at unique
      split at unique
      · cases unique
      · rename_i fresh
        rcases ih unique with ⟨nodup, unseen⟩
        rw [List.map_cons, List.nodup_cons]
        refine ⟨⟨unseen _ List.mem_cons_self, nodup⟩, ?_⟩
        intro key old member
        rcases List.mem_cons.mp member with same | later
        · exact fresh (same ▸ old)
        · exact unseen key (List.mem_cons_of_mem _ old) later

/-- The child entries that the orchestrator reads from a combined preset. -/
def childEntries (inputs : List (PresetInput ν)) : List (SubAlgorithmEntry ν) :=
  (((findValue inputs "sub_algorithms").bind Json.asArray).getD []).filterMap
    isSubAlgorithmEntryLike

/-- Children that the computation accepts are those that the orchestrator reads. -/
theorem childEntries_of_parse [JsNumber ν] {inputs : List (PresetInput ν)}
    {children : List (SubAlgorithmEntry ν)}
    (parsed : parseCustomScoreChildren inputs = .ok children) :
    childEntries inputs = children ∧ (children.map (·.algorithm_key)).Nodup := by
  simp only [parseCustomScoreChildren] at parsed
  split at parsed
  · cases parsed
  · cases parsed
  · rename_i rawSubAlgorithms _ found
    rcases Result.bind_eq_ok.mp parsed with ⟨entries, read, checked⟩
    split at checked
    · cases checked
    · rename_i unique
      split at checked
      · cases checked
        refine ⟨?_, (nodup_of_duplicateKey unique).1⟩
        have decoded := filterMap_of_parseChildEntry (Result.mapM_eq_ok_iff.mp read)
        rw [List.zipIdx_map_fst] at decoded
        rw [childEntries, found, Option.getD_some, decoded]
      · cases checked

/-- A child as the preset that its computation is configured by. -/
def SubAlgorithmEntry.toPreset (entry : SubAlgorithmEntry ν) : AlgorithmPresetFrozen ν :=
  ⟨entry.algorithm_key, entry.algorithm_version, entry.inputs⟩

/-- `custom_score` shares no inputs among its children. -/
theorem buildCombinedChildAlgorithmPresets_eq (preset : AlgorithmPresetFrozen ν) :
    buildCombinedChildAlgorithmPresets preset customScoreDefinition =
      (childEntries preset.inputs).map SubAlgorithmEntry.toPreset := by
  simp only [buildCombinedChildAlgorithmPresets, customScoreDefinition, childEntries,
    List.flatMap_cons, List.flatMap_nil, List.append_nil, ne_eq, not_true_eq_false, ↓reduceIte]
  cases (findValue preset.inputs "sub_algorithms").bind Json.asArray with
  | none => rfl
  | some rawEntries => simp [SubAlgorithmEntry.toPreset]

/-! ## Registered definitions -/

theorem mem_registeredDefinitions {key version : String} {definition : AlgorithmDefinition}
    (other : key ≠ TOKEN_VALUE_OVER_TIME)
    (registered : getAlgorithmDefinition versions key version = .ok definition) :
    definition ∈ registeredDefinitions ∧ definition.key = key := by
  rw [getAlgorithmDefinition, if_neg other] at registered
  split at registered
  · cases registered
  · rename_i listed found
    split at registered
    · cases registered
      exact ⟨List.mem_of_find?_eq_some found, by simpa using List.find?_some found⟩
    · cases registered

/-- Only `token_value_over_time` has its tokens synced. -/
theorem token_of_onchainData {key version : String} {definition : AlgorithmDefinition}
    (registered : getAlgorithmDefinition versions key version = .ok definition)
    (declared : "onchain-data" ∈ definition.dependencies) : key = TOKEN_VALUE_OVER_TIME := by
  by_contra other
  have none : ∀ listed ∈ registeredDefinitions, "onchain-data" ∉ listed.dependencies := by decide
  exact none definition (mem_registeredDefinitions other registered).1 declared

theorem customScore_of_registered {version : String} {definition : AlgorithmDefinition}
    (registered : getAlgorithmDefinition versions "custom_score" version = .ok definition) :
    definition = customScoreDefinition := by
  have only : ∀ listed ∈ registeredDefinitions,
      listed.key = "custom_score" → listed = customScoreDefinition := by decide
  have listed := mem_registeredDefinitions (by decide) registered
  exact only definition listed.1 listed.2

theorem standalone_of_registered {key version : String} {definition : AlgorithmDefinition}
    (other : key ≠ TOKEN_VALUE_OVER_TIME) (single : key ≠ "custom_score")
    (registered : getAlgorithmDefinition versions key version = .ok definition) :
    definition.kind ≠ "combined" := by
  have only : ∀ listed ∈ registeredDefinitions,
      listed.kind = "combined" → listed.key = "custom_score" := by decide
  have listed := mem_registeredDefinitions other registered
  intro combined
  exact single (listed.2 ▸ only definition listed.1 combined)

end Children

/-! ## A whole run -/

/-- The preset that the run's `token_value_over_time` computation is configured by. -/
def tokenValuePreset (preset : AlgorithmPresetFrozen ν) : Option (AlgorithmPresetFrozen ν) :=
  if preset.key = TOKEN_VALUE_OVER_TIME then some preset
  else if preset.key = "custom_score" then
    ((childEntries preset.inputs).find? (·.algorithm_key = TOKEN_VALUE_OVER_TIME)).map
      SubAlgorithmEntry.toPreset
  else none

section Run

variable {versions : TokenValueVersions} {context : SnapshotContext}
variable {preset : AlgorithmPresetFrozen ν}

/-- The inputs that a computation reads, apart from `dids`, are the frozen ones. -/
theorem findValue_snapshotInputs (context : SnapshotContext) (inputs : List (PresetInput ν))
    {key : String} (other : key ≠ "dids") :
    findValue (context.snapshotInputs inputs) key = findValue inputs key := by
  rw [SnapshotContext.snapshotInputs]
  cases context.generatedDidsKey with
  | none => rfl
  | some didsKey => exact findValue_applyDidsOverride didsKey inputs other

/-- A computation with the selection of a token preset queries its first
unshadowed spellings. -/
theorem queries_of_preset {inputs : List (PresetInput ν)} {queried : List ResolvedResource}
    (same : findValue inputs "selected_resources" = findValue preset.inputs "selected_resources")
    (computed : tokenValueQueries toLowerCase versions context inputs = .ok queried) :
    (∃ items, findValue preset.inputs "selected_resources" = some (.arr items)) ∧
      queried.map queriedToken = distinctBy (syncDedupeKey toLowerCase)
        ((unshadowed toLowerCase (queriedEntries versions preset)).map spelling) := by
  rcases tokenValueQueries_ok toLowerCase computed with ⟨⟨items, found⟩, catalog, loaded, tokens⟩
  refine ⟨⟨items, same ▸ found⟩, ?_⟩
  rw [tokens, queriedEntries, loaded, selection_congr same]

theorem mem_collectDependencyKeys {sources : List (DependencySource ν)} {key : String} :
    key ∈ collectDependencyKeys sources ↔
      ∃ source ∈ sources, key ∈ source.definition.dependencies := by
  have keys : key ∈ (distinctBy id (sources.flatMap (·.definition.dependencies))).map id ↔
      key ∈ (sources.flatMap (·.definition.dependencies)).map id := mem_keys_distinctBy
  rw [List.map_id, List.map_id] at keys
  rw [collectDependencyKeys, keys, List.mem_flatMap]

/-- The sources of a combined run: its children under their definitions. -/
theorem childSources_eq {sources : List (DependencySource ν)}
    {presets : List (AlgorithmPresetFrozen ν)}
    (resolved : presets.mapM (fun childPreset => do
      let definition ← getAlgorithmDefinition versions childPreset.key childPreset.version
      return (⟨definition, childPreset⟩ : DependencySource ν)) = .ok sources) :
    sources.map (·.preset) = presets ∧ ∀ source ∈ sources,
      getAlgorithmDefinition versions source.preset.key source.preset.version =
        .ok source.definition := by
  have pairs := Result.mapM_eq_ok_iff.mp resolved
  clear resolved
  induction pairs with
  | nil => exact ⟨rfl, fun _ member => absurd member List.not_mem_nil⟩
  | @cons childPreset source presets sources first _ ih =>
      rcases Result.bind_eq_ok.mp first with ⟨definition, registered, built⟩
      cases built
      refine ⟨by rw [List.map_cons, ih.1], ?_⟩
      intro other member
      rcases List.mem_cons.mp member with same | later
      · rw [same]
        exact registered
      · exact ih.2 other later

/-- Only the source of the token child may have the dependency. -/
theorem filter_onchainData {sources : List (DependencySource ν)} (preset : AlgorithmPresetFrozen ν)
    (nodup : (sources.map fun source => source.preset.key).Nodup)
    (registered : ∀ source ∈ sources,
      getAlgorithmDefinition versions source.preset.key source.preset.version =
        .ok source.definition) :
    (⟨customScoreDefinition, preset⟩ :: sources).filter (fun source =>
        decide ("onchain-data" ∈ source.definition.dependencies)) =
      (sources.find? fun source => source.preset.key = TOKEN_VALUE_OVER_TIME).toList.filter
        (fun source => decide ("onchain-data" ∈ source.definition.dependencies)) := by
  rw [← filter_eq_toList_find? nodup, List.filter_filter,
    List.filter_cons_of_neg (by simp [customScoreDefinition])]
  apply List.filter_congr
  intro source member
  rw [Bool.eq_iff_iff]
  simp only [decide_eq_true_eq, Bool.and_eq_true]
  constructor
  · intro declared
    exact ⟨declared, token_of_onchainData (registered source member) declared⟩
  · intro ⟨declared, _⟩
    exact declared

theorem childQueries_ok {didsKey : Option String} {child : SubAlgorithmEntry ν}
    {result : List ResolvedResource}
    (computed : childQueries toLowerCase versions context didsKey child = .ok result) :
    (child.algorithm_key = TOKEN_VALUE_OVER_TIME →
      tokenValueQueries toLowerCase versions context (childSnapshotInputs child didsKey) =
        .ok result) ∧
      (child.algorithm_key ≠ TOKEN_VALUE_OVER_TIME → result = []) := by
  rcases Result.bind_eq_ok.mp computed with ⟨definition, _, continued⟩
  split at continued
  · cases continued
  · split at continued
    · rename_i token
      exact ⟨fun _ => continued, fun other => absurd token other⟩
    · rename_i other
      cases continued
      exact ⟨fun token => absurd token other, fun _ => rfl⟩

/-- Of the children at most one queries tokens. -/
theorem flatten_childQueries {didsKey : Option String} {children : List (SubAlgorithmEntry ν)}
    {results : List (List ResolvedResource)}
    (nodup : (children.map (·.algorithm_key)).Nodup)
    (computed : children.mapM (childQueries toLowerCase versions context didsKey) = .ok results) :
    (children.find? (·.algorithm_key = TOKEN_VALUE_OVER_TIME) = none → results.flatten = []) ∧
      ∀ child, children.find? (·.algorithm_key = TOKEN_VALUE_OVER_TIME) = some child →
        tokenValueQueries toLowerCase versions context (childSnapshotInputs child didsKey) =
          .ok results.flatten := by
  have pairs := Result.mapM_eq_ok_iff.mp computed
  clear computed
  induction pairs with
  | nil => exact ⟨fun _ => rfl, fun _ found => nomatch found⟩
  | @cons child result children results first _ ih =>
      rcases List.nodup_cons.mp nodup with ⟨fresh, others⟩
      rcases ih others with ⟨noneLater, later⟩
      rcases childQueries_ok toLowerCase first with ⟨own, other⟩
      rw [List.flatten_cons]
      cases Decidable.em (child.algorithm_key = TOKEN_VALUE_OVER_TIME) with
      | inl token =>
          have missing : children.find? (·.algorithm_key = TOKEN_VALUE_OVER_TIME) = none := by
            rw [List.find?_eq_none]
            intro second member same
            have same : second.algorithm_key = TOKEN_VALUE_OVER_TIME := by simpa using same
            exact fresh (List.mem_map.mpr ⟨second, member, same.trans token.symm⟩)
          rw [List.find?_cons_of_pos (by simpa using token), noneLater missing, List.append_nil]
          constructor
          · intro impossible
            cases impossible
          · intro found same
            cases same
            exact own token
      | inr different =>
          rw [List.find?_cons_of_neg (by simpa using different), other different, List.nil_append]
          exact ⟨noneLater, later⟩

variable [JsNumber ν]

theorem synced_iff_queried_standalone {targets : List SyncTarget}
    {queried : List ResolvedResource} (token : preset.key = TOKEN_VALUE_OVER_TIME)
    (synced : syncedTargets toLowerCase versions preset = .ok targets)
    (computed : computedQueries toLowerCase versions context preset = .ok queried) :
    EverythingSynced toLowerCase targets queried ↔
      FirstSpellingsAgree toLowerCase versions preset := by
  simp only [computedQueries, token, ↓reduceIte] at computed
  rcases queries_of_preset toLowerCase (findValue_snapshotInputs context preset.inputs (by decide))
    computed with ⟨⟨items, found⟩, tokens⟩
  exact everythingSynced_iff toLowerCase (syncedTargets_standalone toLowerCase token found synced)
    tokens

/-- Nothing is synced and nothing queried. -/
theorem everythingSynced_nil : EverythingSynced toLowerCase [] [] :=
  ⟨fun _ member => absurd member List.not_mem_nil, fun _ member => absurd member List.not_mem_nil,
    List.nodup_nil, List.nodup_nil⟩

theorem synced_iff_queried_other {targets : List SyncTarget} {queried : List ResolvedResource}
    (other : preset.key ≠ TOKEN_VALUE_OVER_TIME) (single : preset.key ≠ "custom_score")
    (synced : syncedTargets toLowerCase versions preset = .ok targets)
    (computed : computedQueries toLowerCase versions context preset = .ok queried) :
    EverythingSynced toLowerCase targets queried := by
  simp only [computedQueries, other, single, ↓reduceIte] at computed
  cases computed
  rcases Result.bind_eq_ok.mp synced with ⟨definition, registered, continued⟩
  have undeclared : "onchain-data" ∉ definition.dependencies :=
    fun declared => other (token_of_onchainData registered declared)
  rw [if_neg (standalone_of_registered other single registered)] at continued
  split at continued
  · cases continued
    exact everythingSynced_nil toLowerCase
  · rcases Result.bind_eq_ok.mp continued with ⟨extracted, _, kept⟩
    cases kept
    exact everythingSynced_nil toLowerCase

/-- The targets of a combined run are those of its token child. -/
theorem syncedTargets_combined {targets : List SyncTarget} (custom : preset.key = "custom_score")
    (nodup : ((childEntries preset.inputs).map (·.algorithm_key)).Nodup)
    (synced : syncedTargets toLowerCase versions preset = .ok targets) :
    (tokenValuePreset preset = none → targets = []) ∧
      ∀ tokenPreset items, tokenValuePreset preset = some tokenPreset →
        findValue tokenPreset.inputs "selected_resources" = some (.arr items) →
        targets = distinctBy (syncDedupeKey toLowerCase)
          ((syncedEntries versions tokenPreset).map spelling) := by
  rcases Result.bind_eq_ok.mp synced with ⟨definition, rootRegistered, continued⟩
  rw [custom] at rootRegistered
  have root := customScore_of_registered rootRegistered
  subst root
  have combined : customScoreDefinition.kind = "combined" := rfl
  rw [if_pos combined, buildCombinedChildAlgorithmPresets_eq] at continued
  rcases Result.bind_eq_ok.mp continued with ⟨sources, resolved, collecting⟩
  rcases childSources_eq resolved with ⟨presets, registered⟩
  have keys : (sources.map fun source => source.preset.key).Nodup := by
    have same : sources.map (fun source => source.preset.key) =
        (childEntries preset.inputs).map (·.algorithm_key) := by
      have keyed := congrArg (List.map AlgorithmPresetFrozen.key) presets
      rw [List.map_map, List.map_map] at keyed
      exact keyed
    rw [same]
    exact nodup
  have dependent := filter_onchainData preset keys registered
  have collected : ∃ extracted, ((sources.find? fun source =>
        source.preset.key = TOKEN_VALUE_OVER_TIME).toList.filter (fun source =>
          decide ("onchain-data" ∈ source.definition.dependencies))).mapM (fun source =>
        extractOnchainSyncTargets toLowerCase source.preset source.definition) = .ok extracted ∧
      targets = distinctBy (syncDedupeKey toLowerCase) extracted.flatten := by
    rw [← dependent]
    simp only at collecting
    split at collecting
    · rcases Result.bind_eq_ok.mp collecting with ⟨extracted, extracting, built⟩
      cases built
      exact ⟨extracted, extracting, rfl⟩
    · rename_i undeclared
      cases collecting
      have none : (⟨customScoreDefinition, preset⟩ :: sources).filter (fun source =>
          decide ("onchain-data" ∈ source.definition.dependencies)) = [] := by
        apply List.filter_eq_nil_iff.mpr
        intro source member declared
        exact undeclared (mem_collectDependencyKeys.mpr
          ⟨source, member, by simpa using declared⟩)
      rw [none]
      exact ⟨[], rfl, rfl⟩
  rcases collected with ⟨extracted, extracting, built⟩
  have child : tokenValuePreset preset =
      (sources.find? fun source => source.preset.key = TOKEN_VALUE_OVER_TIME).map (·.preset) := by
    have mapped : (sources.map (·.preset)).find? (·.key = TOKEN_VALUE_OVER_TIME) =
        ((childEntries preset.inputs).map SubAlgorithmEntry.toPreset).find?
          (·.key = TOKEN_VALUE_OVER_TIME) := by
      rw [presets]
    rw [List.find?_map, List.find?_map] at mapped
    rw [tokenValuePreset, if_neg (by rw [custom]; decide), if_pos custom]
    exact mapped.symm
  cases token : sources.find? fun source => source.preset.key = TOKEN_VALUE_OVER_TIME with
  | none =>
      rw [token] at extracting child
      cases extracting
      refine ⟨fun _ => built, ?_⟩
      intro tokenPreset items found
      rw [child] at found
      cases found
  | some source =>
      rw [token] at extracting child
      refine ⟨fun missing => absurd (child.symm.trans missing) (by simp), ?_⟩
      intro tokenPreset items found listed
      have same : source.preset = tokenPreset := Option.some.inj (child.symm.trans found)
      subst same
      have sourceRegistered := registered source (List.mem_of_find?_eq_some token)
      rw [syncedEntries_eq sourceRegistered, built]
      cases Decidable.em ("onchain-data" ∈ source.definition.dependencies) with
      | inl declared =>
          rw [Option.toList_some, List.filter_cons_of_pos (by simpa using declared),
            List.filter_nil, List.mapM_cons, extractOnchainSyncTargets_eq toLowerCase listed]
            at extracting
          cases extracting
          rw [if_pos declared]
          simp only [List.reverse_nil, List.flatten_cons, List.flatten_nil, List.append_nil]
          exact distinctBy_eq_self (keys_distinctBy_nodup _ _)
      | inr undeclared =>
          rw [Option.toList_some, List.filter_cons_of_neg (by simpa using undeclared)] at extracting
          cases extracting
          rw [if_neg undeclared]
          rfl

/-- The queries of a combined run are those of its token child. -/
theorem computedQueries_combined {queried : List ResolvedResource}
    (custom : preset.key = "custom_score")
    (computed : computedQueries toLowerCase versions context preset = .ok queried) :
    ((childEntries preset.inputs).map (·.algorithm_key)).Nodup ∧
      (tokenValuePreset preset = none → queried = []) ∧
      ∀ tokenPreset, tokenValuePreset preset = some tokenPreset →
        (∃ items, findValue tokenPreset.inputs "selected_resources" = some (.arr items)) ∧
          queried.map queriedToken = distinctBy (syncDedupeKey toLowerCase)
            ((unshadowed toLowerCase (queriedEntries versions tokenPreset)).map spelling) := by
  have other : preset.key ≠ TOKEN_VALUE_OVER_TIME := by
    rw [custom]
    decide
  simp only [computedQueries, if_neg other, if_pos custom] at computed
  rcases Result.bind_eq_ok.mp computed with ⟨children, parsed, continued⟩
  rcases Result.bind_eq_ok.mp continued with ⟨results, querying, built⟩
  cases built
  rcases childEntries_of_parse parsed with ⟨entries, nodup⟩
  have frozen : childEntries preset.inputs = children := by
    rw [← entries, childEntries, childEntries,
      findValue_snapshotInputs context preset.inputs (by decide)]
  rw [tokenValuePreset, if_neg other, if_pos custom, frozen]
  rcases flatten_childQueries toLowerCase nodup querying with ⟨nothing, single⟩
  refine ⟨nodup, ?_, ?_⟩
  · intro missing
    exact nothing (Option.map_eq_none_iff.mp missing)
  · intro tokenPreset found
    rcases Option.map_eq_some_iff.mp found with ⟨child, first, built⟩
    subst built
    exact queries_of_preset toLowerCase (findValue_childSnapshotInputs child _ (by decide))
      (single child first)

theorem synced_iff_queried_combined {targets : List SyncTarget} {queried : List ResolvedResource}
    (custom : preset.key = "custom_score")
    (synced : syncedTargets toLowerCase versions preset = .ok targets)
    (computed : computedQueries toLowerCase versions context preset = .ok queried) :
    EverythingSynced toLowerCase targets queried ↔
      ∀ tokenPreset, tokenValuePreset preset = some tokenPreset →
        FirstSpellingsAgree toLowerCase versions tokenPreset := by
  rcases computedQueries_combined toLowerCase custom computed with ⟨nodup, nothing, tokens⟩
  rcases syncedTargets_combined toLowerCase custom nodup synced with ⟨untargeted, targeted⟩
  cases child : tokenValuePreset preset with
  | none =>
      rw [nothing child, untargeted child]
      constructor
      · intro _ _ impossible
        cases impossible
      · intro _
        exact everythingSynced_nil toLowerCase
  | some tokenPreset =>
      rcases tokens tokenPreset child with ⟨⟨items, found⟩, spelled⟩
      have iff := everythingSynced_iff toLowerCase (targeted tokenPreset items child found) spelled
      constructor
      · intro everything other same
        cases same
        exact iff.mp everything
      · intro agree
        exact iff.mpr (agree tokenPreset rfl)

end Run

/-! ## The registered catalog -/

def FET_ON_ETHEREUM : String := "0xaea46A60368A7bD060eec7DF8CBa43b7EF41Ad85"

def FET_ON_CARDANO : String := "e824c0011176f0926ad51f492bcc63ac6a03a589653520839dc7e3d9464554"

/-- The catalog of version 1.0.0. -/
def registeredCatalog : List RawResourceCatalogChain :=
  [{ key := "ethereum"
     resources := [
      { key := "fet_token", kind := "token", identifier := FET_ON_ETHEREUM
        tokenIdentifier := FET_ON_ETHEREUM, tokenKey := "fet" },
      { key := "fet_staking_1", kind := "contract"
        identifier := "0xCB85b101C4822A4E3ABCa20e57f1DFf0E2673475"
        tokenIdentifier := FET_ON_ETHEREUM, tokenKey := "fet"
        parentResourceKey := some "fet_token" },
      { key := "fet_staking_2", kind := "contract"
        identifier := "0x351baC612B50e87B46e4b10A282f632D41397DE2"
        tokenIdentifier := FET_ON_ETHEREUM, tokenKey := "fet"
        parentResourceKey := some "fet_token" }] },
    { key := "cardano"
      resources := [
      { key := "fet_token", kind := "token", identifier := FET_ON_CARDANO
        tokenIdentifier := FET_ON_CARDANO, tokenKey := "fet", tokenDecimals := some 6 }] }]

/-- A version with a catalog of its own and the dependencies of version 1.0.0. -/
def versionWithCatalog (catalog : List RawResourceCatalogChain) : TokenValueVersion where
  inputs := [{ key := "maturation_threshold_days", type := "integer" },
    { key := "selected_resources", type := "array", resourceCatalog := some catalog }]
  dependencies := ["onchain-data", "deep-id"]

theorem mem_selectedEntries {selected : List SelectedResourceInput}
    {catalog : List ResourceCatalogEntry} {entry : ResourceCatalogEntry}
    (member : entry ∈ selectedEntries selected catalog) : entry ∈ catalog := by
  rcases List.mem_flatMap.mp member with ⟨sel, _, picked⟩
  exact List.mem_of_mem_filter picked

/-- Where a contract has one token, the first spellings of one catalog agree. -/
theorem firstSpellingsAgree_of_contracts {versions : TokenValueVersions}
    {preset : AlgorithmPresetFrozen ν}
    (sameEntries : syncedEntries versions preset = queriedEntries versions preset)
    (contracts : ∀ left ∈ queriedEntries versions preset, ∀ right ∈ queriedEntries versions preset,
      left.chain ++ ":" ++ toLowerCase left.identifier =
        right.chain ++ ":" ++ toLowerCase right.identifier → spelling left = spelling right) :
    FirstSpellingsAgree toLowerCase versions preset := by
  intro token
  rw [sameEntries, List.find?_map, List.find?_map, unshadowed, find?_distinctBy]
  intro left leftMember right rightMember same
  simp only [Function.comp_apply, contracts left leftMember right rightMember same]

/-- Under version 1.0.0 the first spellings agree, whatever is selected. -/
theorem firstSpellingsAgree_registered {versions : TokenValueVersions}
    {preset : AlgorithmPresetFrozen ν}
    (registered : versions "1.0.0" = some (versionWithCatalog registeredCatalog))
    (token : preset.key = TOKEN_VALUE_OVER_TIME) (version : preset.version = "1.0.0") :
    FirstSpellingsAgree toLowerCase versions preset := by
  have definition : getAlgorithmDefinition versions TOKEN_VALUE_OVER_TIME "1.0.0" =
      .ok { key := TOKEN_VALUE_OVER_TIME
            version := "1.0.0"
            inputs := (versionWithCatalog registeredCatalog).inputs
            dependencies := (versionWithCatalog registeredCatalog).dependencies } := by
    rw [getAlgorithmDefinition, if_pos rfl, registered]
  have loaded : loadResourceCatalog versions = .ok (catalogEntries registeredCatalog) := by
    rw [loadResourceCatalog, definition]
    rfl
  have queried : queriedEntries versions preset =
      selectedEntries (selection preset.inputs) (catalogEntries registeredCatalog) := by
    rw [queriedEntries, loaded]
  apply firstSpellingsAgree_of_contracts
  · have own := definition
    rw [← token, ← version] at own
    rw [queried, syncedEntries_eq own]
    rfl
  · rw [queried]
    intro left leftMember right rightMember same
    -- The three contracts of one chain share their token; the chains differ.
    have chains : ∀ entry ∈ catalogEntries registeredCatalog,
        spelling entry = ⟨"ethereum", FET_ON_ETHEREUM⟩ ∧ entry.chain = "ethereum" ∨
          spelling entry = ⟨"cardano", FET_ON_CARDANO⟩ ∧ entry.chain = "cardano" := by decide
    have heads := congrArg (fun text => text.toList.head?) same
    rcases chains left (mem_selectedEntries leftMember) with ⟨leftToken, leftChain⟩ | ⟨leftToken, leftChain⟩ <;>
      rcases chains right (mem_selectedEntries rightMember) with
        ⟨rightToken, rightChain⟩ | ⟨rightToken, rightChain⟩
    · rw [leftToken, rightToken]
    · simp [leftChain, rightChain] at heads
    · simp [leftChain, rightChain] at heads
    · rw [leftToken, rightToken]

/-! ## A token that only a newer version has -/

def AGIX_ON_ETHEREUM : String := "0x5B7533812759B45C2B44C19e320ba2cD2681b542"

def agixResource : RawResourceCatalogResource where
  key := "agix_token"
  kind := "token"
  identifier := AGIX_ON_ETHEREUM
  tokenIdentifier := AGIX_ON_ETHEREUM
  tokenKey := "agix"

/-- Version 1.1.0 adds a token to the catalog of version 1.0.0. -/
def sampleVersions : TokenValueVersions := fun version =>
  if version = "1.0.0" then some (versionWithCatalog registeredCatalog)
  else if version = "1.1.0" then
    some (versionWithCatalog (registeredCatalog.map fun chain =>
      if chain.key = "ethereum" then { chain with resources := chain.resources ++ [agixResource] }
      else chain))
  else none

/-- A preset of a version that selects one resource on Ethereum. -/
def samplePreset (version resourceKey : String) : AlgorithmPresetFrozen Rat where
  key := TOKEN_VALUE_OVER_TIME
  version := version
  inputs := [⟨"maturation_threshold_days", some (.num 90)⟩,
    ⟨"selected_resources", some (.arr [.obj [("chain", .str "ethereum"),
      ("resource_key", .str resourceKey)]])⟩]

def sampleSnapshot : SnapshotContext where
  createdAt := 0
  generatedDidsKey := some "dids.json"
  loadWalletAddressMap := fun _ => .empty

end Reputo.Orchestrator

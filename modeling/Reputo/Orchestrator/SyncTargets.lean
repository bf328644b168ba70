import Reputo.Orchestrator.Presets
import Reputo.TokenValue.Compute

/-!
# Tokens that a run syncs and tokens that it queries

The orchestrator resolves the selected resources through the definition of the
preset's version and has the tokens synced.  The computation resolves them again,
through a definition of its own, and queries the tokens it finds.  The versions of
`token_value_over_time` are a parameter; of the other registered definitions none
has a resource catalog.
-/

namespace Reputo.Orchestrator

open Reputo.Library Reputo.TokenValue

variable {ν : Type}

/-! ## Registered definitions -/

/-- What a version of `token_value_over_time` declares. -/
structure TokenValueVersion where
  inputs : List AlgorithmInputDefinition
  dependencies : List String
  deriving DecidableEq, Repr

/-- The registered versions of `token_value_over_time`. -/
abbrev TokenValueVersions := String → Option TokenValueVersion

def TOKEN_VALUE_OVER_TIME : String := "token_value_over_time"

def customScoreDefinition : AlgorithmDefinition where
  key := "custom_score"
  version := "1.0.0"
  kind := "combined"
  inputs := [{ key := "sub_algorithms", type := "sub_algorithm" }]

/-- The other registered definitions; inputs without a catalog and without
children are left out. -/
def registeredDefinitions : List AlgorithmDefinition :=
  [{ key := "contribution_score", version := "1.0.0", dependencies := ["deepfunding-portal-api"] },
    customScoreDefinition,
    { key := "discord_engagement", version := "1.0.0", dependencies := ["discord-activity"] },
    { key := "github_engagement", version := "1.0.0", dependencies := ["github-activity"] },
    { key := "mattermost_engagement", version := "1.0.0", dependencies := ["mattermost-activity"] },
    { key := "proposal_engagement", version := "1.0.0", dependencies := ["deepfunding-portal-api"] },
    { key := "voting_engagement", version := "1.0.0", dependencies := ["deep-id"] }]

def getAlgorithmDefinition (versions : TokenValueVersions) (key version : String) :
    Except String AlgorithmDefinition :=
  if key = TOKEN_VALUE_OVER_TIME then
    match versions version with
    | some { inputs, dependencies } => .ok { key, version, inputs, dependencies }
    | none => .error "Version not found"
  else
    match registeredDefinitions.find? (·.key = key) with
    | none => .error "Algorithm not found"
    | some definition =>
        if version = definition.version || version = "latest" then .ok definition
        else .error "Version not found"

/-! ## What the orchestrator has synced -/

structure SyncTarget where
  chain : String
  identifier : String
  deriving DecidableEq, Repr

variable (toLowerCase : String → String)

/-- `${target.chain}:${target.identifier.toLowerCase()}`. -/
def syncDedupeKey (target : SyncTarget) : String :=
  target.chain ++ ":" ++ toLowerCase target.identifier

/-- An item of the selection; without text in both fields it selects nothing. -/
def asSelectedResource (item : Json ν) : Option SelectedResourceInput := do
  let chain ← (← item.field "chain").asString
  let resourceKey ← (← item.field "resource_key").asString
  return { chain, resourceKey }

/-- The catalog's tokens for the selected resources, in the order of the loops. -/
def selectedTokens (selected : List SelectedResourceInput) (chains : List RawResourceCatalogChain) :
    List SyncTarget :=
  selected.flatMap fun sel =>
    (chains.filter fun chain => chain.key = sel.chain).flatMap fun chain =>
      (chain.resources.filter fun resource => resource.key = sel.resourceKey).map fun resource =>
        ⟨sel.chain, resource.tokenIdentifier⟩

/-- The catalog of a definition, under the input that selects from it. -/
def definitionCatalog (definition : AlgorithmDefinition) : Option (List RawResourceCatalogChain) :=
  (definition.inputs.find? (·.key = "selected_resources")).bind (·.resourceCatalog)

def extractOnchainSyncTargets [JsNumber ν] (preset : AlgorithmPresetFrozen ν)
    (definition : AlgorithmDefinition) : Except String (List SyncTarget) :=
  match findValue preset.inputs "selected_resources" with
  | some (.arr items) =>
      match definitionCatalog definition with
      | none => .ok []
      | some chains => .ok (distinctBy (syncDedupeKey toLowerCase)
          (selectedTokens (items.filterMap asSelectedResource) chains))
  | none | some (.str _) => .ok []
  | some value =>
      if value.isTruthy then .error "selectedResourcesRaw is not iterable" else .ok []

/-- A definition with the preset that configures it. -/
structure DependencySource (ν : Type) where
  definition : AlgorithmDefinition
  preset : AlgorithmPresetFrozen ν

def collectDependencyKeys (sources : List (DependencySource ν)) : List String :=
  distinctBy id (sources.flatMap (·.definition.dependencies))

def collectOnchainSyncTargets [JsNumber ν] (sources : List (DependencySource ν)) :
    Except String (List SyncTarget) := do
  let extracted ← (sources.filter fun source =>
      "onchain-data" ∈ source.definition.dependencies).mapM fun source =>
    extractOnchainSyncTargets toLowerCase source.preset source.definition
  return distinctBy (syncDedupeKey toLowerCase) extracted.flatten

/-- The targets that the orchestrator hands to the `onchain-data` dependency. -/
def syncedTargets [JsNumber ν] (versions : TokenValueVersions) (preset : AlgorithmPresetFrozen ν) :
    Except String (List SyncTarget) := do
  let definition ← getAlgorithmDefinition versions preset.key preset.version
  if definition.kind = "combined" then
    let children ← (buildCombinedChildAlgorithmPresets preset definition).mapM fun childPreset =>
      return ⟨← getAlgorithmDefinition versions childPreset.key childPreset.version, childPreset⟩
    let sources := ⟨definition, preset⟩ :: children
    if "onchain-data" ∈ collectDependencyKeys sources then
      collectOnchainSyncTargets toLowerCase sources
    else return []
  else if definition.dependencies.length = 0 then return []
  else
    let targets ← extractOnchainSyncTargets toLowerCase preset definition
    return if "onchain-data" ∈ definition.dependencies then targets else []

/-! ## What the computation queries -/

/-- Point the `dids` input at an assembled map. -/
def applyDidsOverride (didsKey : String) : List (PresetInput ν) → List (PresetInput ν)
  | [] => [⟨"dids", some (.str didsKey)⟩]
  | input :: rest =>
      if input.key = "dids" then ⟨"dids", some (.str didsKey)⟩ :: rest
      else input :: applyDidsOverride didsKey rest

def extractOptionalDidsKey (inputs : List (PresetInput ν)) : Option String :=
  (findValue inputs "dids").bind Json.asString

def extractDidsKey (inputs : List (PresetInput ν)) : Except String String :=
  match extractOptionalDidsKey inputs with
  | some didsKey => .ok didsKey
  | none => .error "Missing required \"dids\" input"

/-- The inputs of a run as they stand in the frozen preset. -/
structure TokenValueInputs (ν : Type) where
  maturationThresholdDays : Option (Json ν)
  selectedResources : List SelectedResourceInput
  didsKey : String
  toTimestampUnix : Int

/-- Read the inputs of a snapshot that was created at an instant. -/
def extractInputs (inputs : List (PresetInput ν)) (snapshotCreatedAt : Int) :
    Except String (TokenValueInputs ν) := do
  match (findValue inputs "selected_resources").bind Json.asArray with
  | none => throw "selectedResourcesRaw.map is not a function"
  | some items =>
      return {
        maturationThresholdDays := findValue inputs "maturation_threshold_days"
        selectedResources := items.filterMap asSelectedResource
        didsKey := ← extractDidsKey inputs
        toTimestampUnix := snapshotCreatedAt / 1000 }

/-- The entries of a catalog, chain by chain. -/
def catalogEntries (chains : List RawResourceCatalogChain) : List ResourceCatalogEntry :=
  chains.flatMap fun chain => chain.resources.map fun resource =>
    { chain := chain.key
      key := resource.key
      kind := resource.kind
      identifier := resource.identifier
      tokenIdentifier := resource.tokenIdentifier
      tokenKey := resource.tokenKey
      tokenDecimals := resource.tokenDecimals
      parentResourceKey := resource.parentResourceKey }

/-- The catalog of version 1.0.0, whatever version the preset has. -/
def loadResourceCatalog (versions : TokenValueVersions) :
    Except String (List ResourceCatalogEntry) := do
  let definition ← getAlgorithmDefinition versions TOKEN_VALUE_OVER_TIME "1.0.0"
  match definitionCatalog definition with
  | none => throw "Resource catalog not found in algorithm definition"
  | some chains => return catalogEntries chains

/-- A snapshot that is computed: when it was created, the DID map that a
dependency assembled for it, and the stored DID maps. -/
structure SnapshotContext where
  createdAt : Int
  generatedDidsKey : Option String
  loadWalletAddressMap : String → DidInputMap

/-- The inputs of the snapshot that is handed to the computation. -/
def SnapshotContext.snapshotInputs (context : SnapshotContext) (inputs : List (PresetInput ν)) :
    List (PresetInput ν) :=
  match context.generatedDidsKey with
  | some didsKey => applyDidsOverride didsKey inputs
  | none => inputs

/-- The resources whose tokens one computation queries. -/
def tokenValueQueries (versions : TokenValueVersions) (context : SnapshotContext)
    (inputs : List (PresetInput ν)) : Except String (List ResolvedResource) := do
  let params ← extractInputs inputs context.createdAt
  let catalog ← loadResourceCatalog versions
  return queriedResources toLowerCase catalog {
    selectedResources := params.selectedResources
    didInputMap := context.loadWalletAddressMap params.didsKey
    toTimestampUnix := params.toTimestampUnix }

/-- The inputs of a child's snapshot. -/
def childSnapshotInputs (child : SubAlgorithmEntry ν) (didsKey : Option String) :
    List (PresetInput ν) :=
  let inputs := child.inputs.filter (·.key ≠ "dids")
  match didsKey with
  | none => inputs
  | some didsKey => inputs ++ [⟨"dids", some (.str didsKey)⟩]

/-- The resources whose tokens the computation of one child queries. -/
def childQueries (versions : TokenValueVersions) (context : SnapshotContext)
    (didsKey : Option String) (child : SubAlgorithmEntry ν) :
    Except String (List ResolvedResource) := do
  let definition ← getAlgorithmDefinition versions child.algorithm_key child.algorithm_version
  if definition.kind = "combined" then
    throw ("Nested combined child algorithm is not supported: " ++ child.algorithm_key)
  else if child.algorithm_key = TOKEN_VALUE_OVER_TIME then
    tokenValueQueries toLowerCase versions context (childSnapshotInputs child didsKey)
  else return []

/-- The resources whose tokens the computation of a snapshot queries. -/
def computedQueries [JsNumber ν] (versions : TokenValueVersions) (context : SnapshotContext)
    (preset : AlgorithmPresetFrozen ν) : Except String (List ResolvedResource) := do
  let inputs := context.snapshotInputs preset.inputs
  if preset.key = TOKEN_VALUE_OVER_TIME then tokenValueQueries toLowerCase versions context inputs
  else if preset.key = "custom_score" then
    let children ← parseCustomScoreChildren inputs
    let queries ← children.mapM
      (childQueries toLowerCase versions context (extractOptionalDidsKey inputs))
    return queries.flatten
  else return []

end Reputo.Orchestrator

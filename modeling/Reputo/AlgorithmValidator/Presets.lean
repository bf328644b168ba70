import Reputo.AlgorithmValidator.Payload

/-!
# Presets

A preset is validated against a definition: its inputs must be those of the definition, its
values must be accepted, and so must its files.  The entries of a combined algorithm are presets
of their own; each is validated against the definition it names, with the inputs that the
combined algorithm shares.
-/

namespace Reputo.AlgorithmValidator

open Reputo.Library Reputo.Orchestrator

variable {ν : Type}

/-! ## What is given -/

/-- The rule that the wallets of a file cover the selected chains. -/
structure JsonChainCoverageValidationRule where
  walletInputKey : String
  selectorInputKey : String
  selectorChainField : String
  deriving DecidableEq, Repr

structure AlgorithmDefinition (ν : Type) where
  key : String
  name : String
  version : String
  kind : String := "standalone"
  inputs : List (IoItem ν)
  rules : List JsonChainCoverageValidationRule := []

/-- What the orchestrator reads of a definition. -/
def AlgorithmDefinition.read (definition : AlgorithmDefinition ν) :
    Orchestrator.AlgorithmDefinition where
  key := definition.key
  version := definition.version
  kind := definition.kind
  inputs := definition.inputs.map (·.toAlgorithmInputDefinition)

structure ResolveNestedDefinitionArgs (ν : Type) where
  algorithmKey : String
  algorithmVersion : String
  childIndex : Nat
  parentDefinition : AlgorithmDefinition ν
  parentInput : IoItem ν

/-- What is found in the file of an input: what is wrong with it, or its values if it is read as
JSON. -/
structure FileContent (ν : Type) where
  errors : List String
  parsed : Option (Json ν)

/-- The callbacks of a validation.  A nested definition is not found, or its resolver throws with
a message or without one. -/
structure ValidateAlgorithmPresetArgs (ν : Type) where
  checkFile : IoItem ν → Json ν → FileContent ν
  resolveNestedDefinition :
    Option (ResolveNestedDefinitionArgs ν → Except (Option String) (Option (AlgorithmDefinition ν)))

/-! ## The preset itself -/

def createAlgorithmPresetSchema : Schema ν :=
  .record [
    ("key", .string [StringCheck.min 1 "Algorithm key is required."]),
    ("version", .string [StringCheck.min 1 "Algorithm version is required."]),
    ("inputs", .array algorithmPresetInputSchema
      [{ holds := (1 ≤ ·), message := "At least one input is required." }]),
    ("name", .optional (.string [StringCheck.min 3 "Name must be at least 3 characters.",
      StringCheck.max 100 "Name must be at most 100 characters."])),
    ("description", .optional (.string [
      StringCheck.min 10 "Description must be at least 10 characters.",
      StringCheck.max 500 "Description must be at most 500 characters."]))]

def inputJson (input : PresetInput ν) : Json ν :=
  .obj (("key", .str input.key) :: (input.value.map ("value", ·)).toList)

def presetJson (preset : AlgorithmPresetFrozen ν) : Json ν :=
  .obj [("key", .str preset.key), ("version", .str preset.version),
    ("inputs", .arr (preset.inputs.map inputJson))]

def getDefinitionConsistencyErrors (definition : AlgorithmDefinition ν) (key version : String) :
    List ValidationError :=
  (if key = definition.key then [] else [{
    field := "key"
    message := s!"The preset must use {definition.name}."
    source := some .definition }]) ++
  if version = definition.version then [] else [{
    field := "version"
    message := s!"The preset must use version {definition.version}."
    source := some .definition }]

/-- The keys that were seen before. -/
def duplicateKeys (seen : List String) : List String → List String
  | [] => []
  | key :: rest =>
      if key ∈ seen then key :: duplicateKeys seen rest else duplicateKeys (key :: seen) rest

def getDuplicateInputErrors (inputs : List (PresetInput ν)) : List ValidationError :=
  (distinctBy id (duplicateKeys [] (inputs.map (·.key)))).map fun key =>
    { field := key
      message := s!"Input \"{key}\" can be added only once."
      source := some .preset }

def getUnsupportedInputErrors (definition : AlgorithmDefinition ν) (inputs : List (PresetInput ν)) :
    List ValidationError :=
  inputs.filterMap fun input =>
    if input.key ∈ definition.inputs.map (·.key) then none
    else some {
      field := input.key
      message := s!"Input \"{input.key}\" is no longer supported by {definition.name}. " ++
        "Create the preset again."
      source := some .definition }

/-- The values of the inputs by their keys; the last one of a key is kept. -/
def buildPayload (inputs : List (PresetInput ν)) : Json ν :=
  .obj (OrderedMap.ofPairs
    (inputs.filterMap fun input => input.value.map (input.key, ·))).entries

/-! ## Files and rules -/

def isFileBacked (input : IoItem ν) : Bool := input.type = "csv" || input.type = "json"

/-- A value that names a file. -/
def fileValue : Option (Json ν) → Option (Json ν)
  | none | some .null => none
  | some (.str text) => if text = "" then none else some (.str text)
  | some other => some other

def validateFileBackedInputs (args : ValidateAlgorithmPresetArgs ν)
    (definition : AlgorithmDefinition ν) (inputs : List (PresetInput ν))
    (payload : Option (Json ν)) : List ValidationError × List (String × Json ν) :=
  let found := (definition.inputs.filter isFileBacked).filterMap fun input =>
    (fileValue ((findValue inputs input.key).or (payload.bind (·.field input.key)))).map
      fun value => (input, args.checkFile input value)
  (found.flatMap fun (input, content) => content.errors.map fun message =>
      { field := input.key, message, source := some .file },
    found.filterMap fun (input, content) => content.parsed.map (input.key, ·))

/-- The chains that the items of a selector name, each once. -/
def getSelectedChains (selectorValue : Option (Json ν)) (selectorChainField : String) :
    List String :=
  distinctBy id (((selectorValue.bind Json.asArray).getD []).filterMap fun item =>
    ((item.field selectorChainField).bind Json.asString).filter fun chain => JsText.trim chain ≠ "")

def runJsonChainCoverageRule (definition : AlgorithmDefinition ν) (payload : Option (Json ν))
    (parsedJsonInputs : List (String × Json ν)) (rule : JsonChainCoverageValidationRule) :
    List ValidationError :=
  match definition.inputs.find? fun input =>
    input.key = rule.walletInputKey && input.type = "json" with
  | none => [{
      field := rule.walletInputKey
      message := "The algorithm definition refers to an unknown JSON input: " ++
        s!"\"{rule.walletInputKey}\"."
      source := some .rule }]
  | some walletInput =>
      let rootKey := (walletInput.json.bind (·.rootKey)).getD "wallets"
      match ((parsedJsonInputs.lookup rule.walletInputKey).bind (·.field rootKey)).bind
        Json.asRecord with
      | none => []
      | some walletsByChain =>
          let missingChains := (getSelectedChains (payload.bind (·.field rule.selectorInputKey))
            rule.selectorChainField).filter fun chain =>
              (((walletsByChain.lookup chain).bind Json.asArray).getD []).isEmpty
          if missingChains = [] then []
          else [{
            field := rule.walletInputKey
            message := "The wallet file has no addresses for these selected blockchains: " ++
              ", ".intercalate missingChains ++ "."
            source := some .rule }]

def runDefinitionRules (definition : AlgorithmDefinition ν) (payload : Option (Json ν))
    (parsedJsonInputs : List (String × Json ν)) : List ValidationError :=
  definition.rules.flatMap (runJsonChainCoverageRule definition payload parsedJsonInputs)

/-! ## Nested presets -/

/-- The value as an entry whose inputs have values, if it has the shape of one. -/
def isSubAlgorithmEntry (value : Json ν) : Option (SubAlgorithmEntry ν) :=
  (isSubAlgorithmEntryLike value).filter fun entry =>
    entry.inputs.all fun input => input.value.isSome

def prefixNestedField (parentInputKey : String) (childIndex : Nat) (field : String) : String :=
  if field = "" ∨ field = "_preset" then s!"{parentInputKey}.{childIndex}"
  else if field = "key" then s!"{parentInputKey}.{childIndex}.algorithm_key"
  else if field = "version" then s!"{parentInputKey}.{childIndex}.algorithm_version"
  else s!"{parentInputKey}.{childIndex}.inputs.{field}"

/-- The definition that an entry names, or why there is none. -/
def resolveNestedDefinition (args : ValidateAlgorithmPresetArgs ν)
    (definition : AlgorithmDefinition ν) (input : IoItem ν) (entry : SubAlgorithmEntry ν)
    (childIndex : Nat) : Except ValidationError (AlgorithmDefinition ν) :=
  let failed (message : String) : ValidationError := {
    field := s!"{input.key}.{childIndex}.algorithm_key"
    message
    source := some .definition }
  let notFound := failed
    s!"Could not find {entry.algorithm_key} version {entry.algorithm_version}."
  match args.resolveNestedDefinition with
  | none => .error
      (failed s!"Could not load {entry.algorithm_key} version {entry.algorithm_version}.")
  | some resolve =>
      match resolve {
        algorithmKey := entry.algorithm_key
        algorithmVersion := entry.algorithm_version
        childIndex
        parentDefinition := definition
        parentInput := input } with
      | .ok (some resolved) => .ok resolved
      | .ok none => .error notFound
      | .error (some message) => .error (failed message)
      | .error none => .error notFound

/-- An entry as a preset of its own: its inputs other than the shared ones, and the shared ones
of the combined preset. -/
def childPreset (sharedInputKeys : List String) (sharedInputs : List (PresetInput ν))
    (entry : SubAlgorithmEntry ν) : AlgorithmPresetFrozen ν where
  key := entry.algorithm_key
  version := entry.algorithm_version
  inputs := entry.inputs.filter (·.key ∉ sharedInputKeys) ++ sharedInputs

def sharedKeyErrors (input : IoItem ν) (childIndex : Nat) (entry : SubAlgorithmEntry ν) :
    List ValidationError :=
  (entry.inputs.filter (·.key ∈ input.sharedInputKeys)).map fun childInput =>
    { field := s!"{input.key}.{childIndex}.inputs.{childInput.key}"
      message := s!"Input \"{childInput.key}\" is shared by the combined algorithm. " ++
        "Remove it from this algorithm."
      source := some .definition }

/-- The values of a preset that is accepted, or what is wrong with it. -/
abbrev PresetResult (ν : Type) := Except (List ValidationError) (Option (Json ν))

/-- What is wrong with one entry; `none` where the validation of its preset does not come to an
end. -/
def validateEntry (args : ValidateAlgorithmPresetArgs ν)
    (validateChild : AlgorithmDefinition ν → AlgorithmPresetFrozen ν → Option (PresetResult ν))
    (definition : AlgorithmDefinition ν) (sharedInputs : List (PresetInput ν)) (input : IoItem ν)
    (childIndex : Nat) (entry : SubAlgorithmEntry ν) : Option (List ValidationError) :=
  let shared := sharedKeyErrors input childIndex entry
  match resolveNestedDefinition args definition input entry childIndex with
  | .error error => some (error :: shared)
  | .ok childDefinition =>
      if childDefinition.kind = "combined" then
        some (shared ++ [{
          field := s!"{input.key}.{childIndex}.algorithm_key"
          message := s!"{childDefinition.name} cannot be added because it is also a combined " ++
            "algorithm."
          source := some .definition }])
      else
        (validateChild childDefinition
          (childPreset input.sharedInputKeys sharedInputs entry)).map fun
          | .ok _ => shared
          | .error errors => shared ++ errors.map fun error =>
              { error with field := prefixNestedField input.key childIndex error.field }

/-- A value that has not the shape of an entry is passed over. -/
def validateRawEntry (args : ValidateAlgorithmPresetArgs ν)
    (validateChild : AlgorithmDefinition ν → AlgorithmPresetFrozen ν → Option (PresetResult ν))
    (definition : AlgorithmDefinition ν) (sharedInputs : List (PresetInput ν)) (input : IoItem ν)
    (rawEntry : Json ν × Nat) : Option (List ValidationError) :=
  match isSubAlgorithmEntry rawEntry.1 with
  | none => some []
  | some entry => validateEntry args validateChild definition sharedInputs input rawEntry.2 entry

/-- What is wrong with the entries of one input. -/
def validateEntries (args : ValidateAlgorithmPresetArgs ν)
    (validateChild : AlgorithmDefinition ν → AlgorithmPresetFrozen ν → Option (PresetResult ν))
    (definition : AlgorithmDefinition ν) (preset : AlgorithmPresetFrozen ν)
    (payload : Option (Json ν)) (input : IoItem ν) : Option (List ValidationError) :=
  let sharedInputs := preset.inputs.filter (·.key ∈ input.sharedInputKeys)
  match (payload.bind (·.field input.key)).bind Json.asArray with
  | none => some []
  | some rawEntries => (rawEntries.zipIdx.mapM
      (validateRawEntry args validateChild definition sharedInputs input)).map List.flatten

def validateNestedSubAlgorithms (args : ValidateAlgorithmPresetArgs ν)
    (validateChild : AlgorithmDefinition ν → AlgorithmPresetFrozen ν → Option (PresetResult ν))
    (definition : AlgorithmDefinition ν) (preset : AlgorithmPresetFrozen ν)
    (payload : Option (Json ν)) : Option (List ValidationError) :=
  ((definition.inputs.filter (·.type = "sub_algorithm")).mapM
    (validateEntries args validateChild definition preset payload)).map List.flatten

/-! ## Validation -/

section Validation

variable [JsNumber ν] (runtime : Runtime ν) (parser : Parser ν)
  (args : ValidateAlgorithmPresetArgs ν)

/-- What is left after the inputs themselves were accepted. -/
def validateContents
    (validateChild : AlgorithmDefinition ν → AlgorithmPresetFrozen ν → Option (PresetResult ν))
    (definition : AlgorithmDefinition ν) (preset : AlgorithmPresetFrozen ν)
    (validatedPayload : Option (Json ν)) : Option (PresetResult ν) := do
  let (fileErrors, parsedJsonInputs) :=
    validateFileBackedInputs args definition preset.inputs validatedPayload
  let ruleErrors := runDefinitionRules definition validatedPayload parsedJsonInputs
  let nestedErrors ←
    validateNestedSubAlgorithms args validateChild definition preset validatedPayload
  let errors := fileErrors ++ ruleErrors ++ nestedErrors
  return if errors.isEmpty then .ok validatedPayload else .error errors

/-- The validation of a preset, nested no deeper than the fuel allows.  The schema of a preset
changes none of its fields, so that what it is read as is the preset. -/
def validateAlgorithmPreset : Nat → AlgorithmDefinition ν → AlgorithmPresetFrozen ν →
    Option (PresetResult ν)
  | 0, _, _ => none
  | fuel + 1, definition, preset =>
      match parser.safeParse createAlgorithmPresetSchema (some (presetJson preset)) with
      | .error issues => some (.error (issues.map fun issue =>
          let field := JsText.join '.' issue.path
          { field := if field = "" then "_preset" else field
            message := issue.message
            code := some issue.code
            source := some .preset }))
      | .ok _ =>
          let definitionErrors :=
            getDefinitionConsistencyErrors definition preset.key preset.version ++
              getDuplicateInputErrors preset.inputs ++
              getUnsupportedInputErrors definition preset.inputs
          match validatePayload runtime parser definition.inputs
            (some (buildPayload preset.inputs)) with
          | .error payloadErrors => some (.error (definitionErrors ++ payloadErrors.map fun error =>
              { error with source := some .payload }))
          | .ok validatedPayload =>
              if definitionErrors.isEmpty then
                validateContents args (validateAlgorithmPreset fuel) definition preset
                  validatedPayload
              else some (.error definitionErrors)

end Validation

end Reputo.AlgorithmValidator

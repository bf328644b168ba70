import Reputo.Library.Distinct
import Reputo.Library.Schema
import Reputo.Orchestrator.Presets

/-!
# Payloads

A definition says which inputs an algorithm has.  A schema is built from it as on the server,
where a file is the text of its key, and the values of the inputs are read by the schema; what
the options and the catalog of an input allow is checked on what they are read as.
-/

namespace Reputo.AlgorithmValidator

open Reputo.Library Reputo.Orchestrator

variable {ν : Type}

/-! ## Definitions -/

/-- An option of a field, which may depend on the values of other fields. -/
structure FieldOption where
  value : String
  filterBy : Option String := none
  filters : Option (List (String × String)) := none
  deriving DecidableEq, Repr

/-- A property of the items of an array; no `enum` is an empty one, and a single key that the
options depend on is a list of one. -/
structure ObjectPropertyParam (ν : Type) where
  key : String
  type : String
  label : Option String := none
  required : Option Bool := none
  enum : List String := []
  min : Option ν := none
  max : Option ν := none
  exclusiveMin : Bool := false
  minItems : Option Nat := none
  uniqueBy : List String := []
  properties : List (ObjectPropertyParam ν) := []
  options : Option (List FieldOption) := none
  dependsOn : Option (List String) := none

/-- What is said of the content of a JSON file. -/
structure JsonConfig where
  maxBytes : Option Nat := none
  schema : Option String := none
  rootKey : Option String := none
  allowedChains : Option (List String) := none
  deriving DecidableEq, Repr

/-- An input of a definition; the items of an array have a type and properties. -/
structure IoItem (ν : Type) extends AlgorithmInputDefinition where
  label : Option String := none
  required : Option Bool := none
  min : Option ν := none
  max : Option ν := none
  minLength : Option Nat := none
  maxLength : Option Nat := none
  enum : List String := []
  itemType : Option String := none
  properties : List (ObjectPropertyParam ν) := []
  minItems : Option Nat := none
  maxItems : Option Nat := none
  uniqueBy : List String := []
  options : Option (List FieldOption) := none
  dependsOn : Option (List String) := none
  json : Option JsonConfig := none

/-- What the language does with numbers and texts: `String(value)`, `parseFloat(text)` and
`Number(text)` where they are numbers, and whether a number is a safe integer. -/
structure Runtime (ν : Type) where
  text : Json ν → String
  parseFloat : String → Option ν
  toNumber : String → Option ν
  isSafeInteger : ν → Bool

/-! ## Schemas of fields -/

def StringCheck.trim : StringCheck := .transform JsText.trim

def StringCheck.min (length : Nat) (message : String) : StringCheck :=
  .check (fun text => length ≤ JsText.length text) message

def StringCheck.max (length : Nat) (message : String) : StringCheck :=
  .check (fun text => JsText.length text ≤ length) message

/-- `${count === 1 ? 'item' : 'items'}`. -/
def itemsText (count : Nat) : String := if count = 1 then "item" else "items"

def LengthCheck.min (label : String) (count : Nat) : LengthCheck where
  holds length := count ≤ length
  message := s!"{label} must have at least {count} {itemsText count}."

def LengthCheck.max (label : String) (count : Nat) : LengthCheck where
  holds length := length ≤ count
  message := s!"{label} must have at most {count} {itemsText count}."

/-- The schema of a field that is optional unless it is required. -/
def requiredUnless (required : Option Bool) (schema : Schema ν) : Schema ν :=
  if required = some false then .optional schema else schema

/-- A number, or nothing where there is none in a text; what is neither is left as it is. -/
def preprocessNumber (read : String → Option ν) : Option (Json ν) → Option (Json ν)
  | none | some .null => none
  | some (.str text) => if text = "" then none else (read text).map .num
  | some (.num number) => some (.num number)
  | some other => some other

/-- `value !== undefined && value !== null`. -/
def isPresent : Option (Json ν) → Bool
  | none | some .null => false
  | some _ => true

/-- `String(value ?? '')`. -/
def textOf (runtime : Runtime ν) : Option (Json ν) → String
  | none | some .null => ""
  | some value => runtime.text value

section Schemas

variable [JsNumber ν] (runtime : Runtime ν)

def minCheck (label : String) (bound : ν) : NumberCheck ν where
  holds number := !JsNumber.lt number bound
  message := s!"{label} must be at least {runtime.text (.num bound)}."

def maxCheck (label : String) (bound : ν) : NumberCheck ν where
  holds number := !JsNumber.lt bound number
  message := s!"{label} must be at most {runtime.text (.num bound)}."

def gtCheck (label : String) (bound : ν) : NumberCheck ν where
  holds number := JsNumber.lt bound number
  message := s!"{label} must be greater than {runtime.text (.num bound)}."

def intCheck (label : String) : NumberCheck ν where
  holds := runtime.isSafeInteger
  message := s!"{label} must be a whole number."

/-- A number that may be given as a text; a required one is asked for where there is none. -/
def numberField (label : String) (required : Option Bool) (read : String → Option ν)
    (checks : List (NumberCheck ν)) : Schema ν :=
  let numSchema : Schema ν := .number s!"{label} must be a valid number." checks
  if required = some false then .preprocess (preprocessNumber read) (.optional numSchema)
  else .refine (.preprocess (preprocessNumber read) numSchema) Option.isSome
    s!"{label} is required."

/-- The items have different texts under the keys, of which each is that of a property. -/
def uniqueItems (uniqueBy : List String) (items : Option (Json ν)) : Bool :=
  match items.bind Json.asArray with
  | none => true
  | some items => decide ((items.map fun item => JsText.join '\x00'
      (uniqueBy.map fun key => textOf runtime (item.field key))).Nodup)

def applyArrayConstraints (item : Schema ν) (label : String) (minItems : Option Nat)
    (uniqueBy : List String) (itemProps : List (ObjectPropertyParam ν)) : Schema ν :=
  let schema := Schema.array item (minItems.map (LengthCheck.min label)).toList
  if uniqueBy ≠ [] ∧ uniqueBy.all fun key => itemProps.any fun prop => prop.key = key then
    .refine schema (uniqueItems runtime uniqueBy) s!"Remove duplicate entries from {label}."
  else schema

mutual

def buildObjectPropertySchema : ObjectPropertyParam ν → Schema ν
  | ⟨key, type, label, required, enum, min, max, exclusiveMin, minItems, uniqueBy, properties,
      _, _⟩ =>
      let propLabel := label.getD key
      if enum ≠ [] then
        requiredUnless required
          (.enum enum (s!"{propLabel} must be one of: " ++ ", ".intercalate enum ++ "."))
      else if type = "string" then
        requiredUnless required (.string (StringCheck.trim ::
          if required = some false then [] else [StringCheck.min 1 s!"{propLabel} is required."]))
      else if type = "number" ∨ type = "integer" then
        numberField propLabel required runtime.toNumber
          ((if type = "integer" then [intCheck runtime propLabel] else []) ++
            (min.map fun bound => if exclusiveMin then gtCheck runtime propLabel bound
              else minCheck runtime propLabel bound).toList ++
            (max.map (maxCheck runtime propLabel)).toList)
      else if type = "array" then
        requiredUnless required (applyArrayConstraints runtime
          (.record (buildObjectShape properties)) propLabel minItems uniqueBy properties)
      else .string []

/-- The fields of the schema of an object. -/
def buildObjectShape : List (ObjectPropertyParam ν) → List (String × Schema ν)
  | [] => []
  | prop :: rest => (prop.key, buildObjectPropertySchema prop) :: buildObjectShape rest

end

/-- An input with its value; the source has this schema twice, for presets and for entries. -/
def algorithmPresetInputSchema : Schema ν :=
  .record [("key", .string [StringCheck.min 1 "Input key is required."]),
    ("value", .refine .unknown isPresent "Input value is required.")]

def buildSubAlgorithmEntrySchema (label : String) : Schema ν :=
  .record [
    ("algorithm_key", .string [StringCheck.trim,
      StringCheck.min 1 s!"Select an algorithm for {label}."]),
    ("algorithm_version", .string [StringCheck.trim,
      StringCheck.min 1 s!"Select an algorithm version for {label}."]),
    ("weight", .preprocess (preprocessNumber runtime.toNumber)
      (.number s!"The weight for {label} must be a valid number."
        [{ gtCheck runtime s!"The weight for {label}" JsNumber.zero with
            message := s!"The weight for {label} must be greater than 0." }])),
    ("inputs", .array algorithmPresetInputSchema [])]

/-- The key of an entry; a key that is no text is an empty one. -/
def entryKey (entry : Json ν) : String :=
  ((entry.field "algorithm_key").bind Json.asString).getD ""

def getSubAlgorithmEntryWeight (entry : Json ν) : ν :=
  ((entry.field "weight").bind Json.asNumber).getD JsNumber.zero

def uniqueEntries (entries : Option (Json ν)) : Bool :=
  match entries.bind Json.asArray with
  | none => true
  | some entries => decide ((entries.map entryKey).Nodup)

def finiteWeight (entries : Option (Json ν)) : Bool :=
  match entries.bind Json.asArray with
  | none => true
  | some entries => JsNumber.isFinite
      (entries.foldl (fun total entry => JsNumber.add total (getSubAlgorithmEntryWeight entry))
        JsNumber.zero)

def subAlgorithmSchema (input : IoItem ν) (label : String) : Schema ν :=
  let arrSchema := Schema.array (buildSubAlgorithmEntrySchema runtime label)
    ((input.minItems.map (LengthCheck.min label)).toList ++
      (input.maxItems.map (LengthCheck.max label)).toList)
  requiredUnless input.required
    (.refine (.refine arrSchema uniqueEntries s!"Add each algorithm to {label} only once.")
      finiteWeight s!"The total weight for {label} is too large.")

def buildFieldSchema (input : IoItem ν) (label : String) : Schema ν :=
  if input.type = "csv" ∨ input.type = "json" then
    .string [StringCheck.min 1 s!"{label} is required."]
  else if input.type = "number" ∨ input.type = "integer" ∨ input.type = "slider" then
    numberField label input.required runtime.parseFloat
      ((input.min.map (minCheck runtime label)).toList ++
        (input.max.map (maxCheck runtime label)).toList ++
        if input.type = "integer" then [intCheck runtime label] else [])
  else if input.type = "boolean" then requiredUnless input.required .boolean
  else if input.type = "text" ∨ input.type = "string" then
    if input.enum ≠ [] then
      .enum input.enum (s!"{label} must be one of: " ++ ", ".intercalate input.enum ++ ".")
    else
      requiredUnless input.required (.string (StringCheck.trim ::
        (if input.required = some false then []
          else [StringCheck.min 1 s!"{label} is required."]) ++
        (input.minLength.map fun length =>
          StringCheck.min length s!"{label} must be at least {length} characters.").toList ++
        (input.maxLength.map fun length =>
          StringCheck.max length s!"{label} must be at most {length} characters.").toList))
  else if input.type = "array" then
    if input.itemType = some "string" then
      -- a least number of 0 is none
      requiredUnless input.required (.refine
        (.array (.string [StringCheck.trim, StringCheck.min 1 s!"{label} entries cannot be empty."])
          ((input.minItems.filter (· ≠ 0)).map (LengthCheck.min label)).toList)
        (fun items => match items.bind Json.asArray with
          | none => true
          | some items => decide ((items.filterMap Json.asString).Nodup))
        s!"Remove duplicate entries from {label}.")
    else
      requiredUnless input.required (applyArrayConstraints runtime
        (.record (buildObjectShape runtime input.properties)) label input.minItems input.uniqueBy
          input.properties)
  else if input.type = "sub_algorithm" then subAlgorithmSchema runtime input label
  else .string []

def buildZodSchema (inputs : List (IoItem ν)) : Schema ν :=
  .record (inputs.map fun input =>
    (input.key, buildFieldSchema runtime input (input.label.getD input.key)))

end Schemas

/-! ## Options and catalogs -/

inductive ErrorSource where
  | preset
  | payload
  | definition
  | file
  | rule
  deriving DecidableEq, Repr

structure ValidationError where
  field : String
  message : String
  code : Option String := none
  source : Option ErrorSource := none
  deriving DecidableEq, Repr

/-- The text of a field without the space around it; no text is an empty one. -/
def trimmedField (item : Json ν) (name : String) : String :=
  (((item.field name).bind Json.asString).map JsText.trim).getD ""

def resourceErrors (chains : List RawResourceCatalogChain) (path : String) (item : Json ν) :
    List ValidationError :=
  let chainKey := trimmedField item "chain"
  let resourceKey := trimmedField item "resource_key"
  if item.asRecord.isNone ∨ chainKey = "" ∨ resourceKey = "" then []
  else
    match chains.find? (·.key = chainKey) with
    | none => [{
        field := s!"{path}.chain"
        message := "Select a blockchain from the available list."
        code := some "invalid_value" }]
    | some chain =>
        if chain.resources.any (·.key = resourceKey) then []
        else [{
          field := s!"{path}.resource_key"
          message := "Select a resource that is available for this blockchain."
          code := some "invalid_value" }]

def validateResourceSelectorConstraints (inputs : List (IoItem ν)) (payload : Option (Json ν)) :
    List ValidationError :=
  inputs.flatMap fun input =>
    match input.resourceCatalog, (payload.bind (·.field input.key)).bind Json.asArray with
    | some chains, some items => items.zipIdx.flatMap fun (item, index) =>
        resourceErrors chains s!"{input.key}.{index}" item
    | _, _ => []

section Options

variable (runtime : Runtime ν)

/-- The values that the options of a field depend on, by their keys. -/
abbrev Context (ν : Type) := String → Option (Json ν)

/-- `{ ...context, ...item }`. -/
def Context.extend (context : Context ν) (item : List (String × Json ν)) : Context ν :=
  fun key => (item.lookup key).or (context key)

def optionMatchesContext (option : FieldOption) (dependsOn : Option (List String))
    (context : Context ν) : Bool :=
  match option.filters with
  | some (entry :: rest) =>
      (entry :: rest).all fun (key, value) => textOf runtime (context key) = value
  | _ =>
      match option.filterBy with
      | none => true
      | some filterBy =>
          textOf runtime (context ((dependsOn.getD ["chain"]).headD "undefined")) = filterBy

/-- A text must be the value of an option that matches, where options depend on anything. -/
def optionErrors (label path : String) (options : Option (List FieldOption))
    (dependsOn : Option (List String)) (value : Option (Json ν)) (context : Context ν) :
    List ValidationError :=
  match options, value.bind Json.asString with
  | some options, some text =>
      if JsText.trim text = "" ∨
          (options.all fun option => option.filterBy.isNone && option.filters.isNone) ∨
          ((options.filter fun option => optionMatchesContext runtime option dependsOn context).any
            fun option => option.value = text) then []
      else [{
        field := path
        message := s!"{label} does not match the current selection. Select it again."
        code := some "invalid_value" }]
  | _, _ => []

mutual

def validateFieldOptionConstraints (context : Context ν) (path : String) (value : Option (Json ν)) :
    ObjectPropertyParam ν → List ValidationError
  | ⟨key, type, label, _, _, _, _, _, _, _, properties, options, dependsOn⟩ =>
      if type = "array" then
        match value.bind Json.asArray with
        | none => []
        | some items => items.zipIdx.flatMap fun (item, index) =>
            match item.asRecord with
            | none => []
            | some fields =>
                validatePropertyOptions (context.extend fields) s!"{path}.{index}" fields properties
      else optionErrors runtime (label.getD key) path options dependsOn value context

/-- Those of the properties of an item. -/
def validatePropertyOptions (context : Context ν) (path : String)
    (fields : List (String × Json ν)) : List (ObjectPropertyParam ν) → List ValidationError
  | [] => []
  | prop :: rest =>
      validateFieldOptionConstraints context s!"{path}.{prop.key}" (fields.lookup prop.key) prop ++
        validatePropertyOptions context path fields rest

end

/-- What is checked of the options of an input. -/
def IoItem.asField (input : IoItem ν) : ObjectPropertyParam ν where
  key := input.key
  type := input.type
  label := input.label
  properties := input.properties
  options := input.options
  dependsOn := input.dependsOn

def validateConditionalOptionConstraints (inputs : List (IoItem ν)) (payload : Option (Json ν)) :
    List ValidationError :=
  inputs.flatMap fun input =>
    validateFieldOptionConstraints runtime (fun key => payload.bind (·.field key)) input.key
      (payload.bind (·.field input.key)) input.asField

end Options

/-! ## Validation -/

/-- The values of the inputs as they are read, or what is wrong with them. -/
def validatePayload [JsNumber ν] (runtime : Runtime ν) (parser : Parser ν)
    (inputs : List (IoItem ν)) (payload : Option (Json ν)) :
    Except (List ValidationError) (Option (Json ν)) :=
  match parser.safeParse (buildZodSchema runtime inputs) payload with
  | .ok data =>
      match validateConditionalOptionConstraints runtime inputs data ++
        validateResourceSelectorConstraints inputs data with
      | [] => .ok data
      | errors => .error errors
  | .error issues => .error (issues.map fun issue =>
      { field := JsText.join '.' issue.path, message := issue.message, code := some issue.code })

end Reputo.AlgorithmValidator

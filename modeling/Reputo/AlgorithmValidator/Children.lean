import Reputo.AlgorithmValidator.Presets
import Reputo.AlgorithmValidator.Revalidation
import Reputo.Orchestrator.SyncedQueries
import Mathlib.Data.List.Forall2

/-!
# Children of an accepted preset

The validator reads the entries of a combined preset as its schema reads them, the orchestrator
and the computation read them as they are.  What each makes of an entry is compared here: the
three agree on all but the weights and the space around names.
-/

namespace Reputo.AlgorithmValidator

open Reputo.Library Reputo.Orchestrator

variable {ν : Type}

/-! ## Lists that are read entry by entry -/

theorem mapM_eq_some_iff {α β : Type} {read : α → Option β} {items : List α} {others : List β} :
    items.mapM read = some others ↔
      List.Forall₂ (fun item other => read item = some other) items others := by
  induction items generalizing others with
  | nil =>
      rw [List.mapM_nil, List.forall₂_nil_left_iff]
      exact ⟨fun same => (Option.some.inj same).symm, fun same => congrArg some same.symm⟩
  | cons item rest ih =>
      rw [List.mapM_cons, List.forall₂_cons_left_iff]
      constructor
      · intro all
        rcases Option.bind_eq_some_iff.mp all with ⟨head, first, tail⟩
        rcases Option.bind_eq_some_iff.mp tail with ⟨remaining, later, last⟩
        cases Option.some.inj last
        exact ⟨head, remaining, first, ih.mp later, rfl⟩
      · rintro ⟨head, remaining, first, later, rfl⟩
        rw [first, ih.mpr later]
        rfl

theorem exists_of_mem_forall₂ {α β : Type} {related : α → β → Prop} {items : List α}
    {others : List β} (pairs : List.Forall₂ related items others) {item : α}
    (member : item ∈ items) : ∃ other ∈ others, related item other := by
  induction pairs with
  | nil => cases member
  | cons first _ ih =>
      rcases List.mem_cons.mp member with rfl | later
      · exact ⟨_, List.mem_cons_self, first⟩
      · rcases ih later with ⟨other, listed, holds⟩
        exact ⟨other, List.mem_cons_of_mem _ listed, holds⟩

/-- Where nothing is found in all items together, nothing is found in any. -/
theorem nothing_of_mapM {α β : Type} {find : α → Option (List β)} {items : List α}
    {found : List (List β)} (all : items.mapM find = some found) (empty : found.flatten = [])
    {item : α} (member : item ∈ items) : find item = some [] := by
  rcases exists_of_mem_forall₂ (mapM_eq_some_iff.mp all) member with ⟨other, listed, same⟩
  rw [same, List.flatten_eq_nil_iff.mp empty other listed]

/-! ## What the schema reads -/

section Reads

variable [JsNumber ν]

/-- The fields of a record with different names are read one by one. -/
theorem parse_record {shape : List (String × Schema ν)} {value read : Option (Json ν)}
    (parsed : (Schema.record shape).parse value = some read) (nodup : (shape.map Prod.fst).Nodup) :
    ∃ fields others, value = some (.obj fields) ∧ read = some (.obj others) ∧
      ∀ field ∈ shape, field.2.parse (fields.lookup field.1) = some (others.lookup field.1) := by
  rw [Schema.record, OrderedMap.entries_ofPairs_of_nodup nodup] at parsed
  rcases Schema.parse_object.mp parsed with ⟨fields, others, given, parsedFields, same⟩
  exact ⟨fields, others, given, same, fun field member =>
    Schema.lookup_parseFields nodup parsedFields member⟩

/-- What an input of an entry is read as: its key, and a value. -/
theorem parse_input {value read : Option (Json ν)}
    (parsed : (algorithmPresetInputSchema : Schema ν).parse value = some read) :
    ∃ given after, value = some given ∧ read = some after ∧ ∃ key held,
      isPresetInputLike given = some ⟨key, some held⟩ ∧
        isPresetInputLike after = some ⟨key, some held⟩ := by
  have nodup : ["key", "value"].Nodup := by decide
  rw [algorithmPresetInputSchema] at parsed
  rcases parse_record parsed nodup with ⟨fields, others, rfl, rfl, reads⟩
  have keyRead := reads _ List.mem_cons_self
  have valueRead := reads _ (List.mem_cons_of_mem _ List.mem_cons_self)
  rcases Schema.parse_string.mp keyRead with ⟨key, after, given, checked, same⟩
  have unchanged : after = key :=
    (Option.some.inj (Option.ite_none_right_eq_some.mp checked).2).symm
  rcases Schema.parse_refine.mp valueRead with ⟨sameValue, present⟩
  rw [Schema.parse, Option.some.injEq] at sameValue
  cases held : fields.lookup "value" with
  | none =>
      rw [← sameValue, held] at present
      cases present
  | some value =>
      refine ⟨_, _, rfl, rfl, key, value, ?_, ?_⟩
      · simp only [isPresetInputLike, Json.asRecord, Json.field, Option.bind_some, given, held]
        rfl
      · rw [unchanged] at same
        simp only [isPresetInputLike, Json.asRecord, Json.field, Option.bind_some, same,
          ← sameValue, held]
        rfl

/-- An entry with trimmed names. -/
def trimmedEntry (entry : SubAlgorithmEntry ν) : SubAlgorithmEntry ν :=
  { entry with
    algorithm_key := JsText.trim entry.algorithm_key
    algorithm_version := JsText.trim entry.algorithm_version }

/-- A value is read as an entry: with trimmed names, the weight that may be given as a text, and
its inputs as they are. -/
structure EntryReads (runtime : Runtime ν) (given after : Json ν) (entry : SubAlgorithmEntry ν) :
    Prop where
  key : given.field "algorithm_key" = some (.str entry.algorithm_key)
  version : given.field "algorithm_version" = some (.str entry.algorithm_version)
  weight : preprocessNumber runtime.toNumber (given.field "weight") = some (.num entry.weight)
  inputs : ∃ items, given.field "inputs" = some (.arr items) ∧
    items.mapM isPresetInputLike = some entry.inputs
  after : isSubAlgorithmEntryLike after = some (trimmedEntry entry)
  named : JsText.trim entry.algorithm_key ≠ "" ∧ JsText.trim entry.algorithm_version ≠ ""
  weighted : JsNumber.isFinite entry.weight = true ∧ JsNumber.lt JsNumber.zero entry.weight = true
  present : ∀ input ∈ entry.inputs, input.value.isSome = true

theorem parse_trimmed {message : String} {value read : Option (Json ν)}
    (parsed : (Schema.string [StringCheck.trim, StringCheck.min 1 message] : Schema ν).parse value =
      some read) :
    ∃ text, value = some (.str text) ∧ read = some (.str (JsText.trim text)) ∧
      JsText.trim text ≠ "" := by
  rcases Schema.parse_string.mp parsed with ⟨text, after, given, checked, same⟩
  rw [StringCheck.trim, StringCheck.min, runChecks, runChecks, runChecks] at checked
  rcases Option.ite_none_right_eq_some.mp checked with ⟨long, unchanged⟩
  cases Option.some.inj unchanged
  refine ⟨text, given, same, ?_⟩
  intro empty
  rw [empty] at long
  exact absurd long (by decide)

/-- Inputs are read as they are, up to what a record has beside a key and a value. -/
theorem inputs_of_parse {items others : List (Json ν)}
    (read : items.mapM algorithmPresetInputSchema.parseEntry = some others) :
    ∃ inputs : List (PresetInput ν), items.mapM isPresetInputLike = some inputs ∧
      others.mapM isPresetInputLike = some inputs ∧
        ∀ input ∈ inputs, input.value.isSome = true := by
  have entries := mapM_eq_some_iff.mp read
  clear read
  induction entries with
  | nil => exact ⟨[], rfl, rfl, fun _ member => absurd member List.not_mem_nil⟩
  | cons entry _ ih =>
      rcases parse_input (Schema.parseEntry_eq_some.mp entry) with
        ⟨given, after, same, read, key, held, first, second⟩
      cases same
      cases read
      rcases ih with ⟨inputs, items, others, present⟩
      refine ⟨⟨key, some held⟩ :: inputs, ?_, ?_, ?_⟩
      · rw [List.mapM_cons, first, items]
        rfl
      · rw [List.mapM_cons, second, others]
        rfl
      · intro input member
        rcases List.mem_cons.mp member with rfl | later
        · rfl
        · exact present input later

theorem exists_entryReads {runtime : Runtime ν} {label : String} {given after : Json ν}
    (parsed : (buildSubAlgorithmEntrySchema runtime label).parse (some given) = some (some after)) :
    ∃ entry, EntryReads runtime given after entry := by
  have nodup : ["algorithm_key", "algorithm_version", "weight", "inputs"].Nodup := by decide
  rw [buildSubAlgorithmEntrySchema] at parsed
  rcases parse_record parsed nodup with ⟨fields, others, same, read, reads⟩
  cases same
  cases read
  rcases parse_trimmed (reads _ List.mem_cons_self) with ⟨key, givenKey, afterKey, named⟩
  rcases parse_trimmed (reads _ (List.mem_cons_of_mem _ List.mem_cons_self)) with
    ⟨version, givenVersion, afterVersion, versioned⟩
  have weightRead := reads _ (List.mem_cons_of_mem _ (List.mem_cons_of_mem _ List.mem_cons_self))
  have inputsRead := reads _ (List.mem_cons_of_mem _ (List.mem_cons_of_mem _
    (List.mem_cons_of_mem _ List.mem_cons_self)))
  rw [Schema.parse] at weightRead
  rcases Schema.parse_number.mp weightRead with ⟨weight, givenWeight, finite, checked, afterWeight⟩
  rcases Schema.parse_array.mp inputsRead with ⟨items, entries, givenInputs, mapped, _, afterInputs⟩
  rcases inputs_of_parse mapped with ⟨inputs, givenRead, afterRead, present⟩
  refine ⟨⟨key, version, weight, inputs⟩, givenKey, givenVersion, givenWeight,
    ⟨items, givenInputs, givenRead⟩, ?_, ⟨named, versioned⟩, ⟨finite, checked _ List.mem_cons_self⟩,
    present⟩
  have heldKey : (Json.obj others).field "algorithm_key" = some (.str (JsText.trim key)) := afterKey
  have heldVersion : (Json.obj others).field "algorithm_version" =
      some (.str (JsText.trim version)) := afterVersion
  have heldWeight : (Json.obj others).field "weight" = some (.num weight) :=
    afterWeight.trans givenWeight
  have heldInputs : (Json.obj others).field "inputs" = some (.arr entries) := afterInputs
  rw [isSubAlgorithmEntryLike, heldKey, heldVersion, heldWeight, heldInputs]
  simp only [Json.asString, Json.asNumber, Json.asArray, Option.bind_eq_bind, Option.bind_some,
    afterRead]
  rfl

/-- The entries of a combined algorithm are read one by one. -/
def EntriesRead (runtime : Runtime ν) (value read : Option (Json ν)) : Prop :=
  ∃ items others, value = some (.arr items) ∧ read = some (.arr others) ∧
    List.Forall₂ (fun given after => ∃ entry, EntryReads runtime given after entry) items others ∧
      (others.map entryKey).Nodup ∧ finiteWeight (some (.arr others)) = true

theorem entriesRead_of_parse {runtime : Runtime ν} {checks : List LengthCheck}
    {label unique finite : String} {value read : Option (Json ν)}
    (parsed : (Schema.refine (.refine (.array (buildSubAlgorithmEntrySchema runtime label) checks)
      uniqueEntries unique) finiteWeight finite).parse value = some read) :
    EntriesRead runtime value read := by
  rcases Schema.parse_refine.mp parsed with ⟨once, finite⟩
  rcases Schema.parse_refine.mp once with ⟨listed, unique⟩
  rcases Schema.parse_array.mp listed with ⟨items, others, given, mapped, _, rfl⟩
  refine ⟨items, others, given, rfl, ?_, of_decide_eq_true unique, finite⟩
  exact (mapM_eq_some_iff.mp mapped).imp fun given after parsedEntry =>
    exists_entryReads (Schema.parseEntry_eq_some.mp parsedEntry)

/-- There may be no entries where they are not required. -/
theorem parse_subAlgorithmSchema {runtime : Runtime ν} {input : IoItem ν} {label : String}
    {value read : Option (Json ν)}
    (parsed : (subAlgorithmSchema runtime input label).parse value = some read) :
    value = none ∧ read = none ∧ input.required = some false ∨ EntriesRead runtime value read := by
  rw [subAlgorithmSchema, requiredUnless] at parsed
  split at parsed
  · rename_i optional
    cases value with
    | none =>
        rw [Schema.parse_optional_none] at parsed
        exact Or.inl ⟨rfl, (Option.some.inj parsed).symm, optional⟩
    | some present =>
        rw [Schema.parse_optional] at parsed
        exact Or.inr (entriesRead_of_parse parsed)
  · exact Or.inr (entriesRead_of_parse parsed)

end Reads

/-! ## What acceptance says -/

theorem nodup_of_duplicateKeys {seen keys : List String} (none : duplicateKeys seen keys = []) :
    keys.Nodup ∧ ∀ key ∈ keys, key ∉ seen := by
  induction keys generalizing seen with
  | nil => exact ⟨List.nodup_nil, fun _ member => absurd member List.not_mem_nil⟩
  | cons key rest ih =>
      rw [duplicateKeys] at none
      split at none
      · cases none
      · rename_i fresh
        rcases ih none with ⟨nodup, others⟩
        constructor
        · exact List.nodup_cons.mpr ⟨fun member => others key member List.mem_cons_self, nodup⟩
        · intro other member
          rcases List.mem_cons.mp member with rfl | later
          · exact fresh
          · exact fun earlier => others other later (List.mem_cons_of_mem _ earlier)

theorem nodup_of_no_duplicates {inputs : List (PresetInput ν)}
    (none : getDuplicateInputErrors inputs = []) : (inputs.map (·.key)).Nodup := by
  have empty := List.map_eq_nil_iff.mp none
  have repeated : duplicateKeys [] (inputs.map (·.key)) = [] := by
    apply List.eq_nil_iff_forall_not_mem.mpr
    intro key member
    have listed := mem_distinctBy_id.mpr member
    rw [empty] at listed
    cases listed
  exact (nodup_of_duplicateKeys repeated).1

/-- The values of the inputs by their keys. -/
def inputValues (inputs : List (PresetInput ν)) : List (String × Json ν) :=
  inputs.filterMap fun input => input.value.map (input.key, ·)

theorem keys_inputValues (inputs : List (PresetInput ν)) :
    ((inputValues inputs).map Prod.fst).Sublist (inputs.map (·.key)) := by
  induction inputs with
  | nil => exact List.Sublist.slnil
  | cons input rest ih =>
      rw [inputValues, List.filterMap_cons, List.map_cons]
      cases input.value with
      | none => exact ih.cons _
      | some value => exact ih.cons_cons _

theorem findValue_cons (input : PresetInput ν) (rest : List (PresetInput ν)) (key : String) :
    findValue (input :: rest) key =
      if input.key = key then input.value else findValue rest key := by
  rw [findValue, List.find?_cons]
  by_cases same : input.key = key
  · rw [decide_eq_true same, if_pos same]
    rfl
  · rw [decide_eq_false same, if_neg same]
    rfl

theorem lookup_inputValues {inputs : List (PresetInput ν)} (nodup : (inputs.map (·.key)).Nodup)
    (key : String) : (inputValues inputs).lookup key = findValue inputs key := by
  induction inputs with
  | nil => rfl
  | cons input rest ih =>
      rw [List.map_cons, List.nodup_cons] at nodup
      have later := ih nodup.2
      rw [findValue_cons, inputValues, List.filterMap_cons]
      by_cases same : input.key = key
      · rw [if_pos same]
        cases input.value with
        | some value =>
            rw [same]
            exact List.lookup_cons_self
        | none =>
            have absent : ∀ other ∈ rest, ¬decide (other.key = key) = true := by
              intro other member equal
              apply nodup.1
              rw [same, ← of_decide_eq_true equal]
              exact List.mem_map.mpr ⟨other, member, rfl⟩
            refine later.trans ?_
            rw [findValue, List.find?_eq_none.mpr absent]
            rfl
      · rw [if_neg same]
        cases input.value with
        | some value => exact (OrderedMap.lookup_cons_of_ne _ _ (Ne.symm same)).trans later
        | none => exact later

theorem field_buildPayload {inputs : List (PresetInput ν)} (nodup : (inputs.map (·.key)).Nodup)
    (key : String) : (buildPayload inputs).field key = findValue inputs key := by
  have different := nodup.sublist (keys_inputValues inputs)
  have entries := OrderedMap.entries_ofPairs_of_nodup different
  rw [← lookup_inputValues nodup, ← entries]
  rfl

section Acceptance

variable [JsNumber ν] {runtime : Runtime ν} {parser : Parser ν}
  {args : ValidateAlgorithmPresetArgs ν} {definition : AlgorithmDefinition ν}
  {preset : AlgorithmPresetFrozen ν} {payload : Option (Json ν)} {fuel : Nat}

/-- The parts of an accepted preset. -/
structure Accepts (runtime : Runtime ν) (parser : Parser ν) (args : ValidateAlgorithmPresetArgs ν)
    (definition : AlgorithmDefinition ν) (preset : AlgorithmPresetFrozen ν)
    (payload : Option (Json ν)) (fuel : Nat) : Prop where
  key : preset.key = definition.key
  version : preset.version = definition.version
  nodup : (preset.inputs.map (·.key)).Nodup
  values : validatePayload runtime parser definition.inputs (some (buildPayload preset.inputs)) =
    .ok payload
  nested : validateNestedSubAlgorithms args (validateAlgorithmPreset runtime parser args fuel)
    definition preset payload = some []

omit [JsNumber ν] in
theorem accepts_of_contents {values : Option (Json ν)}
    {validateChild : AlgorithmDefinition ν → AlgorithmPresetFrozen ν → Option (PresetResult ν)}
    (accepted : validateContents args validateChild definition preset values = some (.ok payload)) :
    values = payload ∧
      validateNestedSubAlgorithms args validateChild definition preset payload = some [] := by
  rw [validateContents] at accepted
  rcases Option.bind_eq_some_iff.mp accepted with ⟨nestedErrors, nested, last⟩
  have result := Option.some.inj last
  split at result
  · rename_i empty
    cases result
    rw [List.isEmpty_iff] at empty
    rw [(List.append_eq_nil_iff.mp empty).2] at nested
    exact ⟨rfl, nested⟩
  · cases result

theorem accepts_of_validated
    (accepted : validateAlgorithmPreset runtime parser args (fuel + 1) definition preset =
      some (.ok payload)) : Accepts runtime parser args definition preset payload fuel := by
  rw [validateAlgorithmPreset] at accepted
  split at accepted
  · cases accepted
  · split at accepted
    · cases accepted
    · rename_i validated
      dsimp only at accepted
      split at accepted
      · rename_i empty
        rw [List.isEmpty_iff] at empty
        rcases List.append_eq_nil_iff.mp empty with ⟨front, _⟩
        rcases List.append_eq_nil_iff.mp front with ⟨consistent, different⟩
        rcases List.append_eq_nil_iff.mp consistent with ⟨keyErrors, versionErrors⟩
        rcases accepts_of_contents accepted with ⟨rfl, nested⟩
        refine ⟨?_, ?_, nodup_of_no_duplicates different, validated, nested⟩
        · by_contra other
          rw [if_neg other] at keyErrors
          cases keyErrors
        · by_contra other
          rw [if_neg other] at versionErrors
          cases versionErrors
      · cases accepted

/-! ### A failure reports an error -/

theorem validatePayload_reports {inputs : List (IoItem ν)} :
    validatePayload runtime parser inputs payload ≠ .error [] := by
  rw [validatePayload]
  split
  · split
    · intro failed
      cases failed
    · rename_i present
      intro failed
      exact present (Except.error.inj failed)
  · rename_i issues failed
    intro empty
    rw [List.map_eq_nil_iff.mp (Except.error.inj empty)] at failed
    exact parser.reports _ _ failed

omit [JsNumber ν] in
theorem validateContents_reports {values : Option (Json ν)}
    {validateChild : AlgorithmDefinition ν → AlgorithmPresetFrozen ν → Option (PresetResult ν)} :
    validateContents args validateChild definition preset values ≠ some (.error []) := by
  intro failed
  rw [validateContents] at failed
  rcases Option.bind_eq_some_iff.mp failed with ⟨nestedErrors, _, last⟩
  have result := Option.some.inj last
  split at result
  · cases result
  · rename_i present
    rw [Except.error.inj result] at present
    exact present rfl

theorem validateAlgorithmPreset_reports :
    validateAlgorithmPreset runtime parser args fuel definition preset ≠ some (.error []) := by
  cases fuel with
  | zero =>
      intro failed
      cases failed
  | succ fuel =>
      rw [validateAlgorithmPreset]
      split
      · rename_i issues failed
        intro empty
        rw [List.map_eq_nil_iff.mp (Except.error.inj (Option.some.inj empty))] at failed
        exact parser.reports _ _ failed
      · split
        · rename_i errors failed
          intro empty
          have none := (List.append_eq_nil_iff.mp (Except.error.inj (Option.some.inj empty))).2
          rw [List.map_eq_nil_iff.mp none] at failed
          exact validatePayload_reports failed
        · dsimp only
          split
          · exact validateContents_reports
          · rename_i present
            intro empty
            rw [Except.error.inj (Option.some.inj empty)] at present
            exact present rfl

/-! ### The entries of an accepted preset -/

variable {input : IoItem ν}

/-- The values of a combined algorithm's input before and after they are read. -/
theorem Accepts.entries (accepts : Accepts runtime parser args definition preset payload fuel)
    (distinct : (definition.inputs.map (·.key)).Nodup) (member : input ∈ definition.inputs)
    (combined : input.type = "sub_algorithm") :
    findValue preset.inputs input.key = none ∧ payload.bind (·.field input.key) = none ∧
        input.required = some false ∨
      EntriesRead runtime (findValue preset.inputs input.key)
        (payload.bind (·.field input.key)) := by
  rcases validatePayload_eq_ok.mp accepts.values with ⟨parsed, _, _⟩
  have keys : (((definition.inputs.map fun input => (input.key, buildFieldSchema runtime input
      (input.label.getD input.key)))).map Prod.fst).Nodup := by
    rw [List.map_map]
    exact distinct
  rw [buildZodSchema] at parsed
  rcases parse_record parsed keys with ⟨fields, others, given, rfl, reads⟩
  have read := reads _ (List.mem_map_of_mem member)
  have value : fields.lookup input.key = findValue preset.inputs input.key := by
    rw [← field_buildPayload accepts.nodup, Option.some.inj given]
    rfl
  rw [value] at read
  have schema : buildFieldSchema runtime input (input.label.getD input.key) =
      subAlgorithmSchema runtime input (input.label.getD input.key) := by
    rw [buildFieldSchema, combined]
    rfl
  rw [schema] at read
  exact parse_subAlgorithmSchema read

/-- An entry with nothing wrong has a preset that its definition accepts. -/
theorem accepted_of_validateEntry {sharedInputs : List (PresetInput ν)} {childIndex : Nat}
    {entry : SubAlgorithmEntry ν}
    (fine : validateEntry args (validateAlgorithmPreset runtime parser args fuel) definition
      sharedInputs input childIndex entry = some []) :
    ∃ childDefinition childPayload,
      resolveNestedDefinition args definition input entry childIndex = .ok childDefinition ∧
        childDefinition.kind ≠ "combined" ∧ sharedKeyErrors input childIndex entry = [] ∧
          validateAlgorithmPreset runtime parser args fuel childDefinition
            (childPreset input.sharedInputKeys sharedInputs entry) = some (.ok childPayload) := by
  rw [validateEntry] at fine
  split at fine
  · cases fine
  · rename_i childDefinition resolved
    split at fine
    · have none := (List.append_eq_nil_iff.mp (Option.some.inj fine)).2
      cases none
    · rename_i standalone
      rcases Option.map_eq_some_iff.mp fine with ⟨result, validated, noErrors⟩
      cases result with
      | ok childPayload =>
          exact ⟨childDefinition, childPayload, resolved, standalone, noErrors, validated⟩
      | error errors =>
          rw [List.map_eq_nil_iff.mp (List.append_eq_nil_iff.mp noErrors).2] at validated
          exact absurd validated validateAlgorithmPreset_reports

/-- Every entry that the validator reads is accepted as a preset of its own. -/
theorem Accepts.child (accepts : Accepts runtime parser args definition preset payload fuel)
    (member : input ∈ definition.inputs) (combined : input.type = "sub_algorithm")
    {others : List (Json ν)} (held : payload.bind (·.field input.key) = some (.arr others))
    {after : Json ν} (listed : after ∈ others) {entry : SubAlgorithmEntry ν}
    (shape : isSubAlgorithmEntry after = some entry) :
    ∃ childIndex, validateEntry args (validateAlgorithmPreset runtime parser args fuel) definition
      (preset.inputs.filter (·.key ∈ input.sharedInputKeys)) input childIndex entry = some [] := by
  have nested := accepts.nested
  rw [validateNestedSubAlgorithms] at nested
  rcases Option.map_eq_some_iff.mp nested with ⟨found, all, empty⟩
  have here := nothing_of_mapM all empty (List.mem_filter.mpr ⟨member, decide_eq_true combined⟩)
  rw [validateEntries, held] at here
  rcases Option.map_eq_some_iff.mp here with ⟨errors, entries, noErrors⟩
  rcases List.mem_iff_getElem?.mp listed with ⟨childIndex, place⟩
  have indexed : (after, childIndex) ∈ others.zipIdx := List.mem_zipIdx_iff_getElem?.mpr place
  have fine := nothing_of_mapM entries noErrors indexed
  rw [validateRawEntry, shape] at fine
  exact ⟨childIndex, fine⟩

end Acceptance

/-! ## Entries as they are given -/

section Given

variable [JsNumber ν] {runtime : Runtime ν} {given after : Json ν} {entry : SubAlgorithmEntry ν}

/-- The orchestrator reads the same entry where its weight is given as a number, and none where it
is not. -/
theorem EntryReads.like_iff (reads : EntryReads runtime given after entry)
    {other : SubAlgorithmEntry ν} :
    isSubAlgorithmEntryLike given = some other ↔
      given.field "weight" = some (.num entry.weight) ∧ other = entry := by
  rcases reads.inputs with ⟨items, listed, mapped⟩
  have numbered := reads.weight
  cases held : given.field "weight" with
  | none =>
      rw [held] at numbered
      cases numbered
  | some weight =>
      rw [held] at numbered
      rw [isSubAlgorithmEntryLike, reads.key, reads.version, held, listed]
      cases weight with
      | num weight =>
          cases numbered
          simp only [Json.asString, Json.asNumber, Json.asArray, Option.bind_eq_bind,
            Option.bind_some, mapped, true_and]
          exact ⟨fun same => (Option.some.inj same).symm, fun same => congrArg some same.symm⟩
      | _ => simp [Json.asString, Json.asNumber]

/-- An entry that the validator reads keeps its inputs. -/
theorem EntryReads.isSubAlgorithmEntry (reads : EntryReads runtime given after entry) :
    isSubAlgorithmEntry after = some (trimmedEntry entry) := by
  rw [AlgorithmValidator.isSubAlgorithmEntry, reads.after]
  exact Option.filter_eq_some_iff.mpr ⟨rfl, List.all_eq_true.mpr reads.present⟩

/-- What the computation reads of an entry whose weight is given as a number. -/
theorem EntryReads.parseChildEntry (reads : EntryReads runtime given after entry)
    (weight : given.field "weight" = some (.num entry.weight)) (index : Nat) :
    parseChildEntry given index = .ok entry := by
  rcases reads.inputs with ⟨items, listed, mapped⟩
  have isRecord : ∃ fields, given = .obj fields := by
    cases given with
    | obj fields => exact ⟨fields, rfl⟩
    | _ => cases weight
  rcases isRecord with ⟨fields, rfl⟩
  have weighted :
      (JsNumber.isFinite entry.weight && JsNumber.lt JsNumber.zero entry.weight) = true :=
    Bool.and_eq_true_iff.mpr reads.weighted
  simp only [Orchestrator.parseChildEntry, Json.asRecord, Json.asString, Json.asNumber,
    Json.asArray, reads.key, reads.version, weight, listed, Option.bind_some, mapped,
    Option.filter_some, decide_eq_true reads.named.1, decide_eq_true reads.named.2, weighted,
    if_true]
  rfl

omit [JsNumber ν] in
theorem fields_of_like {value : Json ν} {like : SubAlgorithmEntry ν}
    (read : isSubAlgorithmEntryLike value = some like) :
    value.field "algorithm_key" = some (.str like.algorithm_key) ∧
      value.field "weight" = some (.num like.weight) := by
  rw [isSubAlgorithmEntryLike] at read
  rcases Option.bind_eq_some_iff.mp read with ⟨keyValue, keyField, afterKey⟩
  rcases Option.bind_eq_some_iff.mp afterKey with ⟨key, keyText, afterKeyText⟩
  rcases Option.bind_eq_some_iff.mp afterKeyText with ⟨_, _, afterVersion⟩
  rcases Option.bind_eq_some_iff.mp afterVersion with ⟨_, _, afterVersionText⟩
  rcases Option.bind_eq_some_iff.mp afterVersionText with ⟨weightValue, weightField, afterWeight⟩
  rcases Option.bind_eq_some_iff.mp afterWeight with ⟨weight, weightNumber, afterNumber⟩
  rcases Option.bind_eq_some_iff.mp afterNumber with ⟨_, _, afterInputs⟩
  rcases Option.bind_eq_some_iff.mp afterInputs with ⟨_, _, afterItems⟩
  rcases Option.bind_eq_some_iff.mp afterItems with ⟨_, _, built⟩
  cases Option.some.inj built
  have text := bind_asString_eq_some.mp (Option.bind_eq_some_iff.mpr ⟨keyValue, keyField, keyText⟩)
  have number := bind_asNumber_eq_some.mp
    (Option.bind_eq_some_iff.mpr ⟨weightValue, weightField, weightNumber⟩)
  exact ⟨text, number⟩

theorem EntryReads.entryKey (reads : EntryReads runtime given after entry) :
    entryKey after = JsText.trim entry.algorithm_key := by
  rw [AlgorithmValidator.entryKey, (fields_of_like reads.after).1]
  rfl

theorem EntryReads.getSubAlgorithmEntryWeight (reads : EntryReads runtime given after entry) :
    getSubAlgorithmEntryWeight after = entry.weight := by
  rw [AlgorithmValidator.getSubAlgorithmEntryWeight, (fields_of_like reads.after).2]
  rfl

/-! ### All entries together -/

omit [JsNumber ν] in
theorem duplicateKey_eq_none {seen : List String} {children : List (SubAlgorithmEntry ν)}
    (nodup : (children.map (·.algorithm_key)).Nodup)
    (unseen : ∀ child ∈ children, child.algorithm_key ∉ seen) :
    duplicateKey seen children = none := by
  induction children generalizing seen with
  | nil => rfl
  | cons child rest ih =>
      rw [List.map_cons, List.nodup_cons] at nodup
      rw [duplicateKey, if_neg (unseen child List.mem_cons_self)]
      refine ih nodup.2 fun other later => ?_
      rw [List.mem_cons, not_or]
      refine ⟨fun same => nodup.1 ?_, unseen other (List.mem_cons_of_mem _ later)⟩
      rw [← same]
      exact List.mem_map.mpr ⟨other, later, rfl⟩

/-- The entries that are read, where every weight is given as a number. -/
theorem exists_children {items others : List (Json ν)}
    (pairs : List.Forall₂ (fun given after => ∃ entry, EntryReads runtime given after entry)
      items others)
    (weights : ∀ given ∈ items, ∃ weight, given.field "weight" = some (.num weight)) :
    ∃ children : List (SubAlgorithmEntry ν),
      (∀ start, List.Forall₂ (fun value child =>
        Orchestrator.parseChildEntry value.1 value.2 = .ok child) (items.zipIdx start) children) ∧
      others.map AlgorithmValidator.entryKey =
        children.map (fun child => JsText.trim child.algorithm_key) ∧
      others.map AlgorithmValidator.getSubAlgorithmEntryWeight = children.map (·.weight) := by
  induction pairs with
  | nil => exact ⟨[], fun _ => .nil, rfl, rfl⟩
  | cons first _ ih =>
      rcases first with ⟨entry, reads⟩
      rcases ih fun given later => weights given (List.mem_cons_of_mem _ later) with
        ⟨children, parsed, keys, sums⟩
      rcases weights _ List.mem_cons_self with ⟨weight, numbered⟩
      have same : weight = entry.weight := by
        have read := reads.weight
        rw [numbered] at read
        cases read
        rfl
      rw [same] at numbered
      refine ⟨entry :: children, fun start => ?_, ?_, ?_⟩
      · rw [List.zipIdx_cons]
        exact .cons (reads.parseChildEntry numbered start) (parsed (start + 1))
      · rw [List.map_cons, List.map_cons, reads.entryKey, keys]
      · rw [List.map_cons, List.map_cons, reads.getSubAlgorithmEntryWeight, sums]

end Given

/-! ## A combined preset with one child -/

private def sampleChild : AlgorithmDefinition ℚ where
  key := "voting"
  name := "Voting"
  version := "1.0.0"
  inputs := [{ key := "threshold", type := "number" }]

private def sampleCombined : AlgorithmDefinition ℚ where
  key := "custom_score"
  name := "Custom score"
  version := "1.0.0"
  kind := "combined"
  inputs := [{ key := "sub_algorithms", type := "sub_algorithm", minItems := some 1 }]

private def sampleArgs : ValidateAlgorithmPresetArgs ℚ where
  checkFile _ _ := ⟨[], none⟩
  resolveNestedDefinition := some fun request =>
    .ok (if request.algorithmKey = "voting" then some sampleChild else none)

private def sampleEntry : Json ℚ := .obj [
  ("algorithm_key", .str " voting"), ("algorithm_version", .str "1.0.0"), ("weight", .num 1),
  ("inputs", .arr [.obj [("key", .str "threshold"), ("value", .num 3)]])]

private def sampleCombinedPreset : AlgorithmPresetFrozen ℚ where
  key := "custom_score"
  version := "1.0.0"
  inputs := [⟨"sub_algorithms", some (.arr [sampleEntry])⟩]

theorem validateAlgorithmPreset_sample : ∃ payload,
    validateAlgorithmPreset sampleRuntime .plain sampleArgs 2 sampleCombined sampleCombinedPreset =
      some (.ok payload) :=
  ⟨_, rfl⟩

/-! ## Children of an accepted preset -/

section Children

variable [JsNumber ν] {runtime : Runtime ν} {parser : Parser ν}
  {args : ValidateAlgorithmPresetArgs ν} {definition : AlgorithmDefinition ν}
  {preset : AlgorithmPresetFrozen ν} {payload : Option (Json ν)} {fuel : Nat}

/-- A preset with trimmed names. -/
def trimmedPreset (preset : AlgorithmPresetFrozen ν) : AlgorithmPresetFrozen ν :=
  { preset with key := JsText.trim preset.key, version := JsText.trim preset.version }

/-- The definition that the names of a preset are resolved to. -/
def ResolvesTo (args : ValidateAlgorithmPresetArgs ν) (preset : AlgorithmPresetFrozen ν)
    (definition : AlgorithmDefinition ν) : Prop :=
  ∃ resolve request, args.resolveNestedDefinition = some resolve ∧
    request.algorithmKey = preset.key ∧ request.algorithmVersion = preset.version ∧
      resolve request = .ok (some definition)

omit [JsNumber ν] in
theorem resolvesTo_of_ok {input : IoItem ν} {entry : SubAlgorithmEntry ν} {childIndex : Nat}
    {resolved : AlgorithmDefinition ν} {child : AlgorithmPresetFrozen ν}
    (found : resolveNestedDefinition args definition input entry childIndex = .ok resolved)
    (key : child.key = entry.algorithm_key) (version : child.version = entry.algorithm_version) :
    ResolvesTo args child resolved := by
  rw [resolveNestedDefinition] at found
  split at found
  · cases found
  · rename_i resolve given
    split at found
    · rename_i other resolves
      cases found
      exact ⟨resolve, _, given, key.symm, version.symm, resolves⟩
    · cases found
    · cases found
    · cases found

/-- Every child that is started for an accepted preset would, with trimmed names, be accepted as
a preset of its own. -/
theorem buildCombinedChildAlgorithmPresets_accepted
    (distinct : (definition.inputs.map (·.key)).Nodup)
    (accepted : validateAlgorithmPreset runtime parser args (fuel + 1) definition preset =
      some (.ok payload)) :
    ∀ child ∈ buildCombinedChildAlgorithmPresets preset definition.read,
      ∃ childDefinition childPayload, ResolvesTo args (trimmedPreset child) childDefinition ∧
        childDefinition.kind ≠ "combined" ∧
          validateAlgorithmPreset runtime parser args fuel childDefinition (trimmedPreset child) =
            some (.ok childPayload) := by
  intro child started
  have accepts := accepts_of_validated accepted
  rw [buildCombinedChildAlgorithmPresets, AlgorithmDefinition.read, List.flatMap_map] at started
  rcases List.mem_flatMap.mp started with ⟨input, member, here⟩
  split at here
  · cases here
  · rename_i combined
    rw [not_not] at combined
    rcases accepts.entries distinct member combined with
      ⟨absent, _⟩ | ⟨items, others, held, read, pairs, _⟩
    · simp only [absent] at here
      cases here
    · simp only [held, Option.bind_some, Json.asArray] at here
      rcases List.mem_map.mp here with ⟨entry, listed, rfl⟩
      rcases List.mem_filterMap.mp listed with ⟨given, item, like⟩
      rcases exists_of_mem_forall₂ pairs item with ⟨after, other, own, reads⟩
      cases (reads.like_iff.mp like).2
      rcases accepts.child member combined read other reads.isSubAlgorithmEntry with
        ⟨childIndex, fine⟩
      rcases accepted_of_validateEntry fine with
        ⟨childDefinition, childPayload, resolved, standalone, _, validated⟩
      exact ⟨childDefinition, childPayload, resolvesTo_of_ok resolved rfl rfl, standalone,
        validated⟩

/-- The preset with one child starts that child. -/
theorem buildCombinedChildAlgorithmPresets_accepted_sample :
    buildCombinedChildAlgorithmPresets sampleCombinedPreset sampleCombined.read =
        [⟨" voting", "1.0.0", [⟨"threshold", some (.num 3)⟩]⟩] ∧
      ∀ child ∈ buildCombinedChildAlgorithmPresets sampleCombinedPreset sampleCombined.read,
        ∃ childDefinition childPayload,
          ResolvesTo sampleArgs (trimmedPreset child) childDefinition ∧
            childDefinition.kind ≠ "combined" ∧
              validateAlgorithmPreset sampleRuntime .plain sampleArgs 1 childDefinition
                (trimmedPreset child) = some (.ok childPayload) := by
  rcases validateAlgorithmPreset_sample with ⟨_, accepted⟩
  exact ⟨rfl, buildCombinedChildAlgorithmPresets_accepted (by decide) accepted⟩

omit [JsNumber ν] in
/-- Keys that differ with trimmed spaces differ. -/
theorem nodup_of_trimmed {children : List (SubAlgorithmEntry ν)}
    (nodup : (children.map fun child => JsText.trim child.algorithm_key).Nodup) :
    (children.map (·.algorithm_key)).Nodup := by
  have trimmed : ((children.map (·.algorithm_key)).map JsText.trim).Nodup := by
    rw [List.map_map]
    exact nodup
  exact trimmed.of_map _

theorem finite_of_weights {others : List (Json ν)} {children : List (SubAlgorithmEntry ν)}
    (weights : others.map getSubAlgorithmEntryWeight = children.map (·.weight))
    (finite : finiteWeight (some (.arr others)) = true) :
    JsNumber.isFinite (totalWeight children) = true := by
  have ofChildren : totalWeight children =
      (children.map (·.weight)).foldl JsNumber.add JsNumber.zero := List.foldl_map.symm
  rw [ofChildren, ← weights, List.foldl_map]
  exact finite

/-- Entries that are read one by one, with different keys and a finite weight, are read. -/
theorem parseCustomScoreChildren_eq_ok {inputs : List (PresetInput ν)} {items : List (Json ν)}
    {children : List (SubAlgorithmEntry ν)}
    (held : findValue inputs "sub_algorithms" = some (.arr items)) (present : items ≠ [])
    (parsed : items.zipIdx.mapM (fun value => Orchestrator.parseChildEntry value.1 value.2) =
      .ok children)
    (nodup : (children.map (·.algorithm_key)).Nodup)
    (finite : JsNumber.isFinite (totalWeight children) = true) :
    parseCustomScoreChildren inputs = .ok children := by
  cases items with
  | nil => exact absurd rfl present
  | cons first rest =>
      simp only [parseCustomScoreChildren, held, Option.bind_some, Json.asArray]
      refine Result.bind_eq_ok.mpr ⟨children, parsed, ?_⟩
      rw [duplicateKey_eq_none nodup fun _ _ => List.not_mem_nil]
      exact if_pos finite

/-- Entries whose computation is configured have their weights given as numbers. -/
theorem weights_of_parseCustomScoreChildren {inputs : List (PresetInput ν)}
    {children : List (SubAlgorithmEntry ν)}
    (parsed : parseCustomScoreChildren inputs = .ok children)
    {items : List (Json ν)} (held : findValue inputs "sub_algorithms" = some (.arr items)) :
    items ≠ [] ∧ ∀ given ∈ items, ∃ weight, given.field "weight" = some (.num weight) := by
  simp only [parseCustomScoreChildren, held, Option.bind_some, Json.asArray] at parsed
  split at parsed
  · cases parsed
  · cases parsed
  · rename_i rawSubAlgorithms present same
    cases Option.some.inj same
    refine ⟨present, ?_⟩
    intro given item
    rcases Result.bind_eq_ok.mp parsed with ⟨entries, read, _⟩
    rcases List.mem_iff_getElem?.mp item with ⟨index, place⟩
    have indexed : (given, index) ∈ items.zipIdx := List.mem_zipIdx_iff_getElem?.mpr place
    rcases Result.exists_ok_of_mapM read indexed with ⟨entry, own⟩
    exact ⟨_, (fields_of_like (isSubAlgorithmEntryLike_of_parseChildEntry own)).2⟩

end Children

end Reputo.AlgorithmValidator

import Reputo.AlgorithmValidator.Payload

/-!
# Validating again

The schemas that are built from a definition change nothing that they have read: texts stay
trimmed, numbers stay numbers, and the fields of a record are those of its schema.  What a
payload is read as is therefore accepted as it is, and kept.
-/

namespace Reputo.AlgorithmValidator

open Reputo.Library Reputo.Orchestrator

variable {ν : Type}

/-! ## Checks of texts -/

/-- A check that changes nothing. -/
def Pure : StringCheck → Prop
  | .transform _ => False
  | .check _ _ => True

theorem runChecks_pure {checks : List StringCheck} (pure : ∀ check ∈ checks, Pure check)
    {text read : String} (passed : runChecks checks text = some read) : read = text := by
  induction checks with
  | nil => exact (Option.some.inj passed).symm
  | cons check rest ih =>
      cases check with
      | transform change => exact (pure _ List.mem_cons_self).elim
      | check holds message =>
          exact ih (fun other member => pure other (List.mem_cons_of_mem _ member))
            (Option.ite_none_right_eq_some.mp passed).2

section Stability

variable [JsNumber ν]

theorem stable_string {checks : List StringCheck} (pure : ∀ check ∈ checks, Pure check) :
    (Schema.string checks : Schema ν).Stable := by
  apply Schema.Stable.string
  intro text read passed
  rw [runChecks_pure pure passed]
  rw [runChecks_pure pure passed] at passed
  exact passed

/-- A text that is trimmed before it is checked. -/
theorem stable_trimmed {checks : List StringCheck} (pure : ∀ check ∈ checks, Pure check) :
    (Schema.string (StringCheck.trim :: checks) : Schema ν).Stable := by
  apply Schema.Stable.string
  intro text read passed
  have passed : runChecks checks (JsText.trim text) = some read := passed
  have trimmed := runChecks_pure pure passed
  rw [trimmed] at passed ⊢
  change runChecks checks (JsText.trim (JsText.trim text)) = _
  rw [JsText.trim_trim]
  exact passed

theorem stable_requiredUnless {required : Option Bool} {schema : Schema ν}
    (stable : schema.Stable) : (requiredUnless required schema).Stable := by
  rw [requiredUnless]
  split
  · exact .optional stable
  · exact stable

/-- A number that was read is left as it is. -/
theorem stable_preprocessNumber (read : String → Option ν) (error : String)
    (checks : List (NumberCheck ν)) :
    (Schema.preprocess (preprocessNumber read) (.number error checks)).Stable := by
  apply Schema.Stable.preprocess (.number error checks)
  intro value number parsed
  rcases Schema.parse_number.mp parsed with ⟨exactly, rfl, _, _, rfl⟩
  rfl

theorem stable_numberField (label : String) (required : Option Bool) (read : String → Option ν)
    (checks : List (NumberCheck ν)) : (numberField label required read checks).Stable := by
  rw [numberField]
  split
  · apply Schema.Stable.preprocess (.optional (.number _ checks))
    intro value number parsed
    cases value with
    | none =>
        rw [Schema.parse_optional_none] at parsed
        cases parsed
        rfl
    | some present =>
        rw [Schema.parse_optional] at parsed
        rcases Schema.parse_number.mp parsed with ⟨exactly, same, _, _, rfl⟩
        rw [same]
        rfl
  · exact .refine (stable_preprocessNumber read _ checks) _ _

variable (runtime : Runtime ν)

theorem stable_applyArrayConstraints {item : Schema ν} (stable : item.Stable) (label : String)
    (minItems : Option Nat) (uniqueBy : List String) (itemProps : List (ObjectPropertyParam ν)) :
    (applyArrayConstraints runtime item label minItems uniqueBy itemProps).Stable := by
  rw [applyArrayConstraints]
  split
  · exact .refine (.array stable _) _ _
  · exact .array stable _

mutual

theorem stable_buildObjectPropertySchema (prop : ObjectPropertyParam ν) :
    (buildObjectPropertySchema runtime prop).Stable := by
  rcases prop with ⟨key, type, label, required, enum, min, max, exclusiveMin, minItems, uniqueBy,
    properties, options, dependsOn⟩
  rw [buildObjectPropertySchema]
  split
  · exact stable_requiredUnless (.enum _ _)
  · split
    · apply stable_requiredUnless
      apply stable_trimmed
      intro check member
      split at member
      · cases member
      · rw [List.mem_singleton.mp member]
        trivial
    · split
      · exact stable_numberField _ _ _ _
      · split
        · exact stable_requiredUnless (stable_applyArrayConstraints runtime
            (Schema.stable_record (stable_buildObjectShape properties)) _ _ _ _)
        · exact stable_string fun check member => absurd member List.not_mem_nil

theorem stable_buildObjectShape (properties : List (ObjectPropertyParam ν)) :
    ∀ field ∈ buildObjectShape runtime properties, field.2.Stable := by
  cases properties with
  | nil =>
      intro field member
      cases member
  | cons prop rest =>
      intro field member
      rw [buildObjectShape] at member
      rcases List.mem_cons.mp member with rfl | later
      · exact stable_buildObjectPropertySchema prop
      · exact stable_buildObjectShape rest field later

end

theorem stable_algorithmPresetInputSchema : (algorithmPresetInputSchema : Schema ν).Stable := by
  apply Schema.stable_record
  intro field member
  simp only [List.mem_cons, List.not_mem_nil, or_false] at member
  rcases member with rfl | rfl
  · apply stable_string
    intro check member
    rw [List.mem_singleton.mp member]
    trivial
  · exact .refine .unknown _ _

theorem stable_buildSubAlgorithmEntrySchema (label : String) :
    (buildSubAlgorithmEntrySchema runtime label).Stable := by
  have trimmed : ∀ message, (Schema.string [StringCheck.trim, StringCheck.min 1 message] :
      Schema ν).Stable := by
    intro message
    apply stable_trimmed
    intro check member
    rw [List.mem_singleton.mp member]
    trivial
  apply Schema.stable_record
  intro field member
  simp only [List.mem_cons, List.not_mem_nil, or_false] at member
  rcases member with rfl | rfl | rfl | rfl
  · exact trimmed _
  · exact trimmed _
  · exact stable_preprocessNumber _ _ _
  · exact .array stable_algorithmPresetInputSchema _

theorem stable_buildFieldSchema (input : IoItem ν) (label : String) :
    (buildFieldSchema runtime input label).Stable := by
  rw [buildFieldSchema]
  split
  · apply stable_string
    intro check member
    rw [List.mem_singleton.mp member]
    trivial
  · split
    · exact stable_numberField _ _ _ _
    · split
      · exact stable_requiredUnless .boolean
      · split
        · split
          · exact .enum _ _
          · apply stable_requiredUnless
            apply stable_trimmed
            intro check member
            rcases List.mem_append.mp member with front | longest
            · rcases List.mem_append.mp front with needed | shortest
              · split at needed
                · cases needed
                · rw [List.mem_singleton.mp needed]
                  trivial
              · rcases Option.map_eq_some_iff.mp (Option.mem_toList.mp shortest) with ⟨_, _, rfl⟩
                trivial
            · rcases Option.map_eq_some_iff.mp (Option.mem_toList.mp longest) with ⟨_, _, rfl⟩
              trivial
        · split
          · split
            · apply stable_requiredUnless
              refine .refine (.array (stable_trimmed ?_) _) _ _
              intro check member
              rw [List.mem_singleton.mp member]
              trivial
            · exact stable_requiredUnless (stable_applyArrayConstraints runtime
                (Schema.stable_record (stable_buildObjectShape runtime _)) _ _ _ _)
          · split
            · exact stable_requiredUnless (.refine (.refine
                (.array (stable_buildSubAlgorithmEntrySchema runtime label) _) _ _) _ _)
            · exact stable_string fun check member => absurd member List.not_mem_nil

theorem stable_buildZodSchema (inputs : List (IoItem ν)) :
    (buildZodSchema runtime inputs).Stable := by
  apply Schema.stable_record
  intro field member
  rcases List.mem_map.mp member with ⟨input, _, rfl⟩
  exact stable_buildFieldSchema runtime input _

end Stability

/-! ## Payloads that were accepted -/

section Payloads

variable [JsNumber ν] {runtime : Runtime ν} {parser : Parser ν} {inputs : List (IoItem ν)}

/-- A payload is accepted exactly if it is read as data whose options and resources are
available. -/
theorem validatePayload_eq_ok {payload data : Option (Json ν)} :
    validatePayload runtime parser inputs payload = .ok data ↔
      (buildZodSchema runtime inputs).parse payload = some data ∧
        validateConditionalOptionConstraints runtime inputs data = [] ∧
          validateResourceSelectorConstraints inputs data = [] := by
  rw [validatePayload, ← parser.ok_iff, ← List.append_eq_nil_iff]
  cases parser.safeParse (buildZodSchema runtime inputs) payload with
  | error issues => simp
  | ok read =>
      simp only
      split
      · rename_i passed
        constructor
        · rintro ⟨⟩
          exact ⟨rfl, passed⟩
        · rintro ⟨same, _⟩
          cases same
          rfl
      · rename_i failed
        constructor
        · intro accepted
          cases accepted
        · rintro ⟨⟨⟩, passed⟩
          exact absurd passed failed

/-- What an accepted payload is read as is itself accepted, and read as it is. -/
theorem validatePayload_again {payload data : Option (Json ν)}
    (accepted : validatePayload runtime parser inputs payload = .ok data) :
    validatePayload runtime parser inputs data = .ok data := by
  rcases validatePayload_eq_ok.mp accepted with ⟨parsed, options, resources⟩
  exact validatePayload_eq_ok.mpr
    ⟨(stable_buildZodSchema runtime inputs).parse_again parsed, options, resources⟩

end Payloads

/-! ## A number that is given as a text -/

/-- The numbers of a small payload. -/
def sampleRuntime : Runtime ℚ where
  text
    | .str text => text
    | _ => ""
  parseFloat text := if text = " 2" then some 2 else none
  toNumber text := if text = " 2" then some 2 else none
  isSafeInteger number := number.isInt

private def sampleInputs : List (IoItem ℚ) :=
  [{ key := "threshold", type := "number", min := some 1 }, { key := "title", type := "string" }]

private def samplePayload : Option (Json ℚ) :=
  some (.obj [("threshold", .str " 2"), ("title", .str " Votes "), ("other", .null)])

private def sampleData : Option (Json ℚ) :=
  some (.obj [("threshold", .num 2), ("title", .str "Votes")])

theorem validatePayload_sample :
    validatePayload sampleRuntime .plain sampleInputs samplePayload = .ok sampleData := by
  rfl

theorem validatePayload_again_sample :
    validatePayload sampleRuntime .plain sampleInputs sampleData = .ok sampleData :=
  validatePayload_again validatePayload_sample

end Reputo.AlgorithmValidator

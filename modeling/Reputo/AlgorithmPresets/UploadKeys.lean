import Reputo.Library.Distinct
import Reputo.Orchestrator.Presets

/-!
# Upload keys in preset inputs

Files are inputs by their storage key.  A key stands at the root of an input or in the
inputs of a sub-algorithm entry, to any depth.
-/

namespace Reputo.AlgorithmPresets

open Reputo.Library Reputo.Orchestrator

variable {ν : Type}

/-- `value.startsWith(prefix)`. -/
def startsWith (value initial : String) : Bool :=
  initial.toList.isPrefixOf value.toList

def uploadsPrefix : String := "uploads/"

mutual

/-- The upload keys of a value, in order. -/
def collectFromValue : Json ν → List String
  | .str value => if startsWith value uploadsPrefix then [value] else []
  | .arr items => collectFromEntries items
  | _ => []

/-- Those of sub-algorithm entries: records with a key, whose `inputs` are an array. -/
def collectFromEntries : List (Json ν) → List String
  | [] => []
  | .obj fields :: rest =>
      (if (fields.lookup "algorithm_key").bind Json.asString |>.isSome then
        collectFromInputs fields else []) ++ collectFromEntries rest
  | _ :: rest => collectFromEntries rest

def collectFromInputs : List (String × Json ν) → List String
  | [] => []
  | (name, value) :: rest =>
      if name = "inputs" then
        match value with
        | .arr children => collectFromChildren children
        | _ => []
      else collectFromInputs rest

def collectFromChildren : List (Json ν) → List String
  | [] => []
  | .obj fields :: rest => collectFromChildValue fields ++ collectFromChildren rest
  | _ :: rest => collectFromChildren rest

def collectFromChildValue : List (String × Json ν) → List String
  | [] => []
  | (name, value) :: rest =>
      if name = "value" then collectFromValue value else collectFromChildValue rest

end

/-- The upload keys of inputs, each once. -/
def collectUploadKeys (inputs : List (PresetInput ν)) : List String :=
  distinctBy id (inputs.flatMap fun input => (input.value.map collectFromValue).getD [])

/-! ## References -/

/-- A value refers to an upload key: it is the key, or a sub-algorithm entry in it has an input
whose value refers to the key. -/
inductive Refers (key : String) : Json ν → Prop where
  | root (upload : startsWith key uploadsPrefix) : Refers key (.str key)
  | nested {items children : List (Json ν)} {entry child value : Json ν} {algorithmKey : String}
      (listed : entry ∈ items) (named : entry.field "algorithm_key" = some (.str algorithmKey))
      (inputs : entry.field "inputs" = some (.arr children)) (child_mem : child ∈ children)
      (held : child.field "value" = some value) (refers : Refers key value) :
      Refers key (.arr items)

/-- Some input refers to the key. -/
def References (inputs : List (PresetInput ν)) (key : String) : Prop :=
  ∃ input ∈ inputs, ∃ value ∈ input.value, Refers key value

theorem collectFromInputs_eq (fields : List (String × Json ν)) :
    collectFromInputs fields =
      ((fields.lookup "inputs").bind Json.asArray).elim [] collectFromChildren := by
  induction fields with
  | nil => rfl
  | cons field rest ih =>
      rcases field with ⟨name, value⟩
      by_cases same : name = "inputs"
      · subst same
        rw [List.lookup_cons, beq_self_eq_true]
        cases value <;> rfl
      · rw [List.lookup_cons, beq_false_of_ne (Ne.symm same), ← ih]
        cases value <;> simp [collectFromInputs, same]

theorem collectFromChildValue_eq (fields : List (String × Json ν)) :
    collectFromChildValue fields = (fields.lookup "value").elim [] collectFromValue := by
  induction fields with
  | nil => rfl
  | cons field rest ih =>
      rcases field with ⟨name, value⟩
      by_cases same : name = "value"
      · subst same
        rw [List.lookup_cons, beq_self_eq_true]
        rfl
      · rw [collectFromChildValue, if_neg same, ih, List.lookup_cons,
          beq_false_of_ne (Ne.symm same)]

theorem mem_collectFromChildren {key : String} {children : List (Json ν)} :
    key ∈ collectFromChildren children ↔ ∃ child ∈ children, ∃ value,
      child.field "value" = some value ∧ key ∈ collectFromValue value := by
  induction children with
  | nil => simp [collectFromChildren]
  | cons child rest ih =>
      rw [List.exists_mem_cons_iff, ← ih]
      cases child with
      | obj fields =>
          rw [collectFromChildren, List.mem_append, collectFromChildValue_eq]
          apply or_congr_left
          simp only [Json.field, Json.asRecord, Option.bind_some]
          cases fields.lookup "value" <;> simp
      | _ => simp [collectFromChildren, Json.field, Json.asRecord]

theorem mem_collectFromEntries {key : String} {items : List (Json ν)} :
    key ∈ collectFromEntries items ↔ ∃ entry ∈ items, ∃ algorithmKey children,
      entry.field "algorithm_key" = some (.str algorithmKey) ∧
        entry.field "inputs" = some (.arr children) ∧ key ∈ collectFromChildren children := by
  induction items with
  | nil => simp [collectFromEntries]
  | cons entry rest ih =>
      rw [List.exists_mem_cons_iff, ← ih]
      cases entry with
      | obj fields =>
          rw [collectFromEntries, List.mem_append, collectFromInputs_eq]
          apply or_congr_left
          simp only [Json.field, Json.asRecord, Option.bind_some]
          cases named : fields.lookup "algorithm_key" with
          | none => simp
          | some name =>
              cases inputs : fields.lookup "inputs" with
              | none => cases name <;> simp [Json.asString]
              | some children =>
                  cases name <;> cases children <;> simp [Json.asString, Json.asArray]
      | _ => simp [collectFromEntries, Json.field, Json.asRecord]

theorem refers_of_mem_collectFromValue {key : String} :
    {value : Json ν} → key ∈ collectFromValue value → Refers key value
  | .str text, collected => by
      rw [collectFromValue] at collected
      split at collected
      · rename_i upload
        rw [List.mem_singleton.mp collected]
        exact .root upload
      · exact absurd collected List.not_mem_nil
  | .arr items, collected => by
      rw [collectFromValue] at collected
      rcases mem_collectFromEntries.mp collected with
        ⟨entry, listed, algorithmKey, children, named, inputs, below⟩
      rcases mem_collectFromChildren.mp below with ⟨child, child_mem, value, held, found⟩
      have entrySmaller := List.sizeOf_lt_of_mem listed
      have childSmaller := List.sizeOf_lt_of_mem child_mem
      have inputsSmaller := Json.sizeOf_field_lt inputs
      have valueSmaller := Json.sizeOf_field_lt held
      exact .nested listed named inputs child_mem held (refers_of_mem_collectFromValue found)
  | .null, collected | .bool _, collected | .num _, collected | .obj _, collected =>
      absurd collected List.not_mem_nil
termination_by value => sizeOf value
decreasing_by
  simp only [Json.arr.sizeOf_spec] at *
  omega

/-- A key is collected exactly if the value refers to it. -/
theorem mem_collectFromValue {key : String} {value : Json ν} :
    key ∈ collectFromValue value ↔ Refers key value := by
  constructor
  · exact refers_of_mem_collectFromValue
  · intro refers
    induction refers with
    | root upload =>
        rw [collectFromValue, if_pos upload]
        exact List.mem_singleton_self _
    | nested listed named inputs child_mem held _ ih =>
        rw [collectFromValue]
        exact mem_collectFromEntries.mpr ⟨_, listed, _, _, named, inputs,
          mem_collectFromChildren.mpr ⟨_, child_mem, _, held, ih⟩⟩

theorem mem_collectUploadKeys {key : String} {inputs : List (PresetInput ν)} :
    key ∈ collectUploadKeys inputs ↔ References inputs key := by
  rw [collectUploadKeys, ← List.map_id (distinctBy id _), mem_keys_distinctBy, List.map_id,
    List.mem_flatMap]
  simp only [References]
  apply exists_congr
  intro input
  apply and_congr_right
  intro _
  cases input.value with
  | none => simp
  | some value => simp [mem_collectFromValue]

end Reputo.AlgorithmPresets

import Reputo.Library.Json
import Reputo.Library.JsText
import Reputo.Library.Result
import Reputo.TokenValue.Types

/-!
# Presets, definitions and the children of a combined algorithm

A frozen preset is a list of inputs with unchecked JSON values.  The children of a
combined preset are read twice: the orchestrator passes over entries of the wrong
shape, the computation fails on them.
-/

namespace Reputo.Orchestrator

open Reputo.Library

variable {ν : Type}

/-! ## Presets -/

/-- An input of a preset; a missing value is `undefined`. -/
structure PresetInput (ν : Type) where
  key : String
  value : Option (Json ν)

structure AlgorithmPresetFrozen (ν : Type) where
  key : String
  version : String
  inputs : List (PresetInput ν)

/-- `inputs.find((input) => input.key === key)?.value`. -/
def findValue (inputs : List (PresetInput ν)) (key : String) : Option (Json ν) :=
  (inputs.find? (·.key = key)).bind (·.value)

/-- The value as a preset input, if it is a record with a key. -/
def isPresetInputLike (value : Json ν) : Option (PresetInput ν) := do
  let _ ← value.asRecord
  let key ← (← value.field "key").asString
  return ⟨key, value.field "value"⟩

/-! ## Definitions -/

structure RawResourceCatalogResource where
  key : String
  kind : String
  identifier : String
  tokenIdentifier : String
  tokenKey : String
  tokenDecimals : Option Nat := none
  parentResourceKey : Option String := none
  deriving DecidableEq, Repr

structure RawResourceCatalogChain where
  key : String
  resources : List RawResourceCatalogResource
  deriving DecidableEq, Repr

structure AlgorithmInputDefinition where
  key : String
  type : String
  sharedInputKeys : List String := []
  /-- `uiHint.resourceCatalog.chains`. -/
  resourceCatalog : Option (List RawResourceCatalogChain) := none
  deriving DecidableEq, Repr

structure AlgorithmDefinition where
  key : String
  version : String
  runtime : String := "typescript"
  kind : String := "standalone"
  inputs : List AlgorithmInputDefinition := []
  dependencies : List String := []
  deriving DecidableEq, Repr

/-! ## Children as the orchestrator reads them -/

structure SubAlgorithmEntry (ν : Type) where
  algorithm_key : String
  algorithm_version : String
  weight : ν
  inputs : List (PresetInput ν)

/-- The value as a child entry, if it has the shape of one. -/
def isSubAlgorithmEntryLike (value : Json ν) : Option (SubAlgorithmEntry ν) := do
  let algorithm_key ← (← value.field "algorithm_key").asString
  let algorithm_version ← (← value.field "algorithm_version").asString
  let weight ← (← value.field "weight").asNumber
  let inputs ← (← (← value.field "inputs").asArray).mapM isPresetInputLike
  return { algorithm_key, algorithm_version, weight, inputs }

/-- The child presets of a combined preset. -/
def buildCombinedChildAlgorithmPresets (preset : AlgorithmPresetFrozen ν)
    (definition : AlgorithmDefinition) : List (AlgorithmPresetFrozen ν) :=
  definition.inputs.flatMap fun inputDefinition =>
    if inputDefinition.type ≠ "sub_algorithm" then []
    else
      let sharedInputKeys := inputDefinition.sharedInputKeys
      let sharedInputs := preset.inputs.filter (·.key ∈ sharedInputKeys)
      match (findValue preset.inputs inputDefinition.key).bind Json.asArray with
      | none => []
      | some rawEntries => (rawEntries.filterMap isSubAlgorithmEntryLike).map fun rawEntry =>
          { key := rawEntry.algorithm_key
            version := rawEntry.algorithm_version
            inputs := rawEntry.inputs.filter (·.key ∉ sharedInputKeys) ++ sharedInputs }

/-! ## Children as the computation reads them -/

section Children

variable [JsNumber ν]

def parseChildEntry (value : Json ν) (index : Nat) : Except String (SubAlgorithmEntry ν) := do
  let _ ← Result.ofOption s!"Invalid sub-algorithm entry at index {index}" value.asRecord
  let algorithm_key ← Result.ofOption s!"Missing required sub_algorithms.{index}.algorithm_key"
    (((value.field "algorithm_key").bind Json.asString).filter fun text => JsText.trim text ≠ "")
  let algorithm_version ←
    Result.ofOption s!"Missing required sub_algorithms.{index}.algorithm_version"
      (((value.field "algorithm_version").bind Json.asString).filter fun text =>
        JsText.trim text ≠ "")
  let weight ← Result.ofOption s!"Invalid sub_algorithms.{index}.weight"
    (((value.field "weight").bind Json.asNumber).filter fun number =>
      JsNumber.isFinite number && JsNumber.lt JsNumber.zero number)
  let inputs ← Result.ofOption s!"Invalid sub_algorithms.{index}.inputs"
    (((value.field "inputs").bind Json.asArray).bind fun items => items.mapM isPresetInputLike)
  return { algorithm_key, algorithm_version, weight, inputs }

/-- The first child whose key an earlier child has. -/
def duplicateKey (seen : List String) : List (SubAlgorithmEntry ν) → Option String
  | [] => none
  | child :: rest =>
      if child.algorithm_key ∈ seen then some child.algorithm_key
      else duplicateKey (child.algorithm_key :: seen) rest

def totalWeight (children : List (SubAlgorithmEntry ν)) : ν :=
  children.foldl (fun sum child => JsNumber.add sum child.weight) JsNumber.zero

def parseCustomScoreChildren (inputs : List (PresetInput ν)) :
    Except String (List (SubAlgorithmEntry ν)) := do
  match (findValue inputs "sub_algorithms").bind Json.asArray with
  | none | some [] => throw "Missing required \"sub_algorithms\" input"
  | some rawSubAlgorithms =>
      let children ← rawSubAlgorithms.zipIdx.mapM fun (value, index) => parseChildEntry value index
      match duplicateKey [] children with
      | some key =>
          throw s!"Duplicate sub-algorithm \"{key}\": each sub-algorithm can be added only once"
      | none =>
          if JsNumber.isFinite (totalWeight children) then return children
          else throw "Invalid sub_algorithms weights: the total weight must be finite"

end Children

end Reputo.Orchestrator

import Reputo.AlgorithmRegistry.Versions
import Reputo.Library.OrderedMap

/-!
# The generated registry

A directory has one file for each version of an algorithm.  A module is generated that imports all
of them, under names made of their keys and versions, and lists the versions of each key in order,
so that the last one is the latest.
-/

namespace Reputo.AlgorithmRegistry

open Reputo.Library Reputo.Library.SemVer

/-! ## The directory -/

/-- The keys of a directory, each with its versions in the order of the listing. -/
structure RegistryIndex where
  algorithms : List (String × List Version)
  keysDiffer : (algorithms.map Prod.fst).Nodup
  keysValid : ∀ algorithm ∈ algorithms, (validateKey algorithm.1).isValid = true
  versionsDiffer : ∀ algorithm ∈ algorithms, algorithm.2.Nodup
  versioned : ∀ algorithm ∈ algorithms, algorithm.2 ≠ []

namespace RegistryIndex

def sortedAlgorithms (index : RegistryIndex) : List (String × List Version) :=
  ((RowOrder.byKey id).comap Prod.fst).orderBy index.algorithms

end RegistryIndex

/-- A version of a key. -/
abbrev Entry := String × Version

/-- The versions of all keys, in the order in which they are imported. -/
def RegistryIndex.entries (index : RegistryIndex) : List Entry :=
  index.sortedAlgorithms.flatMap fun algorithm => algorithm.2.map (algorithm.1, ·)

def relativePath (entry : Entry) : String := "./" ++ entry.1 ++ "/" ++ entry.2.text ++ ".json"

def definitionKey (key version : String) : String := key ++ "@" ++ version

/-! ## The module -/

def replaceWhere (kind : Char → Bool) (text : String) : String :=
  String.ofList (text.toList.map fun character => if kind character then '_' else character)

def generateImportName (entry : Entry) : String :=
  let sanitizedKey := replaceWhere (fun character => !character.isAlphanum) entry.1
  let sanitizedVersion :=
    replaceWhere (fun character => character == '.' || character == '-') entry.2.text
  "_" ++ sanitizedKey ++ "_" ++ sanitizedVersion

/-- An import of a file under a name, and its use as a definition. -/
structure Import where
  importName : String
  path : String
  definitionKey : String
  deriving DecidableEq, Repr

def importOf (entry : Entry) : Import where
  importName := generateImportName entry
  path := relativePath entry
  definitionKey := definitionKey entry.1 entry.2.text

/-- The index of a module, and its imports. -/
structure RegistryModule where
  index : List (String × List String)
  imports : List Import
  deriving DecidableEq, Repr

def generateRegistryIndex (registryIndex : RegistryIndex) : RegistryModule where
  index := registryIndex.sortedAlgorithms.map fun algorithm =>
    (algorithm.1, (semVerOrder.orderBy algorithm.2).map (·.text))
  imports := registryIndex.entries.map importOf

namespace RegistryModule

def indexLine (algorithm : String × List String) : String :=
  "  " ++ algorithm.1 ++ ": [" ++
    String.intercalate ", " (algorithm.2.map fun version => "'" ++ version ++ "'") ++ "],"

def importLine (line : Import) : String :=
  "import " ++ line.importName ++ " from '" ++ line.path ++ "' with \x7b type: 'json' \x7d;"

def definitionLine (line : Import) : String :=
  "  '" ++ line.definitionKey ++ "': " ++ line.importName ++ " as unknown,"

/-- The text of a module. -/
def content (module : RegistryModule) : String :=
  String.intercalate "\n"
    (["// This file is auto-generated - DO NOT EDIT MANUALLY",
      "// Generated by: registry-generator.ts", "", "export const REGISTRY_INDEX = \x7b"] ++
    module.index.map indexLine ++ ["\x7d as const;", ""] ++ module.imports.map importLine ++
    ["", "export const _DEFINITIONS: Record<string, unknown> = \x7b"] ++
    module.imports.map definitionLine ++ ["\x7d as const;", ""])

end RegistryModule

def generateRegistryIndexContent (registryIndex : RegistryIndex) : String :=
  (generateRegistryIndex registryIndex).content

/-! ## Loading the module -/

def isIdentifierStart (character : Char) : Bool :=
  character.isAlpha || character == '_' || character == '$'

/-- A name of an import, of characters of ASCII. -/
def isIdentifier (name : String) : Bool :=
  name.toList.head?.any isIdentifierStart &&
    name.toList.all fun character => isIdentifierStart character || character.isDigit

structure LoadedModule (D : Type) where
  REGISTRY_INDEX : OrderedMap String (List String)
  DEFINITIONS : OrderedMap String D

/-- A module is loaded where its imports have different names that are identifiers, and their files
exist. -/
def RegistryModule.load {D : Type} (module : RegistryModule) (file : String → Option D) :
    Option (LoadedModule D) :=
  if (∀ line ∈ module.imports, isIdentifier line.importName = true) ∧
      (module.imports.map (·.importName)).Nodup then
    (module.imports.mapM fun line => (file line.path).map (line.importName, ·)).bind
      fun bindings =>
        (module.imports.mapM fun line =>
          (bindings.lookup line.importName).map (line.definitionKey, ·)).map fun definitions =>
            ⟨.ofPairs module.index, .ofPairs definitions⟩
  else none

/-! ## Looking up definitions -/

inductive NotFoundError where
  | KEY_NOT_FOUND (key : String)
  | VERSION_NOT_FOUND (key version : String)
  deriving DecidableEq, Repr

namespace LoadedModule

variable {D : Type} (module : LoadedModule D)

def resolveVersion (key version : String) : Except NotFoundError String :=
  match module.REGISTRY_INDEX.get? key with
  | none => .error (.KEY_NOT_FOUND key)
  | some versions =>
      let resolved := if version = "latest" then versions.getLast? else some version
      match JsText.truthyText resolved with
      | none => .error (.VERSION_NOT_FOUND key version)
      | some resolved =>
          if resolved ∈ versions then .ok resolved else .error (.VERSION_NOT_FOUND key resolved)

/-- The definition, which is returned as JSON. -/
def getAlgorithmDefinition (key : String) (version : String) : Except NotFoundError D := do
  let resolvedVersion ← module.resolveVersion key version
  match module.DEFINITIONS.get? (definitionKey key resolvedVersion) with
  | none => .error (.KEY_NOT_FOUND key)
  | some definition => .ok definition

end LoadedModule

/-! ## What the registry is for -/

/-- A directory with the definition in each of its files. -/
structure RegistryDirectory (D : Type) where
  index : RegistryIndex
  definition : Entry → D

/-- The definition in the file of a path. -/
def RegistryDirectory.file {D : Type} (directory : RegistryDirectory D) (path : String) :
    Option D :=
  (directory.index.entries.find? fun entry => relativePath entry = path).map directory.definition

/-- A loaded module is faithful to a directory: it has the definition of each file under its key
and version, lists the versions of each key by precedence, and has a greatest one as the latest. -/
structure LoadedModule.FaithfulTo {D : Type} (module : LoadedModule D)
    (directory : RegistryDirectory D) : Prop where
  definitions : ∀ entry ∈ directory.index.entries,
    module.DEFINITIONS.get? (definitionKey entry.1 entry.2.text) =
      some (directory.definition entry)
  listed : ∀ algorithm ∈ directory.index.algorithms, ∃ sorted : List Version,
    module.REGISTRY_INDEX.get? algorithm.1 = some (sorted.map (·.text)) ∧
      sorted.Perm algorithm.2 ∧
        sorted.Pairwise fun earlier later => earlier.precedence ≤ later.precedence
  latest : ∀ algorithm ∈ directory.index.algorithms, ∃ greatest ∈ algorithm.2,
    (∀ version ∈ algorithm.2, version.precedence ≤ greatest.precedence) ∧
      module.getAlgorithmDefinition algorithm.1 "latest" =
        .ok (directory.definition (algorithm.1, greatest))

/-- The generated module has different identifiers as names, and is faithful when loaded. -/
structure GeneratedFaithfully {D : Type} (directory : RegistryDirectory D) : Prop where
  identifiers : ∀ line ∈ (generateRegistryIndex directory.index).imports,
    isIdentifier line.importName = true
  distinct : ((generateRegistryIndex directory.index).imports.map (·.importName)).Nodup
  faithful : ∃ module, (generateRegistryIndex directory.index).load directory.file = some module ∧
    module.FaithfulTo directory

/-! ## Conditions -/

def isSeparator (character : Char) : Bool :=
  character == '.' || character == '-' || character == '_'

/-- Texts that differ in their dots, dashes and underscores only. -/
def LookAlike (text other : String) : Prop :=
  List.Forall₂ (fun one another => one = another ∨
    (isSeparator one = true ∧ isSeparator another = true)) text.toList other.toList

/-- No version has build metadata, no two entries look alike, and where a version precedes another
one of its key it also comes first by the numbers as doubles and the prereleases as texts, or by
the listing where these are the same. -/
structure Unambiguous (index : RegistryIndex) : Prop where
  noBuild : ∀ entry ∈ index.entries, '+' ∉ entry.2.text.toList
  apart : index.entries.Pairwise fun entry other =>
    ¬LookAlike (entry.1 ++ "_" ++ entry.2.text) (other.1 ++ "_" ++ other.2.text)
  ordered : ∀ algorithm ∈ index.algorithms, ∀ lower ∈ algorithm.2, ∀ higher ∈ algorithm.2,
    lower.precedence < higher.precedence →
      lower.textRank < higher.textRank ∨
        (lower.textRank = higher.textRank ∧ [lower, higher].Sublist algorithm.2)

end Reputo.AlgorithmRegistry

import Mathlib.Data.List.Lex
import Mathlib.Data.List.TakeWhile
import Mathlib.Data.Prod.Lex
import Mathlib.Data.String.Basic
import Mathlib.Data.Sum.Order
import Reputo.Library.JsText

/-!
# Semantic versions

A version has three numbers, and may have a prerelease and build metadata.  Precedence compares the
numbers, puts a prerelease before its release, and compares prereleases identifier by identifier;
build metadata is ignored.
-/

namespace Reputo.Library

namespace SemVer

/-- The groups that the pattern of a version matches; a missing group is empty. -/
structure VersionMatch where
  major : List Char
  minor : List Char
  patch : List Char
  prerelease : List Char
  build : List Char
  deriving DecidableEq, Repr

/-! ## The pattern -/

/-- The characters of prereleases and build metadata. -/
def isIdentifierCharacter (character : Char) : Bool :=
  character.isAlphanum || character == '-' || character == '.'

/-- The longest part of characters of a kind, if there are any. -/
def readWhile (kind : Char → Bool) (characters : List Char) : Option (List Char × List Char) :=
  if characters.takeWhile kind = [] then none
  else some (characters.takeWhile kind, characters.dropWhile kind)

def readCharacter (expected : Char) : List Char → Option (List Char)
  | [] => none
  | character :: rest => if character = expected then some rest else none

/-- An optional group after a sign. -/
def readGroup (sign : Char) (characters : List Char) : Option (List Char × List Char) :=
  match readCharacter sign characters with
  | none => some ([], characters)
  | some rest => readWhile isIdentifierCharacter rest

def matchVersion (version : String) : Option VersionMatch := do
  let (major, rest) ← readWhile Char.isDigit version.toList
  let (minor, rest) ← (readCharacter '.' rest).bind (readWhile Char.isDigit)
  let (patch, rest) ← (readCharacter '.' rest).bind (readWhile Char.isDigit)
  let (prerelease, rest) ← readGroup '-' rest
  let (build, rest) ← readGroup '+' rest
  if rest = [] then some ⟨major, minor, patch, prerelease, build⟩ else none

/-! ## Precedence -/

def numberOf (digits : List Char) : Nat := (JsText.digitsValue 10 digits).getD 0

/-- Identifiers of digits are numbers, which come before all others. -/
def identifierOf (identifier : List Char) : ℕ ⊕ₗ String :=
  if identifier ≠ [] ∧ identifier.all Char.isDigit = true then toLex (.inl (numberOf identifier))
  else toLex (.inr (String.ofList identifier))

def identifiersOf (prerelease : List Char) : List (ℕ ⊕ₗ String) :=
  (prerelease.splitOn '.').map identifierOf

/-- Precedence by the three numbers, then releases after their prereleases, then the identifiers;
of two prereleases of which one continues the other, the shorter comes first. -/
abbrev Precedence := ℕ ×ₗ ℕ ×ₗ ℕ ×ₗ Bool ×ₗ List (ℕ ⊕ₗ String)

def VersionMatch.precedence (version : VersionMatch) : Precedence :=
  toLex (numberOf version.major, toLex (numberOf version.minor, toLex (numberOf version.patch,
    toLex (decide (version.prerelease = []), identifiersOf version.prerelease))))

/-! ## Characters of versions -/

theorem readWhile_parts {kind : Char → Bool} {characters group rest : List Char}
    (read : readWhile kind characters = some (group, rest)) :
    characters = group ++ rest ∧ ∀ character ∈ group, kind character = true := by
  rw [readWhile] at read
  by_cases empty : characters.takeWhile kind = []
  · rw [if_pos empty] at read
    cases read
  · rw [if_neg empty] at read
    cases read
    exact ⟨List.takeWhile_append_dropWhile.symm, fun _ member => List.mem_takeWhile_imp member⟩

theorem readCharacter_parts {expected : Char} {characters rest : List Char}
    (read : readCharacter expected characters = some rest) : characters = expected :: rest := by
  cases characters with
  | nil => cases read
  | cons character others =>
      rw [readCharacter] at read
      by_cases same : character = expected
      · rw [if_pos same] at read
        cases read
        rw [same]
      · rw [if_neg same] at read
        cases read

/-- Characters that a version may have. -/
def OfVersion (characters : List Char) : Prop :=
  ∀ character ∈ characters, isIdentifierCharacter character = true ∨ character = '+'

theorem OfVersion.append {front rest : List Char} (first : OfVersion front)
    (second : OfVersion rest) : OfVersion (front ++ rest) :=
  List.forall_mem_append.mpr ⟨first, second⟩

theorem OfVersion.cons {character : Char} {rest : List Char}
    (first : isIdentifierCharacter character = true ∨ character = '+') (others : OfVersion rest) :
    OfVersion (character :: rest) :=
  List.forall_mem_cons.mpr ⟨first, others⟩

theorem ofVersion_readWhile {kind : Char → Bool} {characters group rest : List Char}
    (kinds : ∀ character, kind character = true → isIdentifierCharacter character = true)
    (read : readWhile kind characters = some (group, rest)) (others : OfVersion rest) :
    OfVersion characters := by
  rcases readWhile_parts read with ⟨parts, listed⟩
  rw [parts]
  exact OfVersion.append (fun character member => .inl (kinds character (listed character member)))
    others

theorem ofVersion_readGroup {sign : Char} {characters group rest : List Char}
    (signed : isIdentifierCharacter sign = true ∨ sign = '+')
    (read : readGroup sign characters = some (group, rest)) (others : OfVersion rest) :
    OfVersion characters := by
  rw [readGroup] at read
  cases started : readCharacter sign characters with
  | none =>
      rw [started] at read
      cases read
      exact others
  | some inner =>
      rw [started] at read
      rw [readCharacter_parts started]
      exact .cons signed (ofVersion_readWhile (fun _ => id) read others)

theorem isIdentifierCharacter_of_isDigit (character : Char) (digit : character.isDigit = true) :
    isIdentifierCharacter character = true := by
  have alphanum : character.isAlphanum = true := Bool.or_eq_true_iff.mpr (.inr digit)
  rw [isIdentifierCharacter, alphanum]
  rfl

/-- A version has characters of identifiers only, and the sign of build metadata. -/
theorem ofVersion_of_matchVersion {version : String} {groups : VersionMatch}
    (matched : matchVersion version = some groups) : OfVersion version.toList := by
  simp only [matchVersion, Option.bind_eq_bind, Option.bind_eq_some_iff] at matched
  rcases matched with ⟨⟨major, afterMajor⟩, readMajor, ⟨minor, afterMinor⟩,
    ⟨dotted, firstDot, readMinor⟩, ⟨patch, afterPatch⟩, ⟨dotted', secondDot, readPatch⟩,
    ⟨prerelease, afterPrerelease⟩, readPrerelease, ⟨build, rest⟩, readBuild, whole⟩
  dsimp only at firstDot secondDot readPrerelease readBuild whole
  have dot : isIdentifierCharacter '.' = true ∨ '.' = '+' := .inl rfl
  have nothing : OfVersion rest := by
    by_cases ended : rest = []
    · rw [ended]
      exact fun _ absent => absurd absent List.not_mem_nil
    · rw [if_neg ended] at whole
      cases whole
  apply ofVersion_readWhile isIdentifierCharacter_of_isDigit readMajor
  rw [readCharacter_parts firstDot]
  apply OfVersion.cons dot
  apply ofVersion_readWhile isIdentifierCharacter_of_isDigit readMinor
  rw [readCharacter_parts secondDot]
  apply OfVersion.cons dot
  apply ofVersion_readWhile isIdentifierCharacter_of_isDigit readPatch
  apply ofVersion_readGroup (.inl rfl) readPrerelease
  exact ofVersion_readGroup (.inr rfl) readBuild nothing

end SemVer

end Reputo.Library

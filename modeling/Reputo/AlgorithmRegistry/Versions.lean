import Mathlib.Order.WithBot
import Reputo.Library.Query
import Reputo.Library.SemVer

/-!
# Keys and versions of algorithms

Which keys and versions are accepted, and how versions are compared: by their numbers as doubles,
and then by the texts of their prereleases.
-/

namespace Reputo.AlgorithmRegistry

open Reputo.Library Reputo.Library.SemVer

/-! ## Keys and versions -/

structure ValidationResult where
  isValid : Bool
  errors : List String
  deriving DecidableEq, Repr

def isKeyCharacter (character : Char) : Bool :=
  character.isLower || character.isDigit || character == '_'

/-- `/^[a-z][a-z0-9_]*$/`. -/
def matchesKey (key : String) : Bool :=
  key.toList.head?.any Char.isLower && key.toList.all isKeyCharacter

def resultOf (errors : List String) : ValidationResult := ⟨errors.isEmpty, errors⟩

def validateKey (key : String) : ValidationResult :=
  resultOf ((if JsText.length key < 2 then ["Key must be at least 2 characters long"] else []) ++
    if matchesKey key then [] else ["Key must be snake_case, start with a letter, and contain " ++
      "only lowercase letters, numbers, and underscores"])

/-- `0|[1-9]\d*`, of digits. -/
def isCanonical (digits : List Char) : Bool := digits == ['0'] || digits.head? != some '0'

/-- The pattern of a version without leading zeros in its numbers. -/
def matchesVersion (version : String) : Bool := (matchVersion version).any fun groups =>
  isCanonical groups.major && isCanonical groups.minor && isCanonical groups.patch

def validateVersion (version : String) : ValidationResult :=
  resultOf ((if version = "" then ["Version is required"] else []) ++
    if matchesVersion version then [] else ["Version must be a valid semantic version " ++
      "(e.g., 1.0.0, 2.1.3-beta, 3.0.0+build.123)"])

/-- A version that is accepted. -/
structure Version where
  text : String
  valid : (validateVersion text).isValid = true
  deriving DecidableEq

theorem Version.matches (version : Version) : (matchVersion version.text).isSome = true := by
  have valid := version.valid
  rw [validateVersion, resultOf, List.isEmpty_iff, List.append_eq_nil_iff] at valid
  cases accepted : matchesVersion version.text with
  | false =>
      rw [accepted] at valid
      exact absurd valid.2 (List.cons_ne_nil _ _)
  | true =>
      rw [matchesVersion] at accepted
      exact Option.isSome_of_any accepted

def Version.groups (version : Version) : VersionMatch :=
  (matchVersion version.text).get version.matches

/-- How a version ranks among others. -/
def Version.precedence (version : Version) : Precedence := version.groups.precedence

/-! ## The order of the code -/

/-- A natural number as a double, rounded to the nearest one, of two to the even one. -/
def toDouble (number : Nat) : WithTop Nat :=
  if number < 2 ^ 53 then number
  else
    let unit := 2 ^ (number.log2 - 52)
    let below := number / unit
    let up := unit < 2 * (number % unit) || (unit == 2 * (number % unit) && below % 2 == 1)
    let rounded := (if up then below + 1 else below) * unit
    if rounded < 2 ^ 1024 then rounded else ⊤

structure ParsedSemVer where
  major : WithTop Nat
  minor : WithTop Nat
  patch : WithTop Nat
  prerelease : String
  build : String
  deriving DecidableEq

def parseInt (digits : List Char) : WithTop Nat := toDouble (numberOf digits)

def parseSemVer (version : Version) : ParsedSemVer where
  major := parseInt version.groups.major
  minor := parseInt version.groups.minor
  patch := parseInt version.groups.patch
  prerelease := String.ofList version.groups.prerelease
  build := String.ofList version.groups.build

/-- The order that the sign of a difference gives. -/
abbrev numberOrder : LinearOrder (WithTop Nat) := WithTop.linearOrder

/-- The sign of the result. -/
def compareSemVer (a b : Version) : Ordering :=
  let aParsed := parseSemVer a
  let bParsed := parseSemVer b
  if aParsed.major ≠ bParsed.major then numberOrder.compare aParsed.major bParsed.major
  else if aParsed.minor ≠ bParsed.minor then numberOrder.compare aParsed.minor bParsed.minor
  else if aParsed.patch ≠ bParsed.patch then numberOrder.compare aParsed.patch bParsed.patch
  else if aParsed.prerelease ≠ "" ∧ bParsed.prerelease = "" then .lt
  else if aParsed.prerelease = "" ∧ bParsed.prerelease ≠ "" then .gt
  else if aParsed.prerelease ≠ bParsed.prerelease then
    if aParsed.prerelease < bParsed.prerelease then .lt else .gt
  else .eq

/-- What a version is compared by: its numbers as doubles, whether it is a release, and the text of
its prerelease. -/
abbrev TextRank := WithTop Nat ×ₗ WithTop Nat ×ₗ WithTop Nat ×ₗ Bool ×ₗ String

def Version.textRank (version : Version) : TextRank :=
  let parsed := parseSemVer version
  toLex (parsed.major, toLex (parsed.minor, toLex (parsed.patch,
    toLex (decide (parsed.prerelease = ""), parsed.prerelease))))

theorem compare_ne_gt_iff {κ : Type} [LinearOrder κ] {left right : κ} (apart : left ≠ right) :
    compare left right ≠ .gt ↔ left < right := by
  rw [compare_le_iff_le]
  exact ⟨fun le => lt_of_le_of_ne le apart, le_of_lt⟩

/-- Versions are compared by their ranks. -/
theorem compareSemVer_ne_gt_iff (a b : Version) :
    compareSemVer a b ≠ .gt ↔ a.textRank ≤ b.textRank := by
  rw [compareSemVer, Version.textRank, Version.textRank]
  generalize parseSemVer a = one
  generalize parseSemVer b = other
  simp only [Prod.Lex.toLex_le_toLex]
  by_cases major : one.major = other.major
  · by_cases minor : one.minor = other.minor
    · by_cases patch : one.patch = other.patch
      · simp only [major, minor, patch, ne_eq, not_true, if_false, lt_irrefl, false_or, true_and]
        by_cases release : one.prerelease = "" <;> by_cases otherRelease : other.prerelease = ""
        · simp [release, otherRelease]
        · simp [release, otherRelease]
        · simp [release, otherRelease]
        · by_cases same : one.prerelease = other.prerelease
          · simp [otherRelease, same]
          · by_cases before : one.prerelease < other.prerelease
            · simp [release, otherRelease, same, before, before.le]
            · have after := lt_of_le_of_ne (not_lt.mp before) (Ne.symm same)
              rw [if_neg (by simp [otherRelease]), if_neg (by simp [release]), if_pos same,
                if_neg before]
              simp [otherRelease, release, after.not_ge]
      · simp [major, minor, patch, compare_ne_gt_iff patch]
    · simp [major, minor, compare_ne_gt_iff minor]
  · simp [major, compare_ne_gt_iff major]

/-- Versions as `sort(compareSemVer)` orders them. -/
def semVerOrder : RowOrder Version where
  le a b := compareSemVer a b != .gt
  total a b := by
    simpa only [bne_iff_ne, compareSemVer_ne_gt_iff] using le_total a.textRank b.textRank
  trans first second := by
    rw [bne_iff_ne, compareSemVer_ne_gt_iff] at *
    exact first.trans second

end Reputo.AlgorithmRegistry

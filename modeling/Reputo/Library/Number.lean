import Mathlib.Algebra.Order.Ring.Rat
import Mathlib.Data.Rat.Floor

/-!
# Numbers that may be none

Numbers of a runtime that are exact where they are numbers at all.  What is not a number stays
so under arithmetic, and every comparison with it is false.
-/

namespace Reputo.Library

inductive Number where
  | nan
  | real (value : ℚ)
  deriving DecidableEq, Repr

namespace Number

/-- An operation that no number survives that is none. -/
def lift (operation : ℚ → ℚ) : Number → Number
  | nan => nan
  | real value => real (operation value)

def lift₂ (operation : ℚ → ℚ → ℚ) : Number → Number → Number
  | real left, real right => real (operation left right)
  | nan, _ => nan
  | real _, nan => nan

instance : Zero Number := ⟨real 0⟩
instance : Add Number := ⟨lift₂ (· + ·)⟩
instance : Sub Number := ⟨lift₂ (· - ·)⟩
instance : Mul Number := ⟨lift₂ (· * ·)⟩
instance : Div Number := ⟨lift₂ (· / ·)⟩

/-- `Number.isFinite(value)`. -/
def isFinite : Number → Bool
  | nan => false
  | real _ => true

/-- `Math.floor`. -/
def floor : Number → Number := lift fun value => ⌊value⌋

/-- `Math.round`. -/
def round : Number → Number := lift fun value => ⌊value + 1 / 2⌋

/-- `Math.max`. -/
def max : Number → Number → Number := lift₂ Max.max

def ge : Number → Number → Bool
  | real left, real right => right ≤ left
  | nan, _ => false
  | real _, nan => false

def gt : Number → Number → Bool
  | real left, real right => right < left
  | nan, _ => false
  | real _, nan => false

@[simp] theorem real_add (left right : ℚ) : real left + real right = real (left + right) := rfl
@[simp] theorem real_sub (left right : ℚ) : real left - real right = real (left - right) := rfl
@[simp] theorem real_mul (left right : ℚ) : real left * real right = real (left * right) := rfl
@[simp] theorem real_div (left right : ℚ) : real left / real right = real (left / right) := rfl
@[simp] theorem nan_add (right : Number) : nan + right = nan := by cases right <;> rfl
@[simp] theorem add_nan (left : Number) : left + nan = nan := by cases left <;> rfl

theorem isFinite_add {left right : Number} :
    (left + right).isFinite = (left.isFinite && right.isFinite) := by
  cases left with
  | nan => cases right <;> rfl
  | real left => cases right <;> rfl

theorem isFinite_sub {left right : Number} :
    (left - right).isFinite = (left.isFinite && right.isFinite) := by
  cases left with
  | nan => cases right <;> rfl
  | real left => cases right <;> rfl

theorem isFinite_mul {left right : Number} :
    (left * right).isFinite = (left.isFinite && right.isFinite) := by
  cases left with
  | nan => cases right <;> rfl
  | real left => cases right <;> rfl

theorem isFinite_div {left right : Number} :
    (left / right).isFinite = (left.isFinite && right.isFinite) := by
  cases left with
  | nan => cases right <;> rfl
  | real left => cases right <;> rfl

theorem isFinite_iff {value : Number} : value.isFinite = true ↔ ∃ exactly, value = real exactly := by
  cases value with
  | nan =>
      constructor
      · exact fun finite => Bool.noConfusion finite
      · rintro ⟨_, same⟩
        cases same
  | real value => exact ⟨fun _ => ⟨value, rfl⟩, fun _ => rfl⟩

end Number

end Reputo.Library

import Mathlib.Algebra.BigOperators.Ring.List
import Mathlib.Algebra.Order.BigOperators.Group.List
import Mathlib.Algebra.Order.Field.Basic
import Mathlib.Tactic.Ring

/-!
# Weighted means

The mean of values with weights, over any ordered field: it lies between the bounds of the
values, grows with each of them, and depends neither on the order of the items nor on a
common factor of the weights.
-/

namespace Reputo.Library

universe u v

variable {ι : Type u} {α : Type v} [Field α]

def weightedMean (weight value : ι → α) (items : List ι) : α :=
  (items.map fun item => weight item * value item).sum / (items.map weight).sum

/-- The mean as a sum of shares. -/
theorem weightedMean_eq_sum (weight value : ι → α) (items : List ι) :
    weightedMean weight value items =
      (items.map fun item => weight item / (items.map weight).sum * value item).sum := by
  rw [weightedMean, div_eq_mul_inv, ← List.sum_map_mul_right]
  congr 2
  funext item
  ring

theorem weightedMean_perm (weight value : ι → α) {left right : List ι}
    (same : left.Perm right) :
    weightedMean weight value left = weightedMean weight value right := by
  rw [weightedMean, weightedMean, (same.map _).sum_eq, (same.map weight).sum_eq]

theorem weightedMean_map {κ : Type u} (image : κ → ι) (weight value : ι → α) (items : List κ) :
    weightedMean weight value (items.map image) =
      weightedMean (fun item => weight (image item)) (fun item => value (image item)) items := by
  simp only [weightedMean, List.map_map, Function.comp_def]

/-- A common factor of the weights cancels. -/
theorem weightedMean_scale (weight value : ι → α) (items : List ι) {factor : α}
    (nonzero : factor ≠ 0) :
    weightedMean (fun item => factor * weight item) value items =
      weightedMean weight value items := by
  simp only [weightedMean, mul_assoc, List.sum_map_mul_left]
  exact mul_div_mul_left _ _ nonzero

section Ordered

variable [LinearOrder α] [IsStrictOrderedRing α] {weight value higher : ι → α} {items : List ι}

theorem sum_weight_pos (nonempty : items ≠ []) (positive : ∀ item ∈ items, 0 < weight item) :
    0 < (items.map weight).sum := by
  apply List.sum_pos
  · simpa using positive
  · simpa using nonempty

/-- The mean grows with every value. -/
theorem weightedMean_mono (positive : ∀ item ∈ items, 0 < weight item)
    (grows : ∀ item ∈ items, value item ≤ higher item) :
    weightedMean weight value items ≤ weightedMean weight higher items := by
  have total : 0 ≤ (items.map weight).sum := by
    apply List.sum_nonneg
    simpa using fun item member => (positive item member).le
  apply div_le_div_of_nonneg_right _ total
  apply List.sum_le_sum
  exact fun item member => mul_le_mul_of_nonneg_left (grows item member) (positive item member).le

theorem weightedMean_const (nonempty : items ≠ []) (positive : ∀ item ∈ items, 0 < weight item)
    (bound : α) : weightedMean weight (fun _ => bound) items = bound := by
  rw [weightedMean, List.sum_map_mul_right]
  exact mul_div_cancel_left₀ bound (sum_weight_pos nonempty positive).ne'

/-- The mean lies between the bounds of the values. -/
theorem weightedMean_mem_bounds (nonempty : items ≠ [])
    (positive : ∀ item ∈ items, 0 < weight item) {lower upper : α}
    (bounded : ∀ item ∈ items, lower ≤ value item ∧ value item ≤ upper) :
    lower ≤ weightedMean weight value items ∧ weightedMean weight value items ≤ upper := by
  constructor
  · rw [← weightedMean_const nonempty positive lower]
    exact weightedMean_mono positive fun item member => (bounded item member).1
  · rw [← weightedMean_const nonempty positive upper]
    exact weightedMean_mono positive fun item member => (bounded item member).2

end Ordered

end Reputo.Library

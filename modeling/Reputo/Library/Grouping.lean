import Mathlib.Algebra.BigOperators.Finprod
import Mathlib.Algebra.BigOperators.Group.List.Lemmas
import Reputo.Library.Distinct

/-!
# Sums of groups

Rows that carry a key and an amount are grouped by their keys, one total for each.  A sum over
the groups of some keys is a sum over all keys there could be, as far as no rows weigh nothing.
-/

namespace Reputo.Library

universe u v

variable {κ : Type u} [DecidableEq κ]

/-- What the rows with a key amount to. -/
def totalOf (rows : List (κ × Nat)) (key : κ) : Nat :=
  ((rows.filter fun row => row.1 = key).map (·.2)).sum

/-- `SELECT key, sum(amount) … GROUP BY key`. -/
def groupTotals (rows : List (κ × Nat)) : List (κ × Nat) :=
  (distinctBy id (rows.map (·.1))).map fun key => (key, totalOf rows key)

@[simp] theorem totalOf_nil (key : κ) : totalOf [] key = 0 := rfl

theorem totalOf_cons (row : κ × Nat) (rows : List (κ × Nat)) (key : κ) :
    totalOf (row :: rows) key = (if row.1 = key then row.2 else 0) + totalOf rows key := by
  by_cases same : row.1 = key
  · simp [totalOf, same]
  · simp [totalOf, same]

theorem totalOf_append (left right : List (κ × Nat)) (key : κ) :
    totalOf (left ++ right) key = totalOf left key + totalOf right key := by
  rw [totalOf, List.filter_append, List.map_append, List.sum_append]
  rfl

theorem totalOf_perm {rows others : List (κ × Nat)} (perm : rows.Perm others) (key : κ) :
    totalOf rows key = totalOf others key :=
  ((perm.filter _).map _).sum_eq

theorem totalOf_eq_zero {rows : List (κ × Nat)} {key : κ} (absent : key ∉ rows.map (·.1)) :
    totalOf rows key = 0 := by
  have none_ : (rows.filter fun row => row.1 = key) = [] :=
    List.filter_eq_nil_iff.mpr fun row member same =>
      absent (of_decide_eq_true same ▸ List.mem_map_of_mem member)
  rw [totalOf, none_]
  rfl

/-- A total that is none has no rows, or rows that amount to nothing. -/
theorem mem_keys_of_totalOf_ne_zero {rows : List (κ × Nat)} {key : κ}
    (some_ : totalOf rows key ≠ 0) : key ∈ rows.map (·.1) := by
  by_contra absent
  exact some_ (totalOf_eq_zero absent)

theorem totalOf_pos {rows : List (κ × Nat)} (counted : ∀ row ∈ rows, 0 < row.2) {key : κ} :
    0 < totalOf rows key ↔ key ∈ rows.map (·.1) := by
  constructor
  · exact fun positive => mem_keys_of_totalOf_ne_zero positive.ne'
  · intro member
    rcases List.mem_map.mp member with ⟨row, listed, same⟩
    have part : row.2 ∈ (rows.filter fun row => row.1 = key).map (·.2) :=
      List.mem_map_of_mem (List.mem_filter.mpr ⟨listed, decide_eq_true same⟩)
    exact lt_of_lt_of_le (counted row listed) (List.single_le_sum (fun _ _ => Nat.zero_le _) _ part)

theorem mem_groupTotals {rows : List (κ × Nat)} {group : κ × Nat} :
    group ∈ groupTotals rows ↔ group.1 ∈ rows.map (·.1) ∧ group.2 = totalOf rows group.1 := by
  rw [groupTotals, List.mem_map]
  constructor
  · rintro ⟨key, member, rfl⟩
    exact ⟨mem_distinctBy_id.mp member, rfl⟩
  · rintro ⟨member, same⟩
    exact ⟨group.1, mem_distinctBy_id.mpr member, Prod.ext rfl same.symm⟩

theorem keys_groupTotals_nodup (rows : List (κ × Nat)) : ((groupTotals rows).map (·.1)).Nodup := by
  have keys : (groupTotals rows).map (·.1) = distinctBy id (rows.map (·.1)) := by
    rw [groupTotals, List.map_map]
    exact List.map_id' _
  rw [keys, ← List.map_id (distinctBy id _)]
  exact keys_distinctBy_nodup id _

variable {δ : Type v}

/-- Totals vanish but for finitely many keys. -/
theorem support_totalOf_finite (rows : List (κ × Nat)) {key : δ → κ}
    (injective : Function.Injective key) {weight : Nat → Nat} (zero : weight 0 = 0) :
    (Function.support fun part => weight (totalOf rows (key part))).Finite := by
  refine ((rows.map (·.1)).finite_toSet.preimage injective.injOn).subset fun part some_ => ?_
  refine mem_keys_of_totalOf_ne_zero fun none_ => some_ ?_
  simp only [none_, zero]

/-- The groups of some keys, summed: all keys of that kind count, as the others amount to
nothing. -/
theorem sum_groupTotals (rows : List (κ × Nat)) {key : δ → κ}
    (injective : Function.Injective key) {keep : κ → Bool}
    (kept : ∀ other, keep other = true ↔ ∃ part, key part = other) {weight : Nat → Nat}
    (zero : weight 0 = 0) :
    (((groupTotals rows).filter fun group => keep group.1).map fun group => weight group.2).sum =
      ∑ᶠ part, weight (totalOf rows (key part)) := by
  have listed : (((groupTotals rows).filter fun group => keep group.1).map fun group =>
      weight group.2) = ((distinctBy id (rows.map (·.1))).filter keep).map fun other =>
        weight (totalOf rows other) := by
    rw [groupTotals, List.filter_map, List.map_map]
    rfl
  have nodup : ((distinctBy id (rows.map (·.1))).filter keep).Nodup := by
    refine List.Nodup.filter keep ?_
    rw [← List.map_id (distinctBy id _)]
    exact keys_distinctBy_nodup id _
  rw [listed, ← List.sum_toFinset _ nodup,
    ← finsum_mem_range (f := fun other => weight (totalOf rows other)) injective]
  refine (finsum_mem_eq_sum_of_inter_support_eq _ ?_).symm
  ext other
  simp only [Set.mem_inter_iff, Set.mem_range, Function.mem_support, Finset.mem_coe,
    List.mem_toFinset, List.mem_filter, kept, mem_distinctBy_id]
  constructor
  · rintro ⟨image, some_⟩
    refine ⟨⟨mem_keys_of_totalOf_ne_zero fun none_ => some_ ?_, image⟩, some_⟩
    rw [none_]
    exact zero
  · rintro ⟨⟨_, image⟩, some_⟩
    exact ⟨image, some_⟩

end Reputo.Library

import Mathlib.Data.List.Nodup

/-!
# Tables with a unique key

A table is a list of rows no two of which share their key.  Inserting a row
whose key is taken changes nothing, so repeating an insertion is harmless.
-/

namespace Reputo.Library

universe u v

/-- Rows with pairwise different keys, in insertion order. -/
@[ext] structure Table (ρ : Type u) {κ : Type v} (key : ρ → κ) where
  rows : List ρ
  keys_nodup : (rows.map key).Nodup

namespace Table

variable {ρ : Type u} {κ : Type v} {key : ρ → κ}

instance : Membership ρ (Table ρ key) := ⟨fun table row => row ∈ table.rows⟩

theorem mem_iff {table : Table ρ key} {row : ρ} : row ∈ table ↔ row ∈ table.rows := Iff.rfl

/-- The table without rows. -/
def empty : Table ρ key := ⟨[], List.nodup_nil⟩

/-- A key determines its row. -/
theorem eq_of_key_eq {table : Table ρ key} {left right : ρ} (leftMember : left ∈ table)
    (rightMember : right ∈ table) (same : key left = key right) : left = right :=
  List.inj_on_of_nodup_map table.keys_nodup leftMember rightMember same

/-- The rows that pass `keep`. -/
def filter (table : Table ρ key) (keep : ρ → Bool) : Table ρ key where
  rows := table.rows.filter keep
  keys_nodup := table.keys_nodup.sublist (List.filter_sublist.map key)

theorem mem_filter {table : Table ρ key} {keep : ρ → Bool} {row : ρ} :
    row ∈ table.filter keep ↔ row ∈ table ∧ keep row :=
  List.mem_filter

section Modify

variable {condition : ρ → Bool} {change : ρ → ρ}

/-- Change the rows that meet a condition; their keys stay. -/
def modify (table : Table ρ key) (condition : ρ → Bool) (change : ρ → ρ)
    (keeps : ∀ row, key (change row) = key row) : Table ρ key where
  rows := table.rows.map fun row => if condition row then change row else row
  keys_nodup := by
    have keys : (table.rows.map fun row => if condition row then change row else row).map key =
        table.rows.map key := by
      rw [List.map_map]
      apply List.map_congr_left
      intro row _
      simp only [Function.comp]
      split
      · exact keeps row
      · rfl
    rw [keys]
    exact table.keys_nodup

theorem mem_modify {table : Table ρ key} (keeps : ∀ row, key (change row) = key row) {row : ρ} :
    row ∈ table.modify condition change keeps ↔
      ∃ stored ∈ table, (if condition stored then change stored else stored) = row :=
  List.mem_map

end Modify

variable [DecidableEq κ]

/-- Insert one row unless its key is taken. -/
def insertOrIgnore (table : Table ρ key) (row : ρ) : Table ρ key :=
  if taken : key row ∈ table.rows.map key then table
  else
    { rows := table.rows ++ [row]
      keys_nodup := by
        rw [List.map_append, List.nodup_append]
        refine ⟨table.keys_nodup, List.nodup_singleton _, ?_⟩
        intro old oldMember new newMember equal
        rw [List.mem_singleton.mp newMember] at equal
        exact taken (equal ▸ oldMember) }

/-- Insert one row, which fails if its key is taken. -/
def insert (table : Table ρ key) (row : ρ) : Option (Table ρ key) :=
  if key row ∈ table.rows.map key then none else some (table.insertOrIgnore row)

/-- Insert rows one after another, ignoring those whose key is taken. -/
def insertAllOrIgnore (table : Table ρ key) (rows : List ρ) : Table ρ key :=
  rows.foldl insertOrIgnore table

/-- Number of rows that `insertAllOrIgnore` adds. -/
def insertedCount (table : Table ρ key) (rows : List ρ) : Nat :=
  (table.insertAllOrIgnore rows).rows.length - table.rows.length

theorem insertOrIgnore_rows_of_fresh {table : Table ρ key} {row : ρ}
    (fresh : key row ∉ table.rows.map key) :
    (table.insertOrIgnore row).rows = table.rows ++ [row] := by
  rw [insertOrIgnore, dif_neg fresh]

theorem insertOrIgnore_of_taken {table : Table ρ key} {row : ρ}
    (taken : key row ∈ table.rows.map key) : table.insertOrIgnore row = table := by
  rw [insertOrIgnore, dif_pos taken]

/-- Rows are all inserted if their keys are fresh and distinct, and otherwise none is. -/
theorem insert_all_eq_some {table after : Table ρ key} {rows : List ρ} :
    rows.foldlM insert table = some after ↔
      ((table.rows ++ rows).map key).Nodup ∧ after.rows = table.rows ++ rows := by
  induction rows generalizing table with
  | nil =>
      rw [List.foldlM_nil, List.append_nil]
      constructor
      · intro same
        rw [← Option.some.inj same]
        exact ⟨table.keys_nodup, rfl⟩
      · intro ⟨_, same⟩
        exact congrArg some (Table.ext same.symm)
  | cons row rest ih =>
      rw [List.foldlM_cons, insert]
      by_cases taken : key row ∈ table.rows.map key
      · rw [if_pos taken]
        constructor
        · intro none_
          cases none_
        · intro ⟨nodup, _⟩
          rw [List.map_append, List.nodup_append] at nodup
          exact absurd rfl (nodup.2.2 _ taken _ List.mem_cons_self)
      · rw [if_neg taken]
        refine ih.trans ?_
        rw [insertOrIgnore_rows_of_fresh taken, List.append_assoc, List.singleton_append]

/-- Rows that are there already, or were inserted, are in the table. -/
theorem mem_insertOrIgnore {table : Table ρ key} {row : ρ} {other : ρ} :
    other ∈ table.insertOrIgnore row ↔
      other ∈ table ∨ (other = row ∧ key row ∉ table.rows.map key) := by
  by_cases taken : key row ∈ table.rows.map key
  · rw [insertOrIgnore_of_taken taken]
    simp [taken]
  · simp [mem_iff, insertOrIgnore_rows_of_fresh taken, taken]

/-- Fresh rows with distinct keys are all appended. -/
theorem insertAllOrIgnore_rows_of_fresh {table : Table ρ key} {rows : List ρ}
    (fresh : ((table.rows ++ rows).map key).Nodup) :
    (table.insertAllOrIgnore rows).rows = table.rows ++ rows := by
  induction rows generalizing table with
  | nil => simp [insertAllOrIgnore]
  | cons row rest ih =>
      have rowFresh : key row ∉ table.rows.map key := by
        intro taken
        rw [List.map_append, List.nodup_append] at fresh
        exact fresh.2.2 _ taken _ (by simp) rfl
      have step := insertOrIgnore_rows_of_fresh rowFresh
      have restFresh : (((table.insertOrIgnore row).rows ++ rest).map key).Nodup := by
        rw [step]
        simpa using fresh
      have next := ih restFresh
      rw [step] at next
      simpa [insertAllOrIgnore] using next

/-- No row is lost by inserting. -/
theorem subset_insertAllOrIgnore (table : Table ρ key) (rows : List ρ) {row : ρ}
    (member : row ∈ table) : row ∈ table.insertAllOrIgnore rows := by
  induction rows generalizing table with
  | nil => exact member
  | cons head rest ih => exact ih _ (mem_insertOrIgnore.mpr (Or.inl member))

/-- Every row of the result was there or was inserted. -/
theorem mem_of_mem_insertAllOrIgnore {table : Table ρ key} {rows : List ρ} {row : ρ}
    (member : row ∈ table.insertAllOrIgnore rows) : row ∈ table ∨ row ∈ rows := by
  induction rows generalizing table with
  | nil => exact Or.inl member
  | cons head rest ih =>
      rcases ih member with old | new
      · rcases mem_insertOrIgnore.mp old with stored | ⟨same, _⟩
        · exact Or.inl stored
        · exact Or.inr (same ▸ List.mem_cons_self)
      · exact Or.inr (List.mem_cons_of_mem _ new)

/-- The key of every inserted row is in the table afterwards. -/
theorem key_mem_insertAllOrIgnore (table : Table ρ key) {rows : List ρ} {row : ρ}
    (member : row ∈ rows) : key row ∈ (table.insertAllOrIgnore rows).rows.map key := by
  induction rows generalizing table with
  | nil => simp at member
  | cons head rest ih =>
      rcases List.mem_cons.mp member with same | tailMember
      · subst same
        by_cases taken : key row ∈ table.rows.map key
        · obtain ⟨stored, storedMember, equal⟩ := List.mem_map.mp taken
          have kept := (table.insertOrIgnore row).subset_insertAllOrIgnore rest
            (mem_insertOrIgnore.mpr (Or.inl storedMember))
          exact equal ▸ List.mem_map_of_mem kept
        · exact List.mem_map_of_mem ((table.insertOrIgnore row).subset_insertAllOrIgnore rest
            (mem_insertOrIgnore.mpr (Or.inr ⟨rfl, taken⟩)))
      · exact ih (table.insertOrIgnore head) tailMember

/-- A new row is inserted when the inserted rows do not disagree on its key. -/
theorem mem_insertAllOrIgnore_of_fresh {table : Table ρ key} {rows : List ρ} {row : ρ}
    (member : row ∈ rows) (fresh : key row ∉ table.rows.map key)
    (agree : ∀ other ∈ rows, key other = key row → other = row) :
    row ∈ table.insertAllOrIgnore rows := by
  rcases List.mem_map.mp (table.key_mem_insertAllOrIgnore member) with ⟨stored, storedMember, same⟩
  rcases mem_of_mem_insertAllOrIgnore storedMember with old | new
  · exact absurd (same ▸ List.mem_map_of_mem old) fresh
  · exact agree stored new same ▸ storedMember

/-- Inserting rows that a filter drops leaves the filtered rows alone. -/
theorem filter_insertAllOrIgnore_of_dropped (keep : ρ → Bool) (table : Table ρ key)
    {rows : List ρ} (dropped : ∀ row ∈ rows, keep row = false) :
    (table.insertAllOrIgnore rows).rows.filter keep = table.rows.filter keep := by
  induction rows generalizing table with
  | nil => rfl
  | cons row rest ih =>
      have others : ∀ other ∈ rest, keep other = false := fun other member =>
        dropped other (List.mem_cons_of_mem _ member)
      have head : (table.insertOrIgnore row).rows.filter keep = table.rows.filter keep := by
        cases Decidable.em (key row ∈ table.rows.map key) with
        | inl taken => rw [insertOrIgnore_of_taken taken]
        | inr fresh =>
            rw [insertOrIgnore_rows_of_fresh fresh, List.filter_append,
              List.filter_cons_of_neg (by simp [dropped row List.mem_cons_self]),
              List.filter_nil, List.append_nil]
      exact (ih (table.insertOrIgnore row) others).trans head

/-! ## Overwriting a row -/

/-- Row stored under a key. -/
def find? (table : Table ρ key) (query : κ) : Option ρ :=
  table.rows.find? fun row => key row = query

/-- Overwrite the row with the key of `row`, or append it. -/
def upsert (table : Table ρ key) (row : ρ) : Table ρ key :=
  if taken : key row ∈ table.rows.map key then
    { rows := table.rows.map fun stored => if key stored = key row then row else stored
      keys_nodup := by
        have keys : (table.rows.map fun stored => if key stored = key row then row else stored).map
            key = table.rows.map key := by
          rw [List.map_map]
          apply List.map_congr_left
          intro stored _
          by_cases same : key stored = key row <;> simp [same]
        rw [keys]
        exact table.keys_nodup }
  else table.insertOrIgnore row

theorem find?_eq_some_iff {table : Table ρ key} {query : κ} {row : ρ} :
    table.find? query = some row ↔ row ∈ table ∧ key row = query := by
  constructor
  · intro found
    exact ⟨List.mem_of_find?_eq_some found, by simpa using List.find?_some found⟩
  · intro ⟨member, same⟩
    cases found : table.find? query with
    | none =>
        have missing := List.find?_eq_none.mp found row member
        simp [same] at missing
    | some other =>
        have otherKey : key other = query := by simpa using List.find?_some found
        rw [table.eq_of_key_eq (List.mem_of_find?_eq_some found) member (otherKey.trans same.symm)]

/-- A key that is not found is that of no row. -/
theorem key_ne_of_find?_eq_none {table : Table ρ key} {query : κ} {row : ρ}
    (absent : table.find? query = none) (member : row ∈ table) : key row ≠ query := by
  intro own
  rw [find?_eq_some_iff.mpr ⟨member, own⟩] at absent
  cases absent

/-- Fewer rows find nothing more. -/
theorem find?_eq_none_of_subset {table fewer : Table ρ key} {query : κ}
    (within : ∀ row ∈ fewer, row ∈ table) (absent : table.find? query = none) :
    fewer.find? query = none := by
  cases found : fewer.find? query with
  | none => rfl
  | some row =>
      rcases find?_eq_some_iff.mp found with ⟨stored, own⟩
      exact absurd own (key_ne_of_find?_eq_none absent (within row stored))

theorem mem_upsert {table : Table ρ key} {row other : ρ} :
    other ∈ table.upsert row ↔ other = row ∨ (other ∈ table ∧ key other ≠ key row) := by
  by_cases taken : key row ∈ table.rows.map key
  · rcases List.mem_map.mp taken with ⟨stored, storedMember, storedKey⟩
    rw [upsert, dif_pos taken, mem_iff, List.mem_map]
    constructor
    · intro ⟨source, sourceMember, replaced⟩
      by_cases same : key source = key row
      · rw [if_pos same] at replaced
        exact Or.inl replaced.symm
      · rw [if_neg same] at replaced
        exact Or.inr ⟨replaced ▸ sourceMember, replaced ▸ same⟩
    · intro result
      rcases result with same | ⟨member, different⟩
      · exact ⟨stored, storedMember, by rw [if_pos storedKey, same]⟩
      · exact ⟨other, member, by rw [if_neg different]⟩
  · rw [upsert, dif_neg taken, mem_insertOrIgnore]
    constructor
    · intro result
      rcases result with member | ⟨same, _⟩
      · refine Or.inr ⟨member, ?_⟩
        intro same
        exact taken (same ▸ List.mem_map_of_mem member)
      · exact Or.inl same
    · intro result
      rcases result with same | ⟨member, _⟩
      · exact Or.inr ⟨same, taken⟩
      · exact Or.inl member

/-- The row that was just written is found under its key. -/
theorem find?_upsert_self (table : Table ρ key) (row : ρ) :
    (table.upsert row).find? (key row) = some row :=
  find?_eq_some_iff.mpr ⟨mem_upsert.mpr (Or.inl rfl), rfl⟩

/-- Rows under other keys stay as they are. -/
theorem find?_upsert_of_ne (table : Table ρ key) {row : ρ} {query : κ} (other : query ≠ key row) :
    (table.upsert row).find? query = table.find? query := by
  apply Option.ext
  intro stored
  rw [find?_eq_some_iff, find?_eq_some_iff, mem_upsert]
  constructor
  · intro ⟨result, same⟩
    rcases result with written | ⟨member, _⟩
    · exact absurd (written ▸ same.symm) other
    · exact ⟨member, same⟩
  · intro ⟨member, same⟩
    exact ⟨Or.inr ⟨member, same ▸ other⟩, same⟩

/-! ## Changing rows -/

/-- A row is found as before, changed if it meets the condition. -/
theorem find?_modify {condition : ρ → Bool} {change : ρ → ρ} {table : Table ρ key}
    (keeps : ∀ row, key (change row) = key row) {query : κ} :
    (table.modify condition change keeps).find? query =
      (table.find? query).map fun row => if condition row then change row else row := by
  have sameKey : ∀ row, key (if condition row then change row else row) = key row := by
    intro row
    split
    · exact keeps row
    · rfl
  rw [find?, modify, List.find?_map, find?]
  congr 1
  congr 1
  funext row
  simp only [Function.comp, sameKey]

/-! ## Deleting rows -/

/-- Rows that are kept are found as before. -/
theorem find?_filter {table : Table ρ key} {keep : ρ → Bool} {query : κ}
    (kept : ∀ row ∈ table, key row = query → keep row) :
    (table.filter keep).find? query = table.find? query := by
  apply Option.ext
  intro row
  rw [find?_eq_some_iff, find?_eq_some_iff, mem_filter]
  constructor
  · exact fun ⟨⟨member, _⟩, same⟩ => ⟨member, same⟩
  · exact fun ⟨member, same⟩ => ⟨⟨member, kept row member same⟩, same⟩

theorem find?_filter_of_dropped {table : Table ρ key} {keep : ρ → Bool} {query : κ}
    (dropped : ∀ row, key row = query → keep row = false) :
    (table.filter keep).find? query = none := by
  cases found : (table.filter keep).find? query with
  | none => rfl
  | some row =>
      rcases find?_eq_some_iff.mp found with ⟨member, same⟩
      have kept := (mem_filter.mp member).2
      rw [dropped row same] at kept
      exact nomatch kept

/-! ## Moving a row to the end -/

/-- The row becomes the last one, in the place of the row with its key. -/
def moveToEnd (table : Table ρ key) (row : ρ) : Table ρ key where
  rows := table.rows.filter (key · ≠ key row) ++ [row]
  keys_nodup := by
    rw [List.map_append, List.nodup_append]
    refine ⟨table.keys_nodup.sublist (List.filter_sublist.map key), List.nodup_singleton _, ?_⟩
    intro old oldMember new newMember
    rcases List.mem_map.mp oldMember with ⟨stored, storedMember, storedKey⟩
    rw [List.mem_singleton.mp newMember, ← storedKey]
    exact of_decide_eq_true (List.mem_filter.mp storedMember).2

theorem mem_moveToEnd {table : Table ρ key} {row other : ρ} :
    other ∈ table.moveToEnd row ↔ other = row ∨ (other ∈ table ∧ key other ≠ key row) := by
  rw [moveToEnd, mem_iff, List.mem_append, List.mem_filter, List.mem_singleton,
    decide_eq_true_iff, or_comm]
  rfl

end Table

end Reputo.Library

import Mathlib.Algebra.BigOperators.Group.List.Basic
import Mathlib.Data.List.Basic
import Mathlib.Data.List.Nodup

/-!
# Insertion-ordered maps

A finite map that remembers the order in which its keys were first set.
Overwriting a key keeps its position, so iteration order is first-insertion
order.  The structure carries the duplicate-freedom of its keys.
-/

namespace Reputo.Library

universe u v w

/-- A finite map with its entries in first-insertion order. -/
@[ext] structure OrderedMap (κ : Type u) (ν : Type v) where
  entries : List (κ × ν)
  keys_nodup : (entries.map Prod.fst).Nodup

namespace OrderedMap

variable {κ : Type u} {ν : Type v} [DecidableEq κ]

/-- Replace the value stored under `key`, or append a new entry. -/
def setEntries (key : κ) (value : ν) : List (κ × ν) → List (κ × ν)
  | [] => [(key, value)]
  | (other, stored) :: rest =>
      if other = key then (key, value) :: rest
      else (other, stored) :: setEntries key value rest

-- The equations are made here, once for all proofs below.
section
attribute [local simp] setEntries
end

theorem mem_keys_setEntries {key query : κ} {value : ν} {entries : List (κ × ν)} :
    query ∈ (setEntries key value entries).map Prod.fst ↔
      query = key ∨ query ∈ entries.map Prod.fst := by
  induction entries with
  | nil => simp [setEntries]
  | cons entry rest ih =>
      obtain ⟨other, stored⟩ := entry
      by_cases equal : other = key
      · subst equal
        simp [setEntries]
      · simp only [setEntries, equal, ↓reduceIte, List.map_cons, List.mem_cons, ih]
        tauto

theorem setEntries_nodup {key : κ} {value : ν} {entries : List (κ × ν)}
    (nodup : (entries.map Prod.fst).Nodup) :
    ((setEntries key value entries).map Prod.fst).Nodup := by
  induction entries with
  | nil => simp [setEntries]
  | cons entry rest ih =>
      obtain ⟨other, stored⟩ := entry
      simp only [List.map_cons, List.nodup_cons] at nodup
      by_cases equal : other = key
      · subst equal
        simpa [setEntries] using nodup
      · simp only [setEntries, equal, ↓reduceIte, List.map_cons, List.nodup_cons]
        refine ⟨?_, ih nodup.2⟩
        rw [mem_keys_setEntries]
        rintro (same | member)
        · exact equal same
        · exact nodup.1 member

/-- The map without entries. -/
def empty : OrderedMap κ ν := ⟨[], List.nodup_nil⟩

/-- Value stored under `key`, if any. -/
def get? (map : OrderedMap κ ν) (key : κ) : Option ν := map.entries.lookup key

/-- Store `value` under `key`, keeping the position of a key that exists. -/
def set (map : OrderedMap κ ν) (key : κ) (value : ν) : OrderedMap κ ν :=
  ⟨setEntries key value map.entries, setEntries_nodup map.keys_nodup⟩

/-- Keys in iteration order. -/
def keys (map : OrderedMap κ ν) : List κ := map.entries.map Prod.fst

/-- Build a map from pairs; a later pair overwrites an earlier one. -/
def ofPairs (pairs : List (κ × ν)) : OrderedMap κ ν :=
  pairs.foldl (fun map pair => map.set pair.1 pair.2) empty

@[simp] theorem get?_empty (key : κ) : (empty : OrderedMap κ ν).get? key = none := rfl

theorem lookup_cons_of_ne {query other : κ} (stored : ν) (rest : List (κ × ν))
    (different : query ≠ other) :
    List.lookup query ((other, stored) :: rest) = rest.lookup query := by
  have unequal : (query == other) = false := by simpa using different
  simp [List.lookup_cons, unequal]

theorem lookup_setEntries (key query : κ) (value : ν) (entries : List (κ × ν)) :
    (setEntries key value entries).lookup query =
      if query = key then some value else entries.lookup query := by
  induction entries with
  | nil =>
      by_cases same : query = key
      · simp [setEntries, same]
      · simp [setEntries, same, lookup_cons_of_ne]
  | cons entry rest ih =>
      obtain ⟨other, stored⟩ := entry
      by_cases equal : other = key
      · subst equal
        by_cases same : query = other
        · simp [setEntries, same]
        · simp [setEntries, same, lookup_cons_of_ne]
      · by_cases found : query = other
        · subst found
          simp [setEntries, equal]
        · simp [setEntries, equal, lookup_cons_of_ne _ _ found, ih]

theorem get?_set (map : OrderedMap κ ν) (key query : κ) (value : ν) :
    (map.set key value).get? query =
      if query = key then some value else map.get? query :=
  lookup_setEntries key query value map.entries

@[simp] theorem get?_set_self (map : OrderedMap κ ν) (key : κ) (value : ν) :
    (map.set key value).get? key = some value := by
  simp [get?_set]

theorem get?_set_of_ne (map : OrderedMap κ ν) {key query : κ} (value : ν)
    (different : query ≠ key) : (map.set key value).get? query = map.get? query := by
  simp [get?_set, different]

/-- Overwriting an existing key keeps the iteration order of the keys. -/
theorem keys_set_of_mem (map : OrderedMap κ ν) {key : κ} (value : ν)
    (member : key ∈ map.keys) : (map.set key value).keys = map.keys := by
  obtain ⟨entries, nodup⟩ := map
  simp only [keys, set] at member ⊢
  clear nodup
  induction entries with
  | nil => simp at member
  | cons entry rest ih =>
      obtain ⟨other, stored⟩ := entry
      by_cases equal : other = key
      · simp [setEntries, equal]
      · have tailMember : key ∈ rest.map Prod.fst := by
          simpa [Ne.symm equal] using member
        simp [setEntries, equal, ih tailMember]

theorem mem_keys_iff_get? (map : OrderedMap κ ν) (key : κ) :
    key ∈ map.keys ↔ ∃ value, map.get? key = some value := by
  obtain ⟨entries, nodup⟩ := map
  simp only [keys, get?]
  clear nodup
  induction entries with
  | nil => simp
  | cons entry rest ih =>
      obtain ⟨other, stored⟩ := entry
      by_cases equal : key = other
      · simp [equal]
      · rw [lookup_cons_of_ne _ _ equal, ← ih]
        simp [equal]

/-- An entry is what looking its key up returns. -/
theorem get?_of_mem_entries (map : OrderedMap κ ν) {entry : κ × ν}
    (member : entry ∈ map.entries) : map.get? entry.1 = some entry.2 := by
  obtain ⟨entries, nodup⟩ := map
  simp only [get?]
  simp only at member
  induction entries with
  | nil => simp at member
  | cons head rest ih =>
      obtain ⟨other, stored⟩ := head
      simp only [List.map_cons, List.nodup_cons] at nodup
      rcases List.mem_cons.mp member with rfl | tailMember
      · simp
      · have different : entry.1 ≠ other := by
          rintro rfl
          exact nodup.1 (List.mem_map_of_mem tailMember)
        simpa [lookup_cons_of_ne _ _ different] using ih nodup.2 tailMember

theorem get?_foldl_set (pairs : List (κ × ν)) (map : OrderedMap κ ν) (key : κ)
    (absent : key ∉ pairs.map Prod.fst) :
    (pairs.foldl (fun map pair => map.set pair.1 pair.2) map).get? key = map.get? key := by
  induction pairs generalizing map with
  | nil => rfl
  | cons pair rest ih =>
      simp only [List.map_cons, List.mem_cons, not_or] at absent
      rw [List.foldl_cons, ih _ absent.2, get?_set_of_ne _ _ absent.1]

/-- When every pair carries the same value, the map sends exactly the listed
keys to it. -/
theorem get?_ofPairs_const (listed : List κ) (value : ν) (key : κ) :
    (ofPairs (listed.map fun item => (item, value))).get? key =
      if key ∈ listed then some value else none := by
  have general : ∀ map : OrderedMap κ ν,
      ((listed.map fun item => (item, value)).foldl
        (fun map pair => map.set pair.1 pair.2) map).get? key =
        if key ∈ listed then some value else map.get? key := by
    induction listed with
    | nil => intro map; simp
    | cons head rest ih =>
        intro map
        rw [List.map_cons, List.foldl_cons, ih]
        by_cases member : key ∈ rest
        · simp [member]
        · by_cases same : key = head <;> simp [member, same, get?_set]
  simpa [ofPairs] using general empty

/-- Pairs with different keys are all found in the map they build. -/
theorem get?_ofPairs_of_nodup {pairs : List (κ × ν)} (nodup : (pairs.map Prod.fst).Nodup)
    {key : κ} {value : ν} (member : (key, value) ∈ pairs) :
    (ofPairs pairs).get? key = some value := by
  rw [ofPairs]
  generalize (empty : OrderedMap κ ν) = map
  induction pairs generalizing map with
  | nil => simp at member
  | cons pair rest ih =>
      rcases List.nodup_cons.mp nodup with ⟨fresh, restNodup⟩
      rcases List.mem_cons.mp member with same | tailMember
      · subst same
        rw [List.foldl_cons, get?_foldl_set _ _ _ fresh, get?_set_self]
      · exact ih restNodup tailMember _

/-- A key that is new is added at the end. -/
theorem setEntries_of_not_mem {key : κ} {value : ν} {entries : List (κ × ν)}
    (fresh : key ∉ entries.map Prod.fst) :
    setEntries key value entries = entries ++ [(key, value)] := by
  induction entries with
  | nil => rfl
  | cons entry rest ih =>
      rw [List.map_cons, List.mem_cons, not_or] at fresh
      rw [setEntries, if_neg (Ne.symm fresh.1), ih fresh.2, List.cons_append]

/-- Pairs with different keys are the entries of the map they build. -/
theorem entries_ofPairs_of_nodup {pairs : List (κ × ν)} (nodup : (pairs.map Prod.fst).Nodup) :
    (ofPairs pairs).entries = pairs := by
  have general : ∀ map : OrderedMap κ ν, (map.entries.map Prod.fst ++ pairs.map Prod.fst).Nodup →
      (pairs.foldl (fun map pair => map.set pair.1 pair.2) map).entries = map.entries ++ pairs := by
    clear nodup
    induction pairs with
    | nil => exact fun map _ => (List.append_nil map.entries).symm
    | cons pair rest ih =>
        intro map nodup
        have fresh : pair.1 ∉ map.entries.map Prod.fst := fun member =>
          (List.nodup_append.mp nodup).2.2 _ member _ (List.mem_cons_self ..) rfl
        have added : (map.set pair.1 pair.2).entries = map.entries ++ [pair] :=
          setEntries_of_not_mem fresh
        rw [List.foldl_cons, ih, added, List.append_assoc, List.singleton_append]
        rw [added, List.map_append, List.append_assoc]
        exact nodup
  exact general empty nodup

/-- A map that is built anew with changed values holds the changed values. -/
theorem get?_ofPairs_map {μ : Type w} (map : OrderedMap κ ν) (image : ν → μ) (key : κ) :
    (ofPairs (map.entries.map fun entry => (entry.1, image entry.2))).get? key =
      (map.get? key).map image := by
  have nodup : ((map.entries.map fun entry => (entry.1, image entry.2)).map Prod.fst).Nodup := by
    rw [List.map_map]
    exact map.keys_nodup
  rw [get?, entries_ofPairs_of_nodup nodup, get?]
  generalize map.entries = entries
  induction entries with
  | nil => rfl
  | cons entry rest ih =>
      rcases entry with ⟨other, stored⟩
      by_cases same : key = other
      · subst same
        rw [List.map_cons, List.lookup_cons_self, List.lookup_cons_self, Option.map_some]
      · rw [List.map_cons, lookup_cons_of_ne _ _ same, lookup_cons_of_ne _ _ same, ih]

/-- What a built map holds was among the pairs. -/
theorem mem_of_get?_ofPairs {pairs : List (κ × ν)} {key : κ} {value : ν}
    (found : (ofPairs pairs).get? key = some value) : (key, value) ∈ pairs := by
  have general : ∀ map : OrderedMap κ ν,
      (pairs.foldl (fun map pair => map.set pair.1 pair.2) map).get? key = some value →
        (key, value) ∈ pairs ∨ map.get? key = some value := by
    clear found
    induction pairs with
    | nil => exact fun map found => Or.inr found
    | cons pair rest ih =>
        intro map found
        rcases ih _ found with member | earlier
        · exact Or.inl (List.mem_cons_of_mem _ member)
        · rw [get?_set] at earlier
          split at earlier
          · rename_i same
            injection earlier with equal
            rw [same, ← equal]
            exact Or.inl List.mem_cons_self
          · exact Or.inr earlier
  rcases general empty found with member | impossible
  · exact member
  · exact nomatch impossible

theorem get?_eq_some_iff_mem (map : OrderedMap κ ν) {key : κ} {value : ν} :
    map.get? key = some value ↔ (key, value) ∈ map.entries := by
  constructor
  · intro found
    rcases List.lookup_eq_some_iff.mp found with ⟨before, after, entries, _⟩
    rw [entries]
    exact List.mem_append_right _ List.mem_cons_self
  · exact fun member => map.get?_of_mem_entries member

/-! ## Grouping rows under their keys -/

/-- Replace what is stored under `key` by a function of what was stored. -/
def upsert (map : OrderedMap κ ν) (key : κ) (change : Option ν → ν) : OrderedMap κ ν :=
  map.set key (change (map.get? key))

/-- The entries whose key passes `keep`, in the same order. -/
def restrict (map : OrderedMap κ ν) (keep : κ → Bool) : OrderedMap κ ν where
  entries := map.entries.filter fun entry => keep entry.1
  keys_nodup := map.keys_nodup.sublist (List.filter_sublist.map Prod.fst)

/-- Fold rows into a map, each row changing the entry of its key. -/
def groupInto {ρ : Type w} (key : ρ → κ) (change : ρ → Option ν → ν) (map : OrderedMap κ ν)
    (rows : List ρ) : OrderedMap κ ν :=
  rows.foldl (fun map row => map.upsert (key row) (change row)) map

theorem get?_upsert (map : OrderedMap κ ν) (key query : κ) (change : Option ν → ν) :
    (map.upsert key change).get? query =
      if query = key then some (change (map.get? key)) else map.get? query := by
  rw [upsert, get?_set]

/-- The entry of a key is made of the rows of that key. -/
theorem get?_groupInto {ρ : Type w} (key : ρ → κ) (change : ρ → Option ν → ν)
    (map : OrderedMap κ ν) (rows : List ρ) (query : κ) :
    (groupInto key change map rows).get? query =
      (rows.filter fun row => key row = query).foldl (fun found row => some (change row found))
        (map.get? query) := by
  induction rows generalizing map with
  | nil => rfl
  | cons row rest ih =>
      rw [groupInto, List.foldl_cons]
      refine (ih (map.upsert (key row) (change row))).trans ?_
      rw [get?_upsert, List.filter_cons]
      by_cases same : key row = query
      · rw [if_pos same.symm, if_pos (decide_eq_true same), List.foldl_cons, same]
      · rw [if_neg (Ne.symm same), if_neg (by simpa using same)]

/-- Put a row behind those that are there. -/
def appendRow {α : Type v} (row : κ × α) (found : Option (List α)) : List α :=
  found.getD [] ++ [row.2]

omit [DecidableEq κ] in
theorem getD_foldl_appendRow {α : Type v} (rows : List (κ × α)) (found : Option (List α)) :
    (rows.foldl (fun found row => some (appendRow row found)) found).getD [] =
      found.getD [] ++ rows.map Prod.snd := by
  induction rows generalizing found with
  | nil => rw [List.foldl_nil, List.map_nil, List.append_nil]
  | cons row rest ih =>
      rw [List.foldl_cons, ih, Option.getD_some, appendRow, List.map_cons, List.append_assoc]
      rfl

/-- Rows that are put behind each other keep their order. -/
theorem getD_groupInto_appendRow {α : Type v} (rows : List (κ × α)) (query : κ) :
    ((groupInto Prod.fst appendRow empty rows).get? query).getD [] =
      (rows.filter fun row => row.1 = query).map Prod.snd := by
  rw [get?_groupInto, getD_foldl_appendRow]
  rfl

theorem get?_restrict (map : OrderedMap κ ν) {keep : κ → Bool} {key : κ} (kept : keep key) :
    (map.restrict keep).get? key = map.get? key := by
  obtain ⟨entries, nodup⟩ := map
  simp only [restrict, get?]
  clear nodup
  induction entries with
  | nil => rfl
  | cons entry rest ih =>
      obtain ⟨other, stored⟩ := entry
      by_cases same : key = other
      · subst same
        simp [kept]
      · rw [lookup_cons_of_ne _ _ same, ← ih, List.filter_cons]
        split
        · exact lookup_cons_of_ne _ _ same
        · rfl

theorem filter_setEntries (keep : κ → Bool) (key : κ) (value : ν) (entries : List (κ × ν)) :
    (setEntries key value entries).filter (fun entry => keep entry.1) =
      if keep key then setEntries key value (entries.filter fun entry => keep entry.1)
      else entries.filter fun entry => keep entry.1 := by
  induction entries with
  | nil => cases kept : keep key <;> simp [setEntries, kept]
  | cons entry rest ih =>
      obtain ⟨other, stored⟩ := entry
      by_cases same : other = key
      · subst same
        cases kept : keep other <;> simp [setEntries, kept]
      · cases kept : keep other <;> cases keyKept : keep key <;>
          simp [setEntries, same, kept, keyKept] at ih ⊢ <;> exact ih

theorem restrict_upsert (map : OrderedMap κ ν) (keep : κ → Bool) (key : κ)
    (change : Option ν → ν) :
    (map.upsert key change).restrict keep =
      if keep key then (map.restrict keep).upsert key change else map.restrict keep := by
  apply OrderedMap.ext
  have filtered := filter_setEntries keep key (change (map.get? key)) map.entries
  cases kept : keep key with
  | false => simpa [restrict, upsert, set, kept] using filtered
  | true =>
      rw [kept, if_pos rfl] at filtered
      simp only [upsert, get?_restrict map kept]
      exact filtered

/-- Grouping first and keeping some keys is grouping only the rows of those keys. -/
theorem restrict_groupInto {ρ : Type w} (keep : κ → Bool) (key : ρ → κ)
    (change : ρ → Option ν → ν) (map : OrderedMap κ ν) (rows : List ρ) :
    (groupInto key change map rows).restrict keep =
      groupInto key change (map.restrict keep) (rows.filter fun row => keep (key row)) := by
  induction rows generalizing map with
  | nil => rfl
  | cons row rest ih =>
      have step := ih (map.upsert (key row) (change row))
      rw [restrict_upsert] at step
      simp only [groupInto, List.foldl_cons] at step ⊢
      rw [step, List.filter_cons]
      split <;> rfl

/-! ## Weights of a map -/

/-- Setting a key replaces the weight of what was stored under it. -/
theorem sum_setEntries {β : Type w} [AddCommMonoid β] (weight : ν → β) (key : κ) (value : ν)
    (entries : List (κ × ν)) :
    ((setEntries key value entries).map fun entry => weight entry.2).sum +
        ((entries.lookup key).map weight).getD 0 =
      (entries.map fun entry => weight entry.2).sum + weight value := by
  induction entries with
  | nil => simp [setEntries]
  | cons entry rest ih =>
      rcases entry with ⟨other, stored⟩
      by_cases same : other = key
      · subst same
        simp [setEntries, List.lookup_cons_self, add_comm, add_left_comm]
      · rw [lookup_cons_of_ne _ _ (Ne.symm same)]
        simp only [setEntries, if_neg same, List.map_cons, List.sum_cons, add_assoc]
        rw [ih]

end OrderedMap

end Reputo.Library

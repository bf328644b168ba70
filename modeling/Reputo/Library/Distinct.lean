import Mathlib.Data.List.Nodup
import Mathlib.Data.List.Perm.Basic

/-!
# First occurrences

A list reduced to the first entry of every key, as a loop with a set of keys
seen so far computes it.
-/

namespace Reputo.Library

universe u v

variable {α : Type u} {κ : Type v} [DecidableEq κ]

/-- Entries whose key is new, given the keys seen before. -/
def distinctFrom (key : α → κ) (seen : List κ) : List α → List α
  | [] => []
  | entry :: rest =>
      if key entry ∈ seen then distinctFrom key seen rest
      else entry :: distinctFrom key (key entry :: seen) rest

/-- The first entry of every key, in order. -/
def distinctBy (key : α → κ) (entries : List α) : List α :=
  distinctFrom key [] entries

-- The equations are made here, once for all proofs below.
section
attribute [local simp] distinctFrom
end

theorem distinctFrom_sublist (key : α → κ) (seen : List κ) (entries : List α) :
    (distinctFrom key seen entries).Sublist entries := by
  induction entries generalizing seen with
  | nil => exact .slnil
  | cons entry rest ih =>
      simp only [distinctFrom]
      split
      · exact (ih seen).cons entry
      · exact (ih (key entry :: seen)).cons_cons entry

theorem distinctBy_sublist (key : α → κ) (entries : List α) :
    (distinctBy key entries).Sublist entries :=
  distinctFrom_sublist key [] entries

theorem mem_of_mem_distinctBy {key : α → κ} {entries : List α} {entry : α}
    (member : entry ∈ distinctBy key entries) : entry ∈ entries :=
  (distinctBy_sublist key entries).subset member

/-- A key is kept exactly when it occurs and was not seen before. -/
theorem mem_keys_distinctFrom {key : α → κ} {seen : List κ} {entries : List α} {query : κ} :
    query ∈ (distinctFrom key seen entries).map key ↔ query ∈ entries.map key ∧ query ∉ seen := by
  induction entries generalizing seen with
  | nil => simp [distinctFrom]
  | cons entry rest ih =>
      simp only [distinctFrom]
      split
      · rename_i known
        rw [ih, List.map_cons, List.mem_cons]
        constructor
        · intro ⟨member, fresh⟩
          exact ⟨Or.inr member, fresh⟩
        · intro ⟨member, fresh⟩
          rcases member with same | tailMember
          · exact absurd known (same ▸ fresh)
          · exact ⟨tailMember, fresh⟩
      · rename_i unknown
        rw [List.map_cons, List.mem_cons, ih, List.map_cons, List.mem_cons, List.mem_cons]
        constructor
        · intro kept
          rcases kept with same | ⟨member, fresh⟩
          · exact ⟨Or.inl same, same ▸ unknown⟩
          · exact ⟨Or.inr member, fun known => fresh (Or.inr known)⟩
        · intro ⟨member, fresh⟩
          by_cases same : query = key entry
          · exact Or.inl same
          · refine Or.inr ⟨member.resolve_left same, ?_⟩
            intro known
            exact known.elim same fresh

theorem mem_keys_distinctBy {key : α → κ} {entries : List α} {query : κ} :
    query ∈ (distinctBy key entries).map key ↔ query ∈ entries.map key := by
  simp [distinctBy, mem_keys_distinctFrom]

theorem mem_distinctBy_id {entries : List κ} {query : κ} :
    query ∈ distinctBy id entries ↔ query ∈ entries := by
  have kept : query ∈ (distinctBy id entries).map id ↔ query ∈ entries.map id :=
    mem_keys_distinctBy
  rw [List.map_id, List.map_id] at kept
  exact kept

theorem keys_distinctFrom_nodup (key : α → κ) (seen : List κ) (entries : List α) :
    ((distinctFrom key seen entries).map key).Nodup := by
  induction entries generalizing seen with
  | nil => exact List.nodup_nil
  | cons entry rest ih =>
      simp only [distinctFrom]
      split
      · exact ih seen
      · rw [List.map_cons, List.nodup_cons]
        refine ⟨?_, ih _⟩
        rw [mem_keys_distinctFrom]
        intro ⟨_, fresh⟩
        exact fresh List.mem_cons_self

/-- No key is kept twice. -/
theorem keys_distinctBy_nodup (key : α → κ) (entries : List α) :
    ((distinctBy key entries).map key).Nodup :=
  keys_distinctFrom_nodup key [] entries

/-- A list whose keys differ, also from those seen, is kept whole. -/
theorem distinctFrom_eq_self {key : α → κ} {seen : List κ} {entries : List α}
    (nodup : (entries.map key).Nodup) (fresh : ∀ entry ∈ entries, key entry ∉ seen) :
    distinctFrom key seen entries = entries := by
  induction entries generalizing seen with
  | nil => rfl
  | cons entry rest ih =>
      rcases List.nodup_cons.mp nodup with ⟨headFresh, restNodup⟩
      rw [distinctFrom, if_neg (fresh entry List.mem_cons_self), ih restNodup]
      intro other member known
      rcases List.mem_cons.mp known with same | old
      · exact headFresh (same ▸ List.mem_map_of_mem member)
      · exact fresh other (List.mem_cons_of_mem _ member) old

theorem distinctBy_eq_self {key : α → κ} {entries : List α} (nodup : (entries.map key).Nodup) :
    distinctBy key entries = entries :=
  distinctFrom_eq_self nodup fun _ _ known => nomatch known

/-- Reducing a mapped list is mapping the reduced one. -/
theorem distinctFrom_map {β : Type v} (key : β → κ) (image : α → β) (seen : List κ)
    (entries : List α) : distinctFrom key seen (entries.map image) =
      (distinctFrom (fun entry => key (image entry)) seen entries).map image := by
  induction entries generalizing seen with
  | nil => rfl
  | cons entry rest ih =>
      simp only [List.map_cons, distinctFrom]
      split
      · exact ih seen
      · rw [List.map_cons, ih]

theorem distinctBy_map {β : Type v} (key : β → κ) (image : α → β) (entries : List α) :
    distinctBy key (entries.map image) =
      (distinctBy (fun entry => key (image entry)) entries).map image :=
  distinctFrom_map key image [] entries

theorem mem_distinctFrom_iff {key : α → κ} {seen : List κ} {entries : List α} {entry : α} :
    entry ∈ distinctFrom key seen entries ↔
      key entry ∉ seen ∧ entries.find? (fun other => key other = key entry) = some entry := by
  induction entries generalizing seen with
  | nil => simp [distinctFrom]
  | cons first rest ih =>
      simp only [distinctFrom]
      cases Decidable.em (key first = key entry) with
      | inl same =>
          rw [List.find?_cons_of_pos (by simpa using same), Option.some.injEq]
          split
          · rename_i known
            rw [ih]
            constructor
            · intro ⟨fresh, _⟩
              exact absurd (same ▸ known) fresh
            · intro ⟨fresh, _⟩
              exact absurd (same ▸ known) fresh
          · rename_i unknown
            rw [List.mem_cons, ih]
            constructor
            · intro kept
              rcases kept with equal | ⟨fresh, _⟩
              · exact ⟨equal ▸ unknown, equal.symm⟩
              · exact absurd (List.mem_cons.mpr (Or.inl same.symm)) fresh
            · intro ⟨_, equal⟩
              exact Or.inl equal.symm
      | inr different =>
          rw [List.find?_cons_of_neg (by simpa using different)]
          split
          · exact ih
          · rw [List.mem_cons, ih, List.mem_cons]
            constructor
            · intro kept
              rcases kept with equal | ⟨fresh, found⟩
              · exact absurd (equal ▸ rfl) different
              · exact ⟨fun known => fresh (Or.inr known), found⟩
            · intro ⟨fresh, found⟩
              refine Or.inr ⟨?_, found⟩
              intro known
              rcases known with same | old
              · exact different same.symm
              · exact fresh old

/-- The entries that are kept are those found first under their key. -/
theorem mem_distinctBy_iff {key : α → κ} {entries : List α} {entry : α} :
    entry ∈ distinctBy key entries ↔
      entries.find? (fun other => key other = key entry) = some entry := by
  rw [distinctBy, mem_distinctFrom_iff]
  constructor
  · intro ⟨_, found⟩
    exact found
  · intro found
    exact ⟨List.not_mem_nil, found⟩

/-- Two lists keep the same entries exactly when they agree on the first entry of
every key. -/
theorem distinctBy_mem_congr {key : α → κ} {left right : List α} :
    (∀ entry, entry ∈ distinctBy key left ↔ entry ∈ distinctBy key right) ↔
      ∀ query, left.find? (fun entry => key entry = query) =
        right.find? (fun entry => key entry = query) := by
  constructor
  · intro same query
    apply Option.ext
    intro entry
    have keyOf : ∀ {entries : List α}, entries.find? (fun entry => key entry = query) = some entry →
        key entry = query := fun found => by simpa using List.find?_some found
    constructor
    · intro found
      have equal := keyOf found
      subst equal
      exact mem_distinctBy_iff.mp ((same entry).mp (mem_distinctBy_iff.mpr found))
    · intro found
      have equal := keyOf found
      subst equal
      exact mem_distinctBy_iff.mp ((same entry).mpr (mem_distinctBy_iff.mpr found))
  · intro same entry
    rw [mem_distinctBy_iff, mem_distinctBy_iff, same]

/-- Where keys differ, the entries of one key are the first of them. -/
theorem filter_eq_toList_find? {key : α → κ} {entries : List α}
    (nodup : (entries.map key).Nodup) (query : κ) :
    entries.filter (fun entry => key entry = query) =
      (entries.find? fun entry => key entry = query).toList := by
  induction entries with
  | nil => rfl
  | cons entry rest ih =>
      rcases List.nodup_cons.mp nodup with ⟨fresh, others⟩
      cases Decidable.em (key entry = query) with
      | inl same =>
          have none : rest.filter (fun other => key other = query) = [] := by
            apply List.filter_eq_nil_iff.mpr
            intro other member equal
            have equal : key other = query := by simpa using equal
            exact fresh (List.mem_map.mpr ⟨other, member, equal.trans same.symm⟩)
          rw [List.filter_cons_of_pos (by simpa using same),
            List.find?_cons_of_pos (by simpa using same), none]
          rfl
      | inr different =>
          rw [List.filter_cons_of_neg (by simpa using different),
            List.find?_cons_of_neg (by simpa using different), ih others]

omit [DecidableEq κ] in
theorem flatMap_ite_singleton (keep : α → Prop) [DecidablePred keep] (rows : List α) :
    (rows.flatMap fun row => if keep row then [row] else []) = rows.filter keep := by
  induction rows with
  | nil => rfl
  | cons row rest ih =>
      rw [List.flatMap_cons, List.filter_cons, ih]
      cases Decidable.em (keep row) with
      | inl kept => simp [kept]
      | inr skipped => simp [skipped]

/-- Taking every row as often as its key is asked for is answering every question. -/
theorem perm_flatMap_replicate {key : α → κ} {rows : List α} (nodup : (rows.map key).Nodup)
    (queries : List κ) :
    (rows.flatMap fun row => List.replicate (queries.count (key row)) row).Perm
      (queries.filterMap fun query => rows.find? fun row => key row = query) := by
  induction queries with
  | nil => simp
  | cons query rest ih =>
      have split : ∀ row, List.replicate ((query :: rest).count (key row)) row =
          (if key row = query then [row] else []) ++
            List.replicate (rest.count (key row)) row := by
        intro row
        rw [List.count_cons]
        cases Decidable.em (key row = query) with
        | inl same => simp [same, List.replicate_succ]
        | inr different => simp [different, Ne.symm different]
      have first : (rows.flatMap fun row => if key row = query then [row] else []) =
          (rows.find? fun row => key row = query).toList := by
        rw [← filter_eq_toList_find? nodup, flatMap_ite_singleton]
      simp only [split]
      refine (List.flatMap_append_perm ..).symm.trans ?_
      rw [first]
      cases found : rows.find? fun row => key row = query with
      | none =>
          simpa [List.filterMap_cons, found] using ih
      | some row =>
          simpa [List.filterMap_cons, found] using ih.cons row

/-- Where keys differ, an entry is the only one of its key. -/
theorem filter_key_of_mem {key : α → κ} {entries : List α} (nodup : (entries.map key).Nodup)
    {entry : α} (member : entry ∈ entries) :
    entries.filter (fun other => key other = key entry) = [entry] := by
  rw [filter_eq_toList_find? nodup]
  cases found : entries.find? fun other => key other = key entry with
  | none =>
      have missed := List.find?_eq_none.mp found entry member
      exact absurd (decide_eq_true rfl) missed
  | some other =>
      have keys : key other = key entry := by simpa using List.find?_some found
      rw [List.inj_on_of_nodup_map nodup (List.mem_of_find?_eq_some found) member keys]
      rfl

theorem perm_filter_or {first second : α → Bool} {rows : List α}
    (apart : ∀ row ∈ rows, first row = true → second row = false) :
    (rows.filter first ++ rows.filter second).Perm
      (rows.filter fun row => first row || second row) := by
  induction rows with
  | nil => exact .nil
  | cons row rest ih =>
      have later := ih fun other member => apart other (List.mem_cons_of_mem _ member)
      cases inFirst : first row with
      | true =>
          have notSecond := apart row List.mem_cons_self inFirst
          rw [List.filter_cons_of_pos inFirst, List.filter_cons_of_neg (by simp [notSecond]),
            List.filter_cons_of_pos (by simp [inFirst])]
          exact later.cons row
      | false =>
          rw [List.filter_cons_of_neg (by simp [inFirst])]
          cases inSecond : second row with
          | true =>
              rw [List.filter_cons_of_pos inSecond, List.filter_cons_of_pos (by simp [inSecond])]
              exact List.perm_middle.trans (later.cons row)
          | false =>
              rw [List.filter_cons_of_neg (by simp [inSecond]),
                List.filter_cons_of_neg (by simp [inFirst, inSecond])]
              exact later

/-- Rows that are taken group by group, with every group once, are taken once. -/
theorem perm_flatMap_filter (group : α → κ) (rows : List α) {groups : List κ}
    (nodup : groups.Nodup) :
    (groups.flatMap fun name => rows.filter fun row => group row = name).Perm
      (rows.filter fun row => group row ∈ groups) := by
  induction groups with
  | nil => simp
  | cons name rest ih =>
      rw [List.nodup_cons] at nodup
      rw [List.flatMap_cons]
      refine ((ih nodup.2).append_left _).trans ?_
      have apart : ∀ row ∈ rows, decide (group row = name) = true →
          decide (group row ∈ rest) = false := by
        intro row _ same
        rw [decide_eq_true_eq] at same
        exact decide_eq_false fun later => nodup.1 (same ▸ later)
      have joined := perm_filter_or apart
      simpa [List.mem_cons] using joined

/-- A search that cannot tell entries of one key apart finds the same entry in the
reduced list. -/
theorem find?_distinctFrom {key : α → κ} {accept : α → Bool} {seen : List κ} {entries : List α}
    (blind : ∀ left ∈ entries, ∀ right ∈ entries, key left = key right → accept left = accept right)
    (rejected : ∀ entry ∈ entries, key entry ∈ seen → accept entry = false) :
    (distinctFrom key seen entries).find? accept = entries.find? accept := by
  induction entries generalizing seen with
  | nil => rfl
  | cons entry rest ih =>
      have blindRest : ∀ left ∈ rest, ∀ right ∈ rest,
          key left = key right → accept left = accept right := by
        intro left leftMember right rightMember
        exact blind left (List.mem_cons_of_mem _ leftMember) right
          (List.mem_cons_of_mem _ rightMember)
      simp only [distinctFrom]
      split
      · rename_i known
        rw [List.find?_cons_of_neg (by simp [rejected entry List.mem_cons_self known])]
        exact ih blindRest fun other member old =>
          rejected other (List.mem_cons_of_mem _ member) old
      · cases accepted : accept entry with
        | true => rw [List.find?_cons_of_pos accepted, List.find?_cons_of_pos accepted]
        | false =>
            rw [List.find?_cons_of_neg (by simp [accepted]),
              List.find?_cons_of_neg (by simp [accepted])]
            apply ih blindRest
            intro other member old
            rcases List.mem_cons.mp old with same | earlier
            · rw [blind other (List.mem_cons_of_mem _ member) entry List.mem_cons_self same,
                accepted]
            · exact rejected other (List.mem_cons_of_mem _ member) earlier

theorem find?_distinctBy {key : α → κ} {accept : α → Bool} {entries : List α}
    (blind : ∀ left ∈ entries, ∀ right ∈ entries,
      key left = key right → accept left = accept right) :
    (distinctBy key entries).find? accept = entries.find? accept :=
  find?_distinctFrom blind fun _ _ known => absurd known List.not_mem_nil

end Reputo.Library

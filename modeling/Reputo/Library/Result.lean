import Mathlib.Data.List.Forall2

/-!
# Computations that may fail

Taking a successful run of a failing computation apart, step by step.
-/

namespace Reputo.Library.Result

universe u v w

variable {ε : Type u} {α : Type v} {β : Type v} {ρ : Type w}

/-- The value, or a failure where there is none. -/
def ofOption (failure : ε) : Option α → Except ε α
  | some value => .ok value
  | none => .error failure

attribute [local simp] ofOption Except.bind Except.map

theorem ofOption_eq_ok {failure : ε} {source : Option α} {value : α} :
    ofOption failure source = .ok value ↔ source = some value := by
  cases source <;> simp [ofOption]

/-- A sequence succeeds exactly when both steps do. -/
theorem bind_eq_ok {first : Except ε α} {next : α → Except ε β} {result : β} :
    (first >>= next) = .ok result ↔ ∃ value, first = .ok value ∧ next value = .ok result := by
  cases first <;> simp [bind, Except.bind]

theorem map_eq_ok {first : Except ε α} {convert : α → β} {result : β} :
    first.map convert = .ok result ↔ ∃ value, first = .ok value ∧ convert value = result := by
  cases first <;> simp [Except.map]

/-- A sequence fails with the failure of one of its steps. -/
theorem bind_eq_error {first : Except ε α} {next : α → Except ε β} {failure : ε} :
    (first >>= next) = .error failure ↔
      first = .error failure ∨ ∃ value, first = .ok value ∧ next value = .error failure := by
  cases first <;> simp [bind, Except.bind]

/-- A failing `mapM` fails with the failure of one of its entries. -/
theorem exists_of_mapM_eq_error {convert : ρ → Except ε β} {entries : List ρ} {failure : ε}
    (failed : entries.mapM convert = .error failure) :
    ∃ entry ∈ entries, convert entry = .error failure := by
  induction entries with
  | nil => cases failed
  | cons entry rest ih =>
      rw [List.mapM_cons, bind_eq_error] at failed
      rcases failed with head | ⟨first, _, later⟩
      · exact ⟨entry, List.mem_cons_self, head⟩
      · rcases bind_eq_error.1 later with tail | ⟨others, _, impossible⟩
        · rcases ih tail with ⟨source, member, found⟩
          exact ⟨source, List.mem_cons_of_mem _ member, found⟩
        · cases impossible

/-- A successful `mapM` converts entry by entry. -/
theorem mapM_eq_ok_iff {convert : ρ → Except ε β} {entries : List ρ} {results : List β} :
    entries.mapM convert = .ok results ↔
      List.Forall₂ (fun entry result => convert entry = .ok result) entries results := by
  induction entries generalizing results with
  | nil =>
      rw [List.forall₂_nil_left_iff]
      constructor
      · intro succeeded
        cases succeeded
        rfl
      · intro none
        subst none
        rfl
  | cons entry rest ih =>
      rw [List.mapM_cons, bind_eq_ok, List.forall₂_cons_left_iff]
      constructor
      · intro ⟨first, converted, succeeded⟩
        rcases bind_eq_ok.1 succeeded with ⟨others, tail, combined⟩
        cases combined
        exact ⟨first, others, converted, ih.mp tail, rfl⟩
      · intro ⟨first, others, converted, tail, combined⟩
        subst combined
        exact ⟨first, converted, bind_eq_ok.2 ⟨others, ih.mpr tail, rfl⟩⟩

/-- Every result of a successful `mapM` comes from an entry of the list. -/
theorem exists_of_mem_mapM {convert : ρ → Except ε β} {entries : List ρ} {results : List β}
    (succeeded : entries.mapM convert = .ok results) {result : β} (member : result ∈ results) :
    ∃ entry ∈ entries, convert entry = .ok result := by
  have pairs := mapM_eq_ok_iff.1 succeeded
  induction pairs with
  | nil => simp at member
  | @cons entry first rest others converted tail ih =>
      rcases List.mem_cons.mp member with same | tailMember
      · exact ⟨entry, List.mem_cons_self, same ▸ converted⟩
      · rcases ih (mapM_eq_ok_iff.2 tail) tailMember with ⟨source, sourceMember, found⟩
        exact ⟨source, List.mem_cons_of_mem _ sourceMember, found⟩

/-- Every entry of the list has a result in a successful `mapM`. -/
theorem exists_ok_of_mapM {convert : ρ → Except ε β} {entries : List ρ} {results : List β}
    (succeeded : entries.mapM convert = .ok results) {entry : ρ} (member : entry ∈ entries) :
    ∃ result, convert entry = .ok result := by
  have pairs := mapM_eq_ok_iff.1 succeeded
  clear succeeded
  induction pairs with
  | nil => cases member
  | cons converted _ ih =>
      rcases List.mem_cons.mp member with rfl | tailMember
      · exact ⟨_, converted⟩
      · exact ih tailMember

/-- Converting the results of a `mapM` one by one or all at the end. -/
theorem mapM_map_results {γ : Type v} {convert : ρ → Except ε β} (image : β → γ)
    (entries : List ρ) :
    (entries.mapM fun entry => (convert entry).map image) =
      (entries.mapM convert).map (List.map image) := by
  induction entries with
  | nil => rfl
  | cons entry rest ih =>
      rw [List.mapM_cons, List.mapM_cons, ih]
      cases convert entry with
      | error failure => rfl
      | ok first => cases rest.mapM convert <;> rfl

theorem length_of_mapM {convert : ρ → Except ε β} {entries : List ρ} {results : List β}
    (succeeded : entries.mapM convert = .ok results) : results.length = entries.length :=
  (mapM_eq_ok_iff.1 succeeded).length_eq.symm

theorem mapM_eq_ok_map {convert : ρ → Except ε β} {result : ρ → β} {entries : List ρ}
    (succeeds : ∀ entry ∈ entries, convert entry = .ok (result entry)) :
    entries.mapM convert = .ok (entries.map result) := by
  induction entries with
  | nil => rfl
  | cons entry rest ih =>
      rw [List.mapM_cons, succeeds entry List.mem_cons_self,
        ih fun other member => succeeds other (List.mem_cons_of_mem _ member)]
      rfl

end Reputo.Library.Result

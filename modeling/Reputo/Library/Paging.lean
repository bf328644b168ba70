import Mathlib.Data.List.Infix
import Mathlib.Data.List.Nodup

/-!
# Listings in pages

Pages of a listing are cut by position and counted from one.  When a row moves to the end of
the listing, all rows behind it come one position forward, and one of them may move onto a
page that was read already.
-/

namespace Reputo.Library

universe u v

variable {α : Type u} {κ : Type v}

/-- The rows from the start of a page on. -/
def fromPage (size number : Nat) (listing : List α) : List α :=
  listing.drop (size * (number - 1))

def pageOf (size number : Nat) (listing : List α) : List α :=
  (fromPage size number listing).take size

section Page

variable {size number : Nat} {listing : List α} {row : α}

theorem fromPage_one (size : Nat) (listing : List α) : fromPage size 1 listing = listing := by
  rw [fromPage, Nat.sub_self, Nat.mul_zero, List.drop_zero]

/-- Behind a page are the pages from the next one on. -/
theorem drop_fromPage (counted : 0 < number) :
    (fromPage size number listing).drop size = fromPage size (number + 1) listing := by
  rw [fromPage, fromPage, List.drop_drop, Nat.add_sub_cancel]
  congr 1
  cases number with
  | zero => cases counted
  | succ previous => rw [Nat.add_sub_cancel, Nat.mul_succ]

theorem mem_fromPage_iff (counted : 0 < number) :
    row ∈ fromPage size number listing ↔
      row ∈ pageOf size number listing ∨ row ∈ fromPage size (number + 1) listing := by
  rw [← drop_fromPage counted, pageOf, ← List.mem_append, List.take_append_drop]

/-- A short page is the last one. -/
theorem pageOf_eq_fromPage (short : (pageOf size number listing).length < size) :
    pageOf size number listing = fromPage size number listing := by
  rw [pageOf, List.length_take] at short
  rw [pageOf, List.take_of_length_le]
  omega

/-- As many rows as there are on full pages are in the listing. -/
theorem le_length_of_full (positive : 0 < size) (counted : 0 < number)
    (full : ¬(pageOf size number listing).length < size) : number ≤ listing.length := by
  rw [pageOf, List.length_take, fromPage, List.length_drop] at full
  have rows : size * (number - 1) + size ≤ listing.length := by omega
  have least : number - 1 ≤ size * (number - 1) := Nat.le_mul_of_pos_left _ positive
  omega

theorem mem_of_mem_fromPage (member : row ∈ fromPage size number listing) : row ∈ listing :=
  List.mem_of_mem_drop member

theorem mem_fromPage_of_mem_pageOf (member : row ∈ pageOf size number listing) :
    row ∈ fromPage size number listing :=
  List.mem_of_mem_take member

/-- No row comes forward when others are added. -/
theorem mem_fromPage_of_sublist {others : List α} (more : List.Sublist listing others)
    (member : row ∈ fromPage size number listing) : row ∈ fromPage size number others :=
  (more.drop _).subset member

/-- Where rows are only added at the end, a row of a page is still on it, and a short page
shows all that follows. -/
theorem mem_pageOf_or_later {others : List α} (more : listing <+: others) (counted : 0 < number)
    (member : row ∈ fromPage size number listing) :
    row ∈ pageOf size number others ∨
      (¬(pageOf size number others).length < size ∧
        row ∈ fromPage size (number + 1) listing) := by
  have there := mem_fromPage_of_sublist more.sublist member
  have ahead : fromPage size number listing <+: fromPage size number others := by
    rcases more with ⟨rest, whole⟩
    rw [fromPage, fromPage, ← whole, List.drop_append]
    exact List.prefix_append _ _
  rcases (mem_fromPage_iff counted).mp member with here | later
  · left
    exact (ahead.take _).subset here
  · by_cases short : (pageOf size number others).length < size
    · left
      rw [pageOf_eq_fromPage short]
      exact there
    · exact Or.inr ⟨short, later⟩

theorem map_pageOf (key : α → κ) :
    (pageOf size number listing).map key = pageOf size number (listing.map key) := by
  rw [pageOf, pageOf, fromPage, fromPage, List.map_take, List.map_drop]

/-- A key that is listed from a page on is on the page, or on later ones. -/
theorem key_mem_pageOf_or_later (key : α → κ) {listed : κ} (counted : 0 < number)
    (member : listed ∈ fromPage size number (listing.map key)) :
    listed ∈ (pageOf size number listing).map key ∨
      (¬(pageOf size number listing).length < size ∧
        listed ∈ fromPage size (number + 1) (listing.map key)) := by
  have found := mem_pageOf_or_later List.prefix_rfl counted member
  rw [← map_pageOf, List.length_map] at found
  exact found

end Page

/-! ## Rows that change -/

/-- Rows that keep their keys and stay listed leave the keys of the listing in order. -/
theorem keys_sublist_of_map {key : α → κ} {listed : α → Bool} {change : α → α} {rows : List α}
    (keeps : ∀ row ∈ rows, key (change row) = key row)
    (stays : ∀ row ∈ rows, listed row = true → listed (change row) = true) :
    List.Sublist ((rows.filter listed).map key) (((rows.map change).filter listed).map key) := by
  induction rows with
  | nil => exact List.Sublist.refl _
  | cons row rest ih =>
      have others := ih (fun row member => keeps row (List.mem_cons_of_mem _ member))
        (fun row member => stays row (List.mem_cons_of_mem _ member))
      have sameKey := keeps row List.mem_cons_self
      by_cases shown : listed row = true
      · rw [List.map_cons, List.filter_cons_of_pos shown,
          List.filter_cons_of_pos (stays row List.mem_cons_self shown), List.map_cons,
          List.map_cons, sameKey]
        exact others.cons_cons _
      · rw [List.map_cons, List.filter_cons_of_neg shown, List.filter_cons]
        split
        · rw [List.map_cons]
          exact others.cons _
        · exact others

/-- What is behind a position stays behind it when another key moves to the end, unless that
one was before the position and this one stood right at it. -/
theorem mem_drop_moveToEnd [DecidableEq κ] {keys : List κ} {position : Nat} {key moved : κ}
    (nodup : keys.Nodup) (member : key ∈ keys.drop position)
    (spared : moved ∈ keys.take position → keys[position]? ≠ some key) :
    key ∈ (keys.filter (· ≠ moved) ++ [moved]).drop position := by
  have inside : position < keys.length := by
    have nonempty := List.length_pos_of_mem member
    rw [List.length_drop] at nonempty
    omega
  have taken : (keys.take position).length = position := by
    rw [List.length_take]
    omega
  have split : keys.filter (· ≠ moved) =
      (keys.take position).filter (· ≠ moved) ++ (keys.drop position).filter (· ≠ moved) := by
    rw [← List.filter_append, List.take_append_drop]
  have apart : (keys.take position ++ keys.drop position).Nodup := by
    rw [List.take_append_drop]
    exact nodup
  rw [List.nodup_append] at apart
  by_cases before : moved ∈ keys.take position
  · -- the keys behind come one position forward
    have erased : ((keys.take position).filter (· ≠ moved)).length = position - 1 := by
      have others : (keys.take position).filter (· ≠ moved) = (keys.take position).erase moved := by
        rw [apart.1.erase_eq_filter]
        exact List.filter_congr fun other _ => by rw [bne, beq_eq_decide, decide_not]
      rw [others, List.length_erase_of_mem before, taken]
    have rest : (keys.drop position).filter (· ≠ moved) = keys.drop position := by
      rw [List.filter_eq_self]
      intro other otherMember
      rw [decide_eq_true_iff]
      exact fun same => apart.2.2 moved before other otherMember same.symm
    have positive : 0 < position := by
      rw [← taken]
      exact List.length_pos_of_mem before
    have head : keys.drop position = keys[position] :: keys.drop (position + 1) :=
      List.drop_eq_getElem_cons inside
    rw [split, rest, List.append_assoc, List.drop_append, erased,
      List.drop_of_length_le (by omega), List.nil_append,
      show position - (position - 1) = 1 by omega, head, List.cons_append, List.drop_one,
      List.tail_cons]
    rw [head] at member
    rcases List.mem_cons.mp member with same | later
    · refine absurd ?_ (spared before)
      rw [List.getElem?_eq_getElem inside, same]
    · exact List.mem_append_left _ later
  · have kept : (keys.take position).filter (· ≠ moved) = keys.take position := by
      rw [List.filter_eq_self]
      intro other otherMember
      rw [decide_eq_true_iff]
      exact fun same => before (same ▸ otherMember)
    rw [split, kept, List.append_assoc, List.drop_append, taken, Nat.sub_self, List.drop_zero,
      List.drop_of_length_le (Nat.le_of_eq taken), List.nil_append]
    by_cases same : key = moved
    · rw [same]
      exact List.mem_append_right _ (List.mem_singleton_self _)
    · apply List.mem_append_left
      rw [List.mem_filter, decide_eq_true_iff]
      exact ⟨member, same⟩

end Reputo.Library

import Mathlib.Data.List.Induction
import Reputo.Library.Fifo

/-!
# Labelled accounts that share one queue

Several labelled groups of events are replayed one after another on a single
queue.  Spending drains the front portion whatever its label, so a later group
may drain what an earlier one left.  The main result says exactly when it does
not: when every group that leaves something behind is followed only by groups
that never spend.
-/

namespace Reputo.Library.Fifo

universe u v w

variable {L : Type u} {α : Type v} {ρ : Type w}

/-- A label of portions that replacing the amount keeps. -/
structure Labelling (portion : Portion L α) (ρ : Type w) where
  label : L → ρ
  label_withAmount : ∀ (item : L) (value : α),
    label (portion.withAmount item value) = label item

/-- The events of one label, in order. -/
abbrev Group (L : Type u) (α : Type v) (ρ : Type w) := ρ × List (Action L α)

/-- All groups replayed in order on one queue. -/
def Portion.shared [AddCommGroup α] [LinearOrder α] (portion : Portion L α)
    (groups : List (Group L α ρ)) : List L :=
  portion.run [] (groups.flatMap Prod.snd)

namespace Labelling

section Labels

variable [AddCommGroup α] [LinearOrder α]
variable {portion : Portion L α} (labelling : Labelling portion ρ)

/-- Groups of positive events that only receive portions of their own label. -/
structure WellLabelled (groups : List (Group L α ρ)) : Prop where
  labels_nodup : (groups.map Prod.fst).Nodup
  moves : ∀ group ∈ groups, portion.Moves group.2
  own : ∀ group ∈ groups, ∀ item, .receive item ∈ group.2 → labelling.label item = group.1

variable {labelling}

theorem label_mem_consume (labelling : Labelling portion ρ) {queue : List L} {remaining : α} {item : L}
    (member : item ∈ portion.consume queue remaining) :
    ∃ source ∈ queue, labelling.label source = labelling.label item := by
  induction queue generalizing remaining with
  | nil => simp [Portion.consume] at member
  | cons head rest ih =>
      simp only [Portion.consume] at member
      split at member
      · exact ⟨item, member, rfl⟩
      · split at member
        · obtain ⟨source, sourceMember, same⟩ := ih member
          exact ⟨source, List.mem_cons_of_mem _ sourceMember, same⟩
        · rcases List.mem_cons.mp member with rfl | tailMember
          · exact ⟨head, List.mem_cons_self, (labelling.label_withAmount _ _).symm⟩
          · exact ⟨item, List.mem_cons_of_mem _ tailMember, rfl⟩

/-- Every label in the queue was there before or was received. -/
theorem label_mem_run (labelling : Labelling portion ρ) {queue : List L} {actions : List (Action L α)} {item : L}
    (member : item ∈ portion.run queue actions) :
    (∃ source ∈ queue, labelling.label source = labelling.label item) ∨
      ∃ source, .receive source ∈ actions ∧ labelling.label source = labelling.label item := by
  induction actions generalizing queue with
  | nil => exact Or.inl ⟨item, member, rfl⟩
  | cons action rest ih =>
      rcases ih member with ⟨source, sourceMember, same⟩ | ⟨source, sourceMember, same⟩
      · cases action with
        | receive received =>
            rcases List.mem_append.mp sourceMember with old | new
            · exact Or.inl ⟨source, old, same⟩
            · refine Or.inr ⟨received, List.mem_cons_self, ?_⟩
              rw [← List.mem_singleton.mp new, same]
        | spend amount =>
            obtain ⟨first, firstMember, firstSame⟩ :=
              labelling.label_mem_consume sourceMember
            exact Or.inl ⟨first, firstMember, firstSame.trans same⟩
      · exact Or.inr ⟨source, List.mem_cons_of_mem _ sourceMember, same⟩

theorem moves_flatMap {groups : List (Group L α ρ)}
    (moves : ∀ group ∈ groups, portion.Moves group.2) :
    portion.Moves (groups.flatMap Prod.snd) := by
  intro action member
  obtain ⟨group, groupMember, actionMember⟩ := List.mem_flatMap.mp member
  exact moves group groupMember action actionMember

theorem shared_append (groups : List (Group L α ρ)) (group : Group L α ρ) :
    portion.shared (groups ++ [group]) = portion.run (portion.shared groups) group.2 := by
  simp [Portion.shared, portion.run_append]

theorem WellLabelled.init {groups : List (Group L α ρ)} {group : Group L α ρ}
    (well : labelling.WellLabelled (groups ++ [group])) : labelling.WellLabelled groups where
  labels_nodup := by
    have nodup := well.labels_nodup
    rw [List.map_append] at nodup
    exact nodup.of_append_left
  moves item member := well.moves item (List.mem_append_left _ member)
  own item member := well.own item (List.mem_append_left _ member)

/-- Everything in the shared queue carries the label of some group. -/
theorem WellLabelled.label_mem_shared {groups : List (Group L α ρ)}
    (well : labelling.WellLabelled groups) {item : L}
    (member : item ∈ portion.shared groups) :
    labelling.label item ∈ groups.map Prod.fst := by
  rcases labelling.label_mem_run member with
    ⟨source, sourceMember, _⟩ | ⟨source, sourceMember, same⟩
  · simp at sourceMember
  · obtain ⟨group, groupMember, received⟩ := List.mem_flatMap.mp sourceMember
    rw [← same, well.own group groupMember source received]
    exact List.mem_map_of_mem groupMember

end Labels

section Selection

variable [AddCommGroup α] [DecidableEq ρ]
variable {portion : Portion L α} (labelling : Labelling portion ρ)

/-- Portions of one label, in queue order. -/
def select (label : ρ) (queue : List L) : List L :=
  queue.filter fun item => labelling.label item = label

variable {labelling}

/-- What a set of labels holds is the sum of what each of them holds. -/
theorem total_filter_mem {labels : List ρ} (nodup : labels.Nodup) (queue : List L) :
    portion.total (queue.filter fun item => labelling.label item ∈ labels) =
      (labels.map fun label => portion.total (labelling.select label queue)).sum := by
  induction labels with
  | nil => simp
  | cons label rest ih =>
      obtain ⟨fresh, restNodup⟩ := List.nodup_cons.mp nodup
      rw [List.map_cons, List.sum_cons, ← ih restNodup]
      clear ih
      induction queue with
      | nil => simp [select]
      | cons head tail tailIH =>
          simp only [select, List.mem_cons, Bool.decide_or] at tailIH ⊢
          by_cases same : labelling.label head = label
          · have absent : labelling.label head ∉ rest := same ▸ fresh
            simp [same, fresh, tailIH, add_assoc]
          · by_cases member : labelling.label head ∈ rest
            · simp [same, member, tailIH, add_left_comm]
            · simp [same, member, tailIH]

variable (labelling) [LinearOrder α]

/-- Every label ends with the portions its own events alone would leave. -/
def Isolated (groups : List (Group L α ρ)) : Prop :=
  ∀ group ∈ groups, labelling.select group.1 (portion.shared groups) = portion.run [] group.2

/-- An earlier group leaves nothing behind or a later group never spends. -/
def Undisturbed (portion : Portion L α) (earlier later : Group L α ρ) : Prop :=
  0 < portion.balance 0 earlier.2 → ¬ Portion.Spends later.2

variable {labelling}

/-- A group's own events leave only portions of its label. -/
theorem WellLabelled.select_run {groups : List (Group L α ρ)}
    (well : labelling.WellLabelled groups) {group : Group L α ρ} (member : group ∈ groups)
    (label : ρ) : labelling.select label (portion.run [] group.2) =
      if label = group.1 then portion.run [] group.2 else [] := by
  have labels : ∀ item ∈ portion.run [] group.2, labelling.label item = group.1 := by
    intro item itemMember
    rcases labelling.label_mem_run itemMember with
      ⟨source, sourceMember, _⟩ | ⟨source, received, same⟩
    · simp at sourceMember
    · rw [← same]
      exact well.own group member source received
  split
  · rename_i equal
    apply List.filter_eq_self.mpr
    intro item itemMember
    simp [labels item itemMember, equal]
  · rename_i different
    apply List.filter_eq_nil_iff.mpr
    intro item itemMember
    simp [labels item itemMember, Ne.symm different]

/-- A last group without spends leaves the other labels as they were. -/
theorem WellLabelled.select_shared_of_quiet {groups : List (Group L α ρ)} {last : Group L α ρ}
    (well : labelling.WellLabelled (groups ++ [last])) (quiet : ¬ Portion.Spends last.2)
    {group : Group L α ρ} (member : group ∈ groups) :
    labelling.select group.1 (portion.shared (groups ++ [last])) =
      labelling.select group.1 (portion.shared groups) := by
  rw [shared_append, portion.run_of_not_spends _ quiet, select, List.filter_append]
  have different : last.1 ≠ group.1 := by
    have nodup := well.labels_nodup
    rw [List.map_append, List.map_singleton, List.nodup_append] at nodup
    exact (nodup.2.2 _ (List.mem_map_of_mem member) _ (by simp)).symm
  have foreign := well.select_run (List.mem_append_right _ (List.mem_singleton_self last)) group.1
  rw [if_neg (Ne.symm different), portion.run_of_not_spends _ quiet, List.nil_append] at foreign
  rw [select] at foreign ⊢
  rw [foreign, List.append_nil]

end Selection

section Ordered

variable [AddCommGroup α] [LinearOrder α] [IsOrderedAddMonoid α]
variable {portion : Portion L α} {labelling : Labelling portion ρ}

theorem run_empty_positive {actions : List (Action L α)} (moves : portion.Moves actions) :
    portion.Positive (portion.run [] actions) :=
  Portion.Positive.run portion (by intro item member; simp at member) moves

theorem total_run_empty {actions : List (Action L α)} (moves : portion.Moves actions) :
    portion.total (portion.run [] actions) = portion.balance 0 actions :=
  portion.total_run (by intro item member; simp at member) moves

/-- Sharing never holds more than the groups hold apart. -/
theorem balance_flatMap_le {groups : List (Group L α ρ)}
    (moves : ∀ group ∈ groups, portion.Moves group.2) :
    portion.balance 0 (groups.flatMap Prod.snd) ≤
      (groups.map fun group => portion.balance 0 group.2).sum := by
  induction groups using List.reverseRecOn with
  | nil => simp
  | append_singleton groups group ih =>
      have earlierMoves : ∀ item ∈ groups, portion.Moves item.2 :=
        fun item member => moves item (List.mem_append_left _ member)
      have nonneg : 0 ≤ portion.balance 0 (groups.flatMap Prod.snd) := by
        rw [← total_run_empty (moves_flatMap earlierMoves)]
        exact (run_empty_positive (moves_flatMap earlierMoves)).total_nonneg
      have raised := portion.balance_add_le 0 _ nonneg group.2
      rw [zero_add] at raised
      simp only [List.flatMap_append, List.flatMap_singleton, portion.balance_append,
        List.map_append, List.map_singleton, List.sum_append, List.sum_singleton]
      calc
        portion.balance (portion.balance 0 (groups.flatMap Prod.snd)) group.2
            ≤ portion.balance 0 group.2 + portion.balance 0 (groups.flatMap Prod.snd) := raised
        _ ≤ portion.balance 0 group.2 + (groups.map fun item => portion.balance 0 item.2).sum :=
            add_le_add_right (ih earlierMoves) _
        _ = _ := add_comm _ _

variable [DecidableEq ρ]

/-- A spending last group takes from what the earlier groups left, so some
earlier label ends below what its own events leave. -/
theorem WellLabelled.not_isolated_of_spends {groups : List (Group L α ρ)} {last : Group L α ρ}
    (well : labelling.WellLabelled (groups ++ [last])) (spends : Portion.Spends last.2)
    (nonempty : portion.shared groups ≠ []) : ¬ labelling.Isolated (groups ++ [last]) := by
  intro isolated
  obtain ⟨head, rest, split⟩ := List.exists_cons_of_ne_nil nonempty
  have earlier := well.init
  have labels_nodup := earlier.labels_nodup
  have lastMember : last ∈ groups ++ [last] := by simp
  let mine : L → Bool := fun item => labelling.label item ∈ groups.map Prod.fst
  have marked : ∀ (item : L) (value : α), mine (portion.withAmount item value) = mine item := by
    intro item value
    simp only [mine, labelling.label_withAmount]
  have foreign : ∀ item, .receive item ∈ last.2 → mine item = false := by
    intro item received
    have nodup := well.labels_nodup
    rw [List.map_append, List.map_singleton, List.nodup_append] at nodup
    have label := well.own last lastMember item received
    simp only [mine, label, decide_eq_false_iff_not]
    intro member
    exact nodup.2.2 _ member _ (List.mem_singleton_self _) rfl
  have positive : portion.Positive (head :: rest) :=
    split ▸ run_empty_positive (moves_flatMap earlier.moves)
  have ownAll : ∀ item ∈ head :: rest, mine item = true := by
    intro item member
    simpa [mine] using earlier.label_mem_shared (split ▸ member)
  have drained := portion.total_filter_run_lt mine marked positive
    (ownAll head List.mem_cons_self) (well.moves last lastMember) foreign spends
  rw [List.filter_eq_self.mpr ownAll, ← split, ← shared_append, total_filter_mem labels_nodup,
    List.map_map] at drained
  have held : ∀ group ∈ groups,
      portion.total (labelling.select group.1 (portion.shared (groups ++ [last]))) =
        portion.balance 0 group.2 := by
    intro group member
    rw [isolated group (List.mem_append_left _ member), total_run_empty (earlier.moves group member)]
  have apart : (groups.map ((fun label =>
        portion.total (labelling.select label (portion.shared (groups ++ [last])))) ∘
        Prod.fst)).sum = (groups.map fun group => portion.balance 0 group.2).sum := by
    congr 1
    exact List.map_congr_left held
  rw [apart, Portion.shared, total_run_empty (moves_flatMap earlier.moves)] at drained
  exact absurd (balance_flatMap_le earlier.moves) (not_le.mpr drained)

/-- Adding one group keeps isolation exactly when the group does not spend
while an earlier group left something behind. -/
theorem isolated_append_iff {groups : List (Group L α ρ)} {last : Group L α ρ}
    (well : labelling.WellLabelled (groups ++ [last])) :
    labelling.Isolated (groups ++ [last]) ↔
      labelling.Isolated groups ∧ ∀ group ∈ groups, Undisturbed portion group last := by
  have earlier := well.init
  have lastMember : last ∈ groups ++ [last] := by simp
  by_cases spends : Portion.Spends last.2
  · by_cases empty : portion.shared groups = []
    · have emptied : portion.shared (groups ++ [last]) = portion.run [] last.2 := by
        rw [shared_append, empty]
      have selected : ∀ group ∈ groups,
          labelling.select group.1 (portion.shared (groups ++ [last])) = [] := by
        intro group member
        have different : group.1 ≠ last.1 := by
          have nodup := well.labels_nodup
          rw [List.map_append, List.map_singleton, List.nodup_append] at nodup
          exact nodup.2.2 _ (List.mem_map_of_mem member) _ (by simp)
        rw [emptied, well.select_run lastMember, if_neg different]
      constructor
      · intro isolated
        have gone : ∀ group ∈ groups, portion.run [] group.2 = [] := fun group member =>
          (isolated group (List.mem_append_left _ member)).symm.trans (selected group member)
        refine ⟨fun group member => ?_, fun group member held => ?_⟩
        · rw [empty, gone group member]
          rfl
        · rw [← total_run_empty (earlier.moves group member), gone group member] at held
          exact absurd held (lt_irrefl _)
      · rintro ⟨isolated, _⟩ group member
        rcases List.mem_append.mp member with old | new
        · rw [selected group old, ← isolated group old, empty]
          rfl
        · rw [List.mem_singleton.mp new, emptied, well.select_run lastMember, if_pos rfl]
    · constructor
      · intro isolated
        exact absurd isolated (well.not_isolated_of_spends spends empty)
      · rintro ⟨isolated, undisturbed⟩
        -- Some group left the front portion, so its balance is positive.
        obtain ⟨head, rest, split⟩ := List.exists_cons_of_ne_nil empty
        have headMember : head ∈ portion.shared groups := split ▸ List.mem_cons_self
        obtain ⟨group, groupMember, label⟩ :=
          List.mem_map.mp (earlier.label_mem_shared headMember)
        have selected : head ∈ portion.run [] group.2 := by
          rw [← isolated group groupMember, select, List.mem_filter]
          exact ⟨headMember, by simp [label]⟩
        have positive := run_empty_positive (earlier.moves group groupMember)
        have held : 0 < portion.balance 0 group.2 := by
          rw [← total_run_empty (earlier.moves group groupMember)]
          refine lt_of_le_of_ne positive.total_nonneg (Ne.symm ?_)
          rw [Ne, positive.total_eq_zero_iff]
          exact List.ne_nil_of_mem selected
        exact absurd spends (undisturbed group groupMember held)
  · constructor
    · intro isolated
      refine ⟨fun group member => ?_, fun group member _ => spends⟩
      rw [← well.select_shared_of_quiet spends member]
      exact isolated group (List.mem_append_left _ member)
    · rintro ⟨isolated, _⟩ group member
      rcases List.mem_append.mp member with old | new
      · rw [well.select_shared_of_quiet spends old]
        exact isolated group old
      · rw [List.mem_singleton.mp new, shared_append, portion.run_of_not_spends _ spends, select,
          List.filter_append]
        have own := well.select_run lastMember last.1
        rw [if_pos rfl, portion.run_of_not_spends _ spends, List.nil_append] at own
        have absent : (portion.shared groups).filter
            (fun item => labelling.label item = last.1) = [] := by
          apply List.filter_eq_nil_iff.mpr
          intro item itemMember
          have nodup := well.labels_nodup
          rw [List.map_append, List.map_singleton, List.nodup_append] at nodup
          simpa using nodup.2.2 _ (earlier.label_mem_shared itemMember) _ (by simp)
        rw [select] at own
        rw [absent, own, portion.run_of_not_spends _ spends]

/-- Groups that share one queue are isolated exactly when each one that leaves
something behind is followed only by groups that never spend. -/
theorem isolated_iff {groups : List (Group L α ρ)} (well : labelling.WellLabelled groups) :
    labelling.Isolated groups ↔ groups.Pairwise (Undisturbed portion) := by
  induction groups using List.reverseRecOn with
  | nil => simp [Isolated]
  | append_singleton groups last ih =>
      rw [isolated_append_iff well, ih well.init, List.pairwise_append]
      simp

end Ordered

end Labelling

end Reputo.Library.Fifo

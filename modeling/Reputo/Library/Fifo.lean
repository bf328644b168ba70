import Mathlib.Algebra.Order.BigOperators.Group.List
import Mathlib.Algebra.Order.Group.Defs
import Mathlib.Algebra.Order.Group.MinMax
import Mathlib.Data.List.Nodup
import Mathlib.Tactic.Abel

/-!
# First-in first-out accounts

An account is a queue of portions, each with an amount.  Receiving appends a
portion; spending drains portions from the front and stops when the queue is
empty.  The module relates such an account to a single saturating balance and
decides when several labelled accounts may share one queue without one label
being drained by the spending of another.
-/

namespace Reputo.Library.Fifo

universe u v w

/-- How to read and replace the amount of a portion. -/
structure Portion (L : Type u) (α : Type v) where
  amount : L → α
  withAmount : L → α → L
  amount_withAmount : ∀ (portion : L) (value : α),
    amount (withAmount portion value) = value

/-- What one event does to an account. -/
inductive Action (L : Type u) (α : Type v) where
  | receive (portion : L)
  | spend (amount : α)

variable {L : Type u} {α : Type v} [AddCommGroup α]

namespace Portion

/-- Sum of the amounts in the queue. -/
def total (portion : Portion L α) (queue : List L) : α := (queue.map portion.amount).sum

@[simp] theorem total_nil (portion : Portion L α) : portion.total [] = 0 := rfl

@[simp] theorem total_cons (portion : Portion L α) (head : L) (rest : List L) :
    portion.total (head :: rest) = portion.amount head + portion.total rest := by
  simp [total]

theorem total_append (portion : Portion L α) (left right : List L) :
    portion.total (left ++ right) = portion.total left + portion.total right := by
  simp [total]

variable [LinearOrder α]

/-- Drain `remaining` from the front of the queue. -/
def consume (portion : Portion L α) : List L → α → List L
  | [], _ => []
  | head :: rest, remaining =>
      if remaining ≤ 0 then head :: rest
      else if portion.amount head ≤ remaining then
        portion.consume rest (remaining - portion.amount head)
      else portion.withAmount head (portion.amount head - remaining) :: rest

/-- The account after one event. -/
def act (portion : Portion L α) (queue : List L) : Action L α → List L
  | .receive received => queue ++ [received]
  | .spend amount => portion.consume queue amount

/-- The account after a list of events. -/
def run (portion : Portion L α) (queue : List L) (actions : List (Action L α)) : List L :=
  actions.foldl portion.act queue

/-- The saturating balance: what the account holds when portions are not told
apart. -/
def settle (portion : Portion L α) (held : α) : Action L α → α
  | .receive received => held + portion.amount received
  | .spend amount => max 0 (held - amount)

/-- The saturating balance after a list of events. -/
def balance (portion : Portion L α) (held : α) (actions : List (Action L α)) : α :=
  actions.foldl portion.settle held

/-- Every portion of the queue has a positive amount. -/
def Positive (portion : Portion L α) (queue : List L) : Prop :=
  ∀ item ∈ queue, 0 < portion.amount item

/-- Events that move a positive amount. -/
def Moves (portion : Portion L α) (actions : List (Action L α)) : Prop :=
  ∀ action ∈ actions, match action with
    | .receive received => 0 < portion.amount received
    | .spend amount => 0 < amount

/-- Portions received by the events, in order. -/
def received : List (Action L α) → List L
  | [] => []
  | .receive portion :: rest => portion :: received rest
  | .spend _ :: rest => received rest

/-- Whether some event spends. -/
def Spends (actions : List (Action L α)) : Prop := ∃ amount, .spend amount ∈ actions

variable (portion : Portion L α)

@[simp] theorem run_nil (queue : List L) : portion.run queue [] = queue := rfl

@[simp] theorem run_cons (queue : List L) (action : Action L α) (rest : List (Action L α)) :
    portion.run queue (action :: rest) = portion.run (portion.act queue action) rest := rfl

theorem run_append (queue : List L) (first second : List (Action L α)) :
    portion.run queue (first ++ second) = portion.run (portion.run queue first) second := by
  simp [run, List.foldl_append]

@[simp] theorem balance_nil (held : α) : portion.balance held [] = held := rfl

@[simp] theorem balance_cons (held : α) (action : Action L α) (rest : List (Action L α)) :
    portion.balance held (action :: rest) = portion.balance (portion.settle held action) rest :=
  rfl

theorem balance_append (held : α) (first second : List (Action L α)) :
    portion.balance held (first ++ second) =
      portion.balance (portion.balance held first) second := by
  simp [balance, List.foldl_append]

theorem Positive.tail {head : L} {rest : List L}
    (positive : portion.Positive (head :: rest)) : portion.Positive rest :=
  fun item member => positive item (List.mem_cons_of_mem _ member)

theorem Moves.tail {action : Action L α} {rest : List (Action L α)}
    (moves : portion.Moves (action :: rest)) : portion.Moves rest :=
  fun item member => moves item (List.mem_cons_of_mem _ member)

theorem Moves.left {first second : List (Action L α)}
    (moves : portion.Moves (first ++ second)) : portion.Moves first :=
  fun item member => moves item (List.mem_append_left _ member)

theorem Moves.right {first second : List (Action L α)}
    (moves : portion.Moves (first ++ second)) : portion.Moves second :=
  fun item member => moves item (List.mem_append_right _ member)

/-- Events without a spend only append what they receive. -/
theorem run_of_not_spends (queue : List L) {actions : List (Action L α)}
    (quiet : ¬ Spends actions) : portion.run queue actions = queue ++ received actions := by
  induction actions generalizing queue with
  | nil => simp [received]
  | cons action rest ih =>
      have restQuiet : ¬ Spends rest := fun ⟨amount, member⟩ =>
        quiet ⟨amount, List.mem_cons_of_mem _ member⟩
      cases action with
      | receive item => simp [act, received, ih _ restQuiet]
      | spend amount => exact absurd ⟨amount, List.mem_cons_self⟩ quiet

section Ordered

variable [IsOrderedAddMonoid α]

theorem Positive.consume {queue : List L} (positive : portion.Positive queue) (remaining : α) :
    portion.Positive (portion.consume queue remaining) := by
  induction queue generalizing remaining with
  | nil => simpa [Portion.consume] using positive
  | cons head rest ih =>
      simp only [Portion.consume]
      split
      · exact positive
      · split
        · exact ih positive.tail _
        · rename_i short
          intro item member
          rcases List.mem_cons.mp member with rfl | tailMember
          · rw [portion.amount_withAmount]
            exact sub_pos.mpr (not_le.mp short)
          · exact positive item (List.mem_cons_of_mem _ tailMember)

theorem Positive.act {queue : List L} (positive : portion.Positive queue)
    {action : Action L α} (moves : portion.Moves [action]) :
    portion.Positive (portion.act queue action) := by
  cases action with
  | receive item =>
      intro other member
      rcases List.mem_append.mp member with old | new
      · exact positive other old
      · rw [List.mem_singleton.mp new]
        exact moves _ List.mem_cons_self
  | spend amount => exact positive.consume portion amount

theorem Positive.run {queue : List L} (positive : portion.Positive queue)
    {actions : List (Action L α)} (moves : portion.Moves actions) :
    portion.Positive (portion.run queue actions) := by
  induction actions generalizing queue with
  | nil => exact positive
  | cons action rest ih =>
      have headMoves : portion.Moves [action] := by
        intro item member
        exact moves item (by simp_all)
      exact ih (positive.act portion headMoves) moves.tail

theorem Positive.total_nonneg {queue : List L} (positive : portion.Positive queue) :
    0 ≤ portion.total queue := by
  apply List.sum_nonneg
  intro value member
  obtain ⟨item, itemMember, rfl⟩ := List.mem_map.mp member
  exact (positive item itemMember).le

/-- A queue of positive portions is empty exactly when it holds nothing. -/
theorem Positive.total_eq_zero_iff {queue : List L} (positive : portion.Positive queue) :
    portion.total queue = 0 ↔ queue = [] := by
  cases queue with
  | nil => simp
  | cons head rest =>
      have headPositive := positive head List.mem_cons_self
      have restNonneg := Positive.total_nonneg portion positive.tail
      simp [(add_pos_of_pos_of_nonneg headPositive restNonneg).ne']

/-- Draining a queue lowers its total by what it could give. -/
theorem total_consume {queue : List L} (positive : portion.Positive queue) {remaining : α}
    (nonneg : 0 ≤ remaining) :
    portion.total (portion.consume queue remaining) = max 0 (portion.total queue - remaining) := by
  induction queue generalizing remaining with
  | nil => simp [consume, nonneg]
  | cons head rest ih =>
      have restNonneg := Positive.total_nonneg portion positive.tail
      have headPositive := positive head List.mem_cons_self
      simp only [consume]
      split
      · rename_i done
        have zero : remaining = 0 := le_antisymm done nonneg
        rw [zero, sub_zero, max_eq_right (Positive.total_nonneg portion positive)]
      · split
        · rename_i drained
          rw [ih positive.tail (sub_nonneg.mpr drained), total_cons]
          congr 1
          abel
        · rename_i short
          have left : 0 ≤ portion.amount head - remaining := (sub_pos.mpr (not_le.mp short)).le
          rw [total_cons, total_cons, portion.amount_withAmount, max_eq_right]
          · abel
          · rw [add_sub_right_comm]
            exact add_nonneg left restNonneg

theorem total_act {queue : List L} (positive : portion.Positive queue) {action : Action L α}
    (moves : portion.Moves [action]) :
    portion.total (portion.act queue action) =
      portion.settle (portion.total queue) action := by
  cases action with
  | receive item => simp [act, settle, total_append]
  | spend amount =>
      have amountPositive : 0 < amount := moves _ List.mem_cons_self
      exact portion.total_consume positive amountPositive.le

/-- The queue always holds exactly the saturating balance. -/
theorem total_run {queue : List L} (positive : portion.Positive queue)
    {actions : List (Action L α)} (moves : portion.Moves actions) :
    portion.total (portion.run queue actions) =
      portion.balance (portion.total queue) actions := by
  induction actions generalizing queue with
  | nil => rfl
  | cons action rest ih =>
      have headMoves : portion.Moves [action] := by
        intro item member
        exact moves item (by simp_all)
      rw [run_cons, balance_cons, ih (positive.act portion headMoves) moves.tail,
        portion.total_act positive headMoves]

/-- A balance started higher by `extra` ends higher by at most `extra`. -/
theorem balance_add_le (held extra : α) (extraNonneg : 0 ≤ extra)
    (actions : List (Action L α)) :
    portion.balance (held + extra) actions ≤ portion.balance held actions + extra := by
  have monotone : ∀ (actions : List (Action L α)) {low high : α}, low ≤ high →
      portion.balance low actions ≤ portion.balance high actions := by
    intro actions
    induction actions with
    | nil => intro low high below; exact below
    | cons action rest ih =>
        intro low high below
        cases action with
        | receive item => exact ih (by simpa [settle] using below)
        | spend amount => exact ih (max_le_max le_rfl (sub_le_sub_right below amount))
  induction actions generalizing held with
  | nil => exact le_rfl
  | cons action rest ih =>
      cases action with
      | receive item =>
          have step := ih (held + portion.amount item)
          simpa [settle, add_right_comm] using step
      | spend amount =>
          have raised : max 0 (held + extra - amount) ≤ max 0 (held - amount) + extra := by
            apply max_le
            · exact add_nonneg (le_max_left _ _) extraNonneg
            · rw [add_sub_right_comm]
              exact add_le_add_left (le_max_right _ _) extra
          exact (monotone rest raised).trans (ih _)

/-! ## The newest portions -/

/-- A queue holds the newest of the portions that were received, the first of them in part. -/
def Newest (portion : Portion L α) (queue got : List L) : Prop :=
  queue = [] ∨ ∃ drained head rest left, got = drained ++ head :: rest ∧
    queue = portion.withAmount head left :: rest ∧ 0 < left ∧ left ≤ portion.amount head

section Newest

variable {portion : Portion L α} (kept : ∀ item, portion.withAmount item (portion.amount item) = item)
  (overwritten : ∀ item first second,
    portion.withAmount (portion.withAmount item first) second = portion.withAmount item second)

include kept

omit [IsOrderedAddMonoid α] in
theorem Newest.receive {queue got : List L} (newest : portion.Newest queue got) {item : L}
    (itemPositive : 0 < portion.amount item) :
    portion.Newest (queue ++ [item]) (got ++ [item]) := by
  rcases newest with empty | ⟨drained, head, rest, left, split, holds, leftPositive, atMost⟩
  · exact .inr ⟨got, item, [], portion.amount item, rfl, by rw [empty, kept]; rfl, itemPositive,
      le_rfl⟩
  · exact .inr ⟨drained, head, rest ++ [item], left, by rw [split]; simp, by rw [holds]; rfl,
      leftPositive, atMost⟩

/-- Whole portions at the end of what was received are drained from their front. -/
theorem newest_consume {drained queue got : List L} (positive : portion.Positive got)
    (split : got = drained ++ queue) (remaining : α) :
    portion.Newest (portion.consume queue remaining) got := by
  induction queue generalizing drained remaining with
  | nil => exact .inl rfl
  | cons head rest ih =>
      have headPositive : 0 < portion.amount head := positive head (by rw [split]; simp)
      simp only [consume]
      split
      · exact .inr ⟨drained, head, rest, portion.amount head, split, by rw [kept], headPositive,
          le_rfl⟩
      · rename_i pending
        split
        · have later : got = (drained ++ [head]) ++ rest := by rw [split]; simp
          exact ih later _
        · rename_i short
          exact .inr ⟨drained, head, rest, portion.amount head - remaining, split, rfl,
            sub_pos.mpr (not_le.mp short), sub_le_self _ (not_le.mp pending).le⟩

include overwritten

theorem Newest.consume {queue got : List L} (newest : portion.Newest queue got)
    (positive : portion.Positive got) (remaining : α) :
    portion.Newest (portion.consume queue remaining) got := by
  rcases newest with empty | ⟨drained, head, rest, left, split, holds, leftPositive, atMost⟩
  · rw [empty]
    exact .inl rfl
  · rw [holds]
    simp only [Portion.consume, portion.amount_withAmount]
    split
    · exact .inr ⟨drained, head, rest, left, split, rfl, leftPositive, atMost⟩
    · rename_i pending
      split
      · have later : got = (drained ++ [head]) ++ rest := by rw [split]; simp
        exact newest_consume kept positive later _
      · rename_i short
        exact .inr ⟨drained, head, rest, left - remaining, split, by rw [overwritten],
          sub_pos.mpr (not_le.mp short), (sub_le_self _ (not_le.mp pending).le).trans atMost⟩

/-- Whatever is spent, the newest of the portions that were received are left. -/
theorem Newest.run {queue got : List L} (newest : portion.Newest queue got)
    (positive : portion.Positive got) {actions : List (Action L α)}
    (moves : portion.Moves actions) :
    portion.Newest (portion.run queue actions) (got ++ received actions) := by
  induction actions generalizing queue got with
  | nil => simpa [received] using newest
  | cons action rest ih =>
      cases action with
      | receive item =>
          have itemPositive : 0 < portion.amount item := moves _ List.mem_cons_self
          have gotPositive : portion.Positive (got ++ [item]) := by
            intro other member
            rcases List.mem_append.mp member with old | new
            · exact positive other old
            · exact List.mem_singleton.mp new ▸ itemPositive
          have step := ih (newest.receive kept itemPositive) gotPositive moves.tail
          rw [List.append_assoc] at step
          exact step
      | spend amount =>
          exact ih (newest.consume kept overwritten positive amount) positive moves.tail

end Newest

/-! ## Portions selected by a mark that draining keeps -/

variable (mine : L → Bool)
  (marked : ∀ (item : L) (value : α), mine (portion.withAmount item value) = mine item)

include marked

/-- Draining never adds to the portions of one mark. -/
theorem total_filter_consume_le {queue : List L} (positive : portion.Positive queue)
    (remaining : α) :
    portion.total ((portion.consume queue remaining).filter mine) ≤
      portion.total (queue.filter mine) := by
  induction queue generalizing remaining with
  | nil => simp [consume]
  | cons head rest ih =>
      have headPositive := positive head List.mem_cons_self
      simp only [consume]
      split
      · exact le_rfl
      · rename_i pending
        split
        · apply (ih positive.tail _).trans
          by_cases own : mine head
          · simp [own, headPositive.le]
          · simp [own]
        · by_cases own : mine head
          · simp [own, marked, portion.amount_withAmount, (not_le.mp pending).le]
          · simp [own, marked]

/-- A positive spend takes from the mark of the front portion. -/
theorem total_filter_consume_lt {head : L} {rest : List L}
    (positive : portion.Positive (head :: rest)) (own : mine head = true) {remaining : α}
    (amountPositive : 0 < remaining) :
    portion.total ((portion.consume (head :: rest) remaining).filter mine) <
      portion.total ((head :: rest).filter mine) := by
  have headPositive := positive head List.mem_cons_self
  simp only [consume, not_le.mpr amountPositive, ↓reduceIte]
  split
  · apply (portion.total_filter_consume_le mine marked positive.tail _).trans_lt
    simp [own, headPositive]
  · simp [own, marked, portion.amount_withAmount, amountPositive]

/-- Events that receive nothing of a mark never raise its total. -/
theorem total_filter_run_le {queue : List L} (positive : portion.Positive queue)
    {actions : List (Action L α)} (moves : portion.Moves actions)
    (foreign : ∀ item, .receive item ∈ actions → mine item = false) :
    portion.total ((portion.run queue actions).filter mine) ≤
      portion.total (queue.filter mine) := by
  induction actions generalizing queue with
  | nil => exact le_rfl
  | cons action rest ih =>
      have headMoves : portion.Moves [action] := by
        intro item member
        exact moves item (by simp_all)
      have restForeign : ∀ item, .receive item ∈ rest → mine item = false :=
        fun item member => foreign item (List.mem_cons_of_mem _ member)
      apply (ih (positive.act portion headMoves) moves.tail restForeign).trans
      cases action with
      | receive item =>
          have other := foreign item List.mem_cons_self
          simp [act, other]
      | spend amount => exact portion.total_filter_consume_le mine marked positive amount

/-- When the front portion carries the mark and the events receive nothing of
it, one spend among them already lowers its total. -/
theorem total_filter_run_lt {head : L} {rest : List L}
    (positive : portion.Positive (head :: rest)) (own : mine head = true)
    {actions : List (Action L α)} (moves : portion.Moves actions)
    (foreign : ∀ item, .receive item ∈ actions → mine item = false)
    (spends : Spends actions) :
    portion.total ((portion.run (head :: rest) actions).filter mine) <
      portion.total ((head :: rest).filter mine) := by
  induction actions generalizing rest with
  | nil =>
      obtain ⟨amount, member⟩ := spends
      simp at member
  | cons action later ih =>
      have headMoves : portion.Moves [action] := by
        intro item member
        exact moves item (by simp_all)
      have laterForeign : ∀ item, .receive item ∈ later → mine item = false :=
        fun item member => foreign item (List.mem_cons_of_mem _ member)
      cases action with
      | receive item =>
          -- The front portion stays in front, so the spend is still to come.
          have other := foreign item List.mem_cons_self
          have laterSpends : Spends later := by
            obtain ⟨amount, member⟩ := spends
            exact ⟨amount, by simpa using member⟩
          have step := ih (positive.act portion headMoves) moves.tail laterForeign laterSpends
          simpa [act, other, List.filter_cons, own] using step
      | spend amount =>
          have amountPositive : 0 < amount := moves _ List.mem_cons_self
          exact (portion.total_filter_run_le mine marked (positive.consume portion amount)
            moves.tail laterForeign).trans_lt
              (portion.total_filter_consume_lt mine marked positive own amountPositive)

end Ordered

end Portion

end Reputo.Library.Fifo

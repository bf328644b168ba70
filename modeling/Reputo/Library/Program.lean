import Reputo.Library.System

/-!
# Programs over a shared store

A program asks for one operation after another and goes on with each reply.  The store
carries out one operation at a time; programs that run on it at the same time take turns
in any order, so that anything may happen between two operations of one of them.
-/

namespace Reputo.Library

universe u v w y

/-- A program that asks for operations, each with a reply of its own type. -/
inductive Program (Op : Type → Type v) (ρ : Type) : Type (max 1 v) where
  | done (result : ρ)
  | call {α : Type} (operation : Op α) (next : α → Program Op ρ)

/-- What the operations do to a store, and what they reply. -/
abbrev Handler (Op : Type → Type v) (σ : Type u) : Type (max 1 u v) :=
  ∀ {α : Type}, Op α → σ → α × σ

namespace Program

variable {Op : Type → Type v} {ρ τ : Type} {σ : Type u}

/-- One program after another. -/
def bind : Program Op ρ → (ρ → Program Op τ) → Program Op τ
  | done result, after => after result
  | call operation next, after => call operation fun reply => (next reply).bind after

instance : Monad (Program Op) where
  pure := done
  bind := bind

/-- The program of one operation. -/
def perform {α : Type} (operation : Op α) : Program Op α := call operation done

/-- What a program that is over has come to. -/
def result? : Program Op ρ → Option ρ
  | done result => some result
  | call _ _ => none

/-- A program that runs alone: its result, and the store after it. -/
def run (handler : Handler Op σ) : Program Op ρ → σ → ρ × σ
  | done result, store => (result, store)
  | call operation next, store =>
      (next (handler operation store).1).run handler (handler operation store).2

theorem run_pure (handler : Handler Op σ) (result : ρ) (store : σ) :
    (pure result : Program Op ρ).run handler store = (result, store) :=
  rfl

theorem run_perform (handler : Handler Op σ) (operation : Op ρ) (store : σ) :
    (perform operation).run handler store = handler operation store :=
  rfl

theorem run_bind (handler : Handler Op σ) (first : Program Op ρ) (after : ρ → Program Op τ)
    (store : σ) :
    (first >>= after).run handler store =
      (after (first.run handler store).1).run handler (first.run handler store).2 := by
  induction first generalizing store with
  | done result => rfl
  | call operation next ih => exact ih _ _

/-- All operations that a program may ask for are allowed. -/
def Uses (allowed : ∀ {α : Type}, Op α → Prop) : Program Op ρ → Prop
  | done _ => True
  | call operation next => allowed operation ∧ ∀ reply, (next reply).Uses @allowed

theorem uses_bind {allowed : ∀ {α : Type}, Op α → Prop} {first : Program Op ρ}
    {after : ρ → Program Op τ} (usesFirst : first.Uses @allowed)
    (usesAfter : ∀ result, (after result).Uses @allowed) : (first >>= after).Uses @allowed := by
  induction first with
  | done result => exact usesAfter result
  | call operation next ih => exact ⟨usesFirst.1, fun reply => ih reply (usesFirst.2 reply)⟩

theorem uses_perform_bind {allowed : ∀ {α : Type}, Op α → Prop} {operation : Op ρ}
    {after : ρ → Program Op τ} (permitted : allowed operation)
    (usesAfter : ∀ reply, (after reply).Uses @allowed) :
    (perform operation >>= after).Uses @allowed :=
  ⟨permitted, usesAfter⟩

/-- Nothing is asked for that is not allowed, where everything is. -/
theorem uses_of_forall {allowed : ∀ {α : Type}, Op α → Prop}
    (all : ∀ {α : Type} (operation : Op α), allowed operation) (program : Program Op ρ) :
    program.Uses @allowed := by
  induction program with
  | done result => trivial
  | call operation next ih => exact ⟨all operation, ih⟩

/-- What the allowed operations keep, a program keeps that runs alone. -/
theorem run_invariant {handler : Handler Op σ} {allowed : ∀ {α : Type}, Op α → Prop}
    (holds : σ → Prop)
    (kept : ∀ {α : Type} (operation : Op α) (store : σ), allowed operation → holds store →
      holds (handler operation store).2)
    {program : Program Op ρ} (uses : program.Uses @allowed) {store : σ} (sound : holds store) :
    holds (program.run handler store).2 := by
  induction program generalizing store with
  | done result => exact sound
  | call operation next ih => exact ih _ (uses.2 _) (kept operation store uses.1 sound)

/-- A program that runs alone for a number of operations: what is left of it, and the
store then. -/
def runFor (handler : Handler Op σ) : Nat → Program Op ρ → σ → Program Op ρ × σ
  | 0, program, store => (program, store)
  | _ + 1, done result, store => (done result, store)
  | steps + 1, call operation next, store =>
      (next (handler operation store).1).runFor handler steps (handler operation store).2

/-- A program that runs alone keeps an invariant at every operation, so that it may stop
anywhere, and ends as asked if it ends. -/
def Maintains (handler : Handler Op σ) (invariant : σ → Prop) (ends : ρ → σ → Prop) :
    Program Op ρ → σ → Prop
  | done result, store => invariant store ∧ ends result store
  | call operation next, store => invariant store ∧
      (next (handler operation store).1).Maintains handler invariant ends (handler operation store).2

section Maintains

variable {handler : Handler Op σ} {invariant : σ → Prop} {ends : ρ → σ → Prop} {store : σ}

theorem Maintains.holds {program : Program Op ρ}
    (maintains : program.Maintains handler invariant ends store) : invariant store := by
  cases program with
  | done result => exact maintains.1
  | call operation next => exact maintains.1

/-- Wherever the program stops, the invariant holds. -/
theorem Maintains.runFor {program : Program Op ρ} (steps : Nat)
    (maintains : program.Maintains handler invariant ends store) :
    invariant (program.runFor handler steps store).2 := by
  induction steps generalizing program store with
  | zero => exact maintains.holds
  | succ steps ih =>
      cases program with
      | done result => exact maintains.1
      | call operation next => exact ih maintains.2

theorem maintains_pure {result : ρ} (sound : invariant store) (ended : ends result store) :
    (pure result : Program Op ρ).Maintains handler invariant ends store :=
  ⟨sound, ended⟩

theorem maintains_perform {operation : Op ρ} (sound : invariant store)
    (kept : invariant (handler operation store).2)
    (ended : ends (handler operation store).1 (handler operation store).2) :
    (perform operation).Maintains handler invariant ends store :=
  ⟨sound, kept, ended⟩

/-- An operation, and what follows its reply. -/
theorem maintains_perform_bind {operation : Op τ} {after : τ → Program Op ρ}
    (sound : invariant store)
    (next : (after (handler operation store).1).Maintains handler invariant ends
      (handler operation store).2) :
    (perform operation >>= after).Maintains handler invariant ends store :=
  ⟨sound, next⟩

theorem maintains_bind {between : τ → σ → Prop} {first : Program Op τ}
    {after : τ → Program Op ρ}
    (maintains : first.Maintains handler invariant between store)
    (next : ∀ result store, invariant store → between result store →
      (after result).Maintains handler invariant ends store) :
    (first >>= after).Maintains handler invariant ends store := by
  induction first generalizing store with
  | done result => exact next result store maintains.1 maintains.2
  | call operation rest ih => exact ⟨maintains.1, ih _ maintains.2⟩

theorem Maintains.weaken {weaker : σ → Prop} {others : ρ → σ → Prop} {program : Program Op ρ}
    (maintains : program.Maintains handler invariant ends store)
    (weaken : ∀ store, invariant store → weaker store)
    (weakenEnds : ∀ result store, invariant store → ends result store → others result store) :
    program.Maintains handler weaker others store := by
  induction program generalizing store with
  | done result =>
      exact ⟨weaken store maintains.1, weakenEnds result store maintains.1 maintains.2⟩
  | call operation next ih => exact ⟨weaken store maintains.1, ih _ maintains.2⟩

end Maintains

/-- The next operation of a program, if there is one, meets a condition on the store. -/
def NextMeets (condition : ∀ {α : Type}, Op α → σ → Prop) : Program Op ρ → σ → Prop
  | done _, _ => True
  | call operation _, store => condition operation store

instance {condition : ∀ {α : Type}, Op α → σ → Prop}
    [decide : ∀ {α : Type} (operation : Op α) store, Decidable (condition operation store)]
    (store : σ) : (program : Program Op ρ) → Decidable (program.NextMeets @condition store)
  | done _ => isTrue trivial
  | call operation _ => decide operation store

end Program

/-! ## Labels -/

section Labels

variable {Stage : Type w} {κ : Type}

/-- What is said of the stage at a position. -/
def labelAt (label : Stage → Option κ) (stages : List Stage) (position : Nat) : Option κ :=
  stages[position]?.bind label

variable {label : Stage → Option κ} {stages : List Stage} {stage later : Stage} {position : Nat}

theorem labelAt_nil (label : Stage → Option κ) (position : Nat) :
    labelAt label [] position = none :=
  rfl

theorem labelAt_set (located : stages[position]? = some stage) (other : Nat) :
    labelAt label (stages.set position later) other =
      if other = position then label later else labelAt label stages other := by
  rw [labelAt, List.getElem?_set]
  by_cases same : position = other
  · rw [if_pos same, if_pos same.symm, if_pos (List.getElem?_eq_some_iff.mp located).1,
      Option.bind_some]
  · rw [if_neg same, if_neg (Ne.symm same)]
    rfl

theorem labelAt_self (located : stages[position]? = some stage) :
    labelAt label stages position = label stage := by
  rw [labelAt, located, Option.bind_some]

theorem labelAt_set_same (located : stages[position]? = some stage)
    (same : label later = label stage) (other : Nat) :
    labelAt label (stages.set position later) other = labelAt label stages other := by
  rw [labelAt_set located, same]
  split
  · rename_i here
    rw [here, labelAt_self located]
  · rfl

theorem labelAt_append (started : label stage = none) (other : Nat) :
    labelAt label (stages ++ [stage]) other = labelAt label stages other := by
  rw [labelAt, labelAt, List.getElem?_append]
  split
  · rfl
  · rename_i beyond
    rw [List.getElem?_eq_none (Nat.le_of_not_lt beyond)]
    cases other - stages.length with
    | zero => exact started
    | succ => rfl

end Labels

/-! ## Programs that take turns -/

/-- A store, and what is left of the programs that run on it. -/
structure Pool (σ : Type u) (Op : Type → Type v) (ρ : Type) where
  store : σ
  running : List (Program Op ρ)

/-- What happens next: a request is taken up, a program carries out its next
operation, or something else happens to the store. -/
inductive PoolAction (κ : Type) (ε : Type y) where
  | start (request : κ)
  | proceed (position : Nat)
  | environment (event : ε)

namespace Pool

variable {σ : Type u} {Op : Type → Type v} {ρ κ : Type} {ε : Type y}

section Perform

variable (handler : Handler Op σ) (program : κ → Program Op ρ) (environment : ε → σ → σ)

def perform (pool : Pool σ Op ρ) : PoolAction κ ε → Option (Pool σ Op ρ)
  | .start request => some { pool with running := pool.running ++ [program request] }
  | .proceed position => match pool.running[position]? with
      | some (.call operation next) => some
          { store := (handler operation pool.store).2
            running := pool.running.set position (next (handler operation pool.store).1) }
      | _ => none
  | .environment event => some { pool with store := environment event pool.store }

/-- The system of a store on which nothing runs at first. -/
def system (initial : σ → Prop) : System (Pool σ Op ρ) (PoolAction κ ε) :=
  .ofPerform (fun pool => initial pool.store ∧ pool.running = []) (fun _ _ => True)
    (perform handler program environment)

end Perform

/-- The operation that is carried out next meets a condition on the store. -/
def Meets (condition : ∀ {α : Type}, Op α → σ → Prop) (pool : Pool σ Op ρ) :
    PoolAction κ ε → Prop
  | .proceed position => ∀ program ∈ pool.running[position]?,
      program.NextMeets @condition pool.store
  | _ => True

instance {condition : ∀ {α : Type}, Op α → σ → Prop}
    [∀ {α : Type} (operation : Op α) store, Decidable (condition operation store)]
    (pool : Pool σ Op ρ) :
    (action : PoolAction κ ε) → Decidable (pool.Meets @condition action)
  | .start _ | .environment _ => isTrue trivial
  | .proceed position => inferInstanceAs (Decidable (∀ program ∈ pool.running[position]?,
      program.NextMeets @condition pool.store))

variable {handler : Handler Op σ} {program : κ → Program Op ρ} {environment : ε → σ → σ}
  {initial : σ → Prop} {condition : ∀ {α : Type}, Op α → σ → Prop}

/-- A step of a program is one of its operations. -/
theorem perform_proceed {pool after : Pool σ Op ρ} {position : Nat}
    (performed : perform handler program environment pool (.proceed position) = some after) :
    ∃ (α : Type) (operation : Op α) (next : α → Program Op ρ),
      pool.running[position]? = some (.call operation next) ∧
        after.store = (handler operation pool.store).2 ∧
        after.running = pool.running.set position (next (handler operation pool.store).1) := by
  simp only [perform] at performed
  split at performed
  · rename_i found
    cases performed
    exact ⟨_, _, _, found, rfl, rfl⟩
  · exact nomatch performed

/-- What the operations keep, where they meet the condition, holds of the store
throughout. -/
theorem store_invariant (holds : σ → Prop)
    (initially : ∀ store, initial store → holds store)
    (kept : ∀ {α : Type} (operation : Op α) (store : σ), holds store →
      condition operation store → holds (handler operation store).2)
    (keptOutside : ∀ event store, holds store → holds (environment event store))
    {pool : Pool σ Op ρ}
    (reachable : (system handler program environment initial).Reachable
      (fun before action => before.Meets @condition action) pool) : holds pool.store := by
  have initiallySound : ∀ before : Pool σ Op ρ, (initial before.store ∧ before.running = []) →
      holds before.store := fun before first => initially _ first.1
  apply reachable.invariant initiallySound
  · intro before action after sound meets stepped
    cases action with
    | start request =>
        cases stepped.2
        exact sound
    | environment event =>
        cases stepped.2
        exact keptOutside event _ sound
    | proceed position =>
        rcases perform_proceed stepped.2 with ⟨α, operation, next, found, stored, _⟩
        rw [stored]
        exact kept operation _ sound (meets _ found)

/-- Programs that stay among stages: each running program is what one of them denotes, and
what the moves between stages keep holds throughout. -/
theorem stage_invariant {Stage : Type w} (denote : Stage → Program Op ρ)
    (holds : σ → List Stage → Prop)
    (initially : ∀ store, initial store → holds store [])
    (started : ∀ store stages request, holds store stages →
      ∃ stage, denote stage = program request ∧ holds store (stages ++ [stage]))
    (moved : ∀ {α : Type} (operation : Op α) (next : α → Program Op ρ) store stages position stage,
      holds store stages → stages[position]? = some stage →
      denote stage = .call operation next → condition operation store →
      ∃ later, denote later = next (handler operation store).1 ∧
        holds (handler operation store).2 (stages.set position later))
    (keptOutside : ∀ event store stages, holds store stages →
      holds (environment event store) stages)
    {pool : Pool σ Op ρ}
    (reachable : (system handler program environment initial).Reachable
      (fun before action => before.Meets @condition action) pool) :
    ∃ stages, pool.running = stages.map denote ∧ holds pool.store stages := by
  have initiallySound : ∀ before : Pool σ Op ρ, (initial before.store ∧ before.running = []) →
      ∃ stages, before.running = stages.map denote ∧ holds before.store stages :=
    fun before first => ⟨[], first.2, initially _ first.1⟩
  apply reachable.invariant initiallySound
  · intro before action after ⟨stages, running, sound⟩ meets stepped
    cases action with
    | start request =>
        cases stepped.2
        rcases started before.store stages request sound with ⟨stage, denoted, kept⟩
        refine ⟨stages ++ [stage], ?_, kept⟩
        rw [List.map_append, List.map_singleton, denoted, running]
    | environment event =>
        cases stepped.2
        exact ⟨stages, running, keptOutside event _ _ sound⟩
    | proceed position =>
        rcases perform_proceed stepped.2 with ⟨α, operation, next, found, stored, left⟩
        have met := meets _ found
        rw [running, List.getElem?_map, Option.map_eq_some_iff] at found
        rcases found with ⟨stage, located, denoted⟩
        rcases moved operation next _ _ _ _ sound located denoted met with ⟨later, reached, kept⟩
        refine ⟨stages.set position later, ?_, ?_⟩
        · rw [left, running, List.map_set, reached]
        · rw [stored]
          exact kept

/-- Where an operation keeps a property of the store exactly if it meets a condition, the
property holds throughout a run exactly if all operations of the run do. -/
theorem throughout_iff {allowed : ∀ {α : Type}, Op α → Prop} (sound holds : σ → Prop)
    (uses : ∀ request, (program request).Uses @allowed)
    (kept : ∀ {α : Type} (operation : Op α) (store : σ), allowed operation → sound store →
      sound (handler operation store).2)
    (exactly : ∀ {α : Type} (operation : Op α) (store : σ), allowed operation → sound store →
      holds store → (holds (handler operation store).2 ↔ condition operation store))
    (keptOutside : ∀ event store, sound store → sound (environment event store))
    (holdsOutside : ∀ event store, sound store → holds store → holds (environment event store))
    {store : σ} (first : sound store) (initially : holds store)
    (actions : List (PoolAction κ ε)) :
    System.Throughout (perform handler program environment) (fun pool => holds pool.store)
        ⟨store, []⟩ actions ↔
      System.AllAlong (perform handler program environment)
        (fun pool action => pool.Meets @condition action) ⟨store, []⟩ actions := by
  have stepped : ∀ (pool : Pool σ Op ρ) (action : PoolAction κ ε),
      (sound pool.store ∧ ∀ running ∈ pool.running, running.Uses @allowed) →
      (sound (System.performOr (perform handler program environment) pool action).store ∧
        ∀ running ∈ (System.performOr (perform handler program environment) pool action).running,
          running.Uses @allowed) ∧
      (holds pool.store →
        (holds (System.performOr (perform handler program environment) pool action).store ↔
          pool.Meets @condition action)) := by
    intro pool action ⟨sound', used⟩
    cases action with
    | start request =>
        refine ⟨⟨sound', ?_⟩, fun holding => iff_of_true holding trivial⟩
        intro running member
        rcases List.mem_append.mp member with earlier | own
        · exact used running earlier
        · rw [List.mem_singleton.mp own]
          exact uses request
    | environment event =>
        exact ⟨⟨keptOutside event _ sound', used⟩,
          fun holding => iff_of_true (holdsOutside event _ sound' holding) trivial⟩
    | proceed position =>
        rw [System.performOr, perform, Meets]
        cases found : pool.running[position]? with
        | none =>
            exact ⟨⟨sound', used⟩, fun holding =>
              iff_of_true holding fun _ absent => absurd absent (Option.not_mem_none _)⟩
        | some running =>
            have own := used running (List.mem_of_getElem? found)
            cases running with
            | done result =>
                refine ⟨⟨sound', used⟩, fun holding => iff_of_true holding ?_⟩
                intro other same
                cases same
                trivial
            | call operation next =>
                refine ⟨⟨kept operation _ own.1 sound', ?_⟩, fun holding => ?_⟩
                · intro other member
                  rcases List.mem_or_eq_of_mem_set member with earlier | last
                  · exact used other earlier
                  · rw [last]
                    exact own.2 _
                · refine (exactly operation _ own.1 sound' holding).trans ?_
                  constructor
                  · intro met other same
                    cases same
                    exact met
                  · exact fun met => met _ rfl
  exact System.throughout_iff (fun pool action sound' => (stepped pool action sound').1)
    (fun pool action sound' holding => (stepped pool action sound').2 holding)
    ⟨first, fun _ absent => absurd absent List.not_mem_nil⟩ initially

end Pool

end Reputo.Library

import Mathlib.Logic.Basic

/-!
# Transition systems

States, actions and the steps they allow.  A run may be restricted to steps that
meet a condition on the state before the step and the action; an invariant of
the restricted steps holds in every state such a run reaches.
-/

namespace Reputo.Library

universe u v

/-- A transition system whose steps are labelled with actions. -/
structure System (σ : Type u) (α : Type v) where
  initial : σ → Prop
  step : σ → α → σ → Prop

namespace System

variable {σ : Type u} {α : Type v}

/-- States reached from an initial one by permitted steps. -/
inductive Reachable (system : System σ α) (permitted : σ → α → Prop) : σ → Prop
  | start {state : σ} (first : system.initial state) : Reachable system permitted state
  | next {state after : σ} {action : α} (before : Reachable system permitted state)
      (allowed : permitted state action) (stepped : system.step state action after) :
      Reachable system permitted after

variable {system : System σ α} {permitted : σ → α → Prop}

/-- What holds initially and is kept by permitted steps holds throughout. -/
theorem Reachable.invariant {holds : σ → Prop}
    (initially : ∀ state, system.initial state → holds state)
    (kept : ∀ state action after, holds state → permitted state action →
      system.step state action after → holds after)
    {state : σ} (reachable : system.Reachable permitted state) : holds state := by
  induction reachable with
  | start first => exact initially _ first
  | next _ allowed stepped ih => exact kept _ _ _ ih allowed stepped

/-- A weaker restriction reaches no fewer states. -/
theorem Reachable.mono {looser : σ → α → Prop}
    (weaker : ∀ state action, permitted state action → looser state action)
    {state : σ} (reachable : system.Reachable permitted state) :
    system.Reachable looser state := by
  induction reachable with
  | start first => exact .start first
  | next _ allowed stepped ih => exact .next ih (weaker _ _ allowed) stepped

/-! ## Step functions -/

/-- The system of a partial step function, whose actions may be taken where they
are admissible. -/
def ofPerform (initial : σ → Prop) (admissible : σ → α → Prop) (perform : σ → α → Option σ) :
    System σ α where
  initial
  step state action after := admissible state action ∧ perform state action = some after

/-- The state after one action; an action that is not possible changes nothing. -/
def performOr (perform : σ → α → Option σ) (state : σ) (action : α) : σ :=
  (perform state action).getD state

/-- The state after several actions. -/
def performAll (perform : σ → α → Option σ) (state : σ) (actions : List α) : σ :=
  actions.foldl (performOr perform) state

/-- Each action meets a condition in the state in which it is taken. -/
def AllAlong (perform : σ → α → Option σ) (condition : σ → α → Prop) : σ → List α → Prop
  | _, [] => True
  | state, action :: rest =>
      condition state action ∧ AllAlong perform condition (performOr perform state action) rest

instance AllAlong.decidable {perform : σ → α → Option σ} {condition : σ → α → Prop}
    [∀ state action, Decidable (condition state action)] :
    ∀ state actions, Decidable (AllAlong perform condition state actions)
  | _, [] => isTrue trivial
  | state, action :: rest =>
      have : Decidable (AllAlong perform condition (performOr perform state action) rest) :=
        AllAlong.decidable _ _
      inferInstanceAs (Decidable (condition state action ∧
        AllAlong perform condition (performOr perform state action) rest))

theorem AllAlong.congr {perform : σ → α → Option σ} {condition other : σ → α → Prop}
    (same : ∀ state action, condition state action ↔ other state action) {state : σ}
    {actions : List α} :
    AllAlong perform condition state actions ↔ AllAlong perform other state actions := by
  induction actions generalizing state with
  | nil => exact Iff.rfl
  | cons action rest ih => exact and_congr (same state action) ih

theorem performAll_append (perform : σ → α → Option σ) (state : σ) (before after : List α) :
    performAll perform state (before ++ after) =
      performAll perform (performAll perform state before) after :=
  List.foldl_append

/-- A relation holds from each state of a run to all later ones. -/
def RelatedThroughout (perform : σ → α → Option σ) (related : σ → σ → Prop) (state : σ)
    (actions : List α) : Prop :=
  ∀ before between after, actions = before ++ between ++ after →
    related (performAll perform state before) (performAll perform state (before ++ between))

/-- A reflexive and transitive relation holds throughout a run exactly if every action
of the run keeps it. -/
theorem relatedThroughout_iff {perform : σ → α → Option σ} {related : σ → σ → Prop}
    (refl : ∀ state, related state state)
    (trans : ∀ first second third, related first second → related second third →
      related first third) {state : σ} {actions : List α} :
    RelatedThroughout perform related state actions ↔
      AllAlong perform (fun before action => related before (performOr perform before action))
        state actions := by
  induction actions generalizing state with
  | nil =>
      constructor
      · exact fun _ => trivial
      · intro _ before between after split
        rcases List.append_eq_nil_iff.mp split.symm with ⟨front, _⟩
        rcases List.append_eq_nil_iff.mp front with ⟨first, second⟩
        rw [first, second]
        exact refl _
  | cons action rest ih =>
      constructor
      · intro throughout
        constructor
        · exact throughout [] [action] rest rfl
        · apply ih.mp
          intro before between after split
          exact throughout (action :: before) between after (congrArg (action :: ·) split)
      · intro ⟨head, others⟩ before between after split
        have throughout := ih.mpr others
        cases before with
        | cons first before =>
            rcases List.cons_eq_cons.mp split with ⟨same, tail⟩
            cases same
            exact throughout before between after tail
        | nil =>
            cases between with
            | nil => exact refl _
            | cons first between =>
                rcases List.cons_eq_cons.mp split with ⟨same, tail⟩
                cases same
                exact trans _ _ _ head (throughout [] between after tail)

/-- A property holds in every state of a run. -/
def Throughout (perform : σ → α → Option σ) (holds : σ → Prop) (state : σ) (actions : List α) :
    Prop :=
  ∀ before after, actions = before ++ after → holds (performAll perform state before)

/-- A property holds in every state of a run exactly if it holds before every action and at the
end. -/
theorem throughout_iff_allAlong {perform : σ → α → Option σ} {holds : σ → Prop} {state : σ}
    {actions : List α} :
    Throughout perform holds state actions ↔
      AllAlong perform (fun before _ => holds before) state actions ∧
        holds (performAll perform state actions) := by
  induction actions generalizing state with
  | nil =>
      constructor
      · exact fun throughout => ⟨trivial, throughout [] [] rfl⟩
      · intro ⟨_, last⟩ before after split
        rw [(List.append_eq_nil_iff.mp split.symm).1]
        exact last
  | cons action rest ih =>
      constructor
      · intro throughout
        have later : Throughout perform holds (performOr perform state action) rest :=
          fun before after split =>
            throughout (action :: before) after (congrArg (action :: ·) split)
        exact ⟨⟨throughout [] (action :: rest) rfl, (ih.mp later).1⟩, (ih.mp later).2⟩
      · intro ⟨⟨first, others⟩, last⟩ before after split
        cases before with
        | nil => exact first
        | cons head before =>
            rcases List.cons_eq_cons.mp split with ⟨same, tail⟩
            cases same
            exact ih.mpr ⟨others, last⟩ before after tail

/-- What holds at the start and is kept by every action that meets a condition holds after a run
whose actions all meet it. -/
theorem AllAlong.invariant {perform : σ → α → Option σ} {condition : σ → α → Prop}
    {holds : σ → Prop}
    (kept : ∀ state action, holds state → condition state action →
      holds (performOr perform state action))
    {state : σ} {actions : List α} (along : AllAlong perform condition state actions)
    (first : holds state) : holds (performAll perform state actions) := by
  induction actions generalizing state with
  | nil => exact first
  | cons action rest ih => exact ih along.2 (kept state action first along.1)

theorem AllAlong.of_always {perform : σ → α → Option σ} {condition : σ → α → Prop}
    (always : ∀ state action, condition state action) {state : σ} {actions : List α} :
    AllAlong perform condition state actions := by
  induction actions generalizing state with
  | nil => trivial
  | cons action rest ih => exact ⟨always state action, ih⟩

theorem AllAlong.and {perform : σ → α → Option σ} {condition other : σ → α → Prop} {state : σ}
    {actions : List α} (one : AllAlong perform condition state actions)
    (another : AllAlong perform other state actions) :
    AllAlong perform (fun before action => condition before action ∧ other before action) state
      actions := by
  induction actions generalizing state with
  | nil => trivial
  | cons action rest ih => exact ⟨⟨one.1, another.1⟩, ih one.2 another.2⟩

/-- Where an action keeps a property exactly if it meets a condition, the property holds
throughout a run exactly if all its actions do. -/
theorem throughout_iff {perform : σ → α → Option σ} {sound holds : σ → Prop}
    {condition : σ → α → Prop}
    (kept : ∀ state action, sound state → sound (performOr perform state action))
    (exactly : ∀ state action, sound state → holds state →
      (holds (performOr perform state action) ↔ condition state action))
    {state : σ} {actions : List α} (sound : sound state) (first : holds state) :
    Throughout perform holds state actions ↔ AllAlong perform condition state actions := by
  induction actions generalizing state with
  | nil =>
      constructor
      · exact fun _ => trivial
      · intro _ before after split
        rw [(List.append_eq_nil_iff.mp split.symm).1]
        exact first
  | cons action rest ih =>
      constructor
      · intro throughout
        have next := throughout [action] rest rfl
        refine ⟨(exactly state action sound first).mp next, ?_⟩
        apply (ih (kept state action sound) next).mp
        intro before after split
        exact throughout (action :: before) after (congrArg (action :: ·) split)
      · intro ⟨met, others⟩ before after split
        cases before with
        | nil => exact first
        | cons head before =>
            rcases List.cons_eq_cons.mp split with ⟨same, tail⟩
            cases same
            have next := (exactly state action sound first).mpr met
            exact (ih (kept state action sound) next).mpr others before after tail

/-- Permitted and admissible actions lead to reachable states. -/
theorem reachable_performAll {initial : σ → Prop} {admissible : σ → α → Prop}
    {perform : σ → α → Option σ} {state : σ} {actions : List α}
    (reachable : (ofPerform initial admissible perform).Reachable permitted state)
    (along : AllAlong perform (fun before action =>
      permitted before action ∧ admissible before action) state actions) :
    (ofPerform initial admissible perform).Reachable permitted
      (performAll perform state actions) := by
  induction actions generalizing state with
  | nil => exact reachable
  | cons action rest ih =>
      rcases along with ⟨⟨allowed, admitted⟩, others⟩
      have head : (ofPerform initial admissible perform).Reachable permitted
          (performOr perform state action) := by
        cases performed : perform state action with
        | none =>
            rw [performOr, performed]
            exact reachable
        | some after =>
            rw [performOr, performed]
            exact .next reachable allowed ⟨admitted, performed⟩
      exact ih head others

/-! ## Runs of possible actions -/

/-- The state after several actions, if each of them is possible when it is taken. -/
def performEach (perform : σ → α → Option σ) (state : σ) (actions : List α) : Option σ :=
  actions.foldlM perform state

theorem performEach_cons {perform : σ → α → Option σ} {state final : σ} {action : α}
    {rest : List α} :
    performEach perform state (action :: rest) = some final ↔
      ∃ after, perform state action = some after ∧ performEach perform after rest = some final := by
  rw [performEach, List.foldlM_cons]
  exact Option.bind_eq_some_iff

/-- What holds at the start and is kept by every possible action holds at the end. -/
theorem performEach_invariant {perform : σ → α → Option σ} {holds : σ → Prop}
    (kept : ∀ state action after, holds state → perform state action = some after → holds after)
    {state final : σ} {actions : List α} (run : performEach perform state actions = some final)
    (first : holds state) : holds final := by
  induction actions generalizing state with
  | nil => exact Option.some.inj run ▸ first
  | cons action rest ih =>
      rcases performEach_cons.mp run with ⟨after, performed, others⟩
      exact ih others (kept state action after first performed)

/-- A run has no more actions than what they use up allows. -/
theorem length_le_of_performEach {perform : σ → α → Option σ} {remaining : σ → Nat}
    (spent : ∀ state action after, perform state action = some after →
      remaining after + 1 ≤ remaining state)
    {state final : σ} {actions : List α} (run : performEach perform state actions = some final) :
    actions.length + remaining final ≤ remaining state := by
  induction actions generalizing state with
  | nil =>
      cases Option.some.inj run
      exact Nat.le_of_eq (Nat.zero_add _)
  | cons action rest ih =>
      rcases performEach_cons.mp run with ⟨after, performed, others⟩
      have head := spent state action after performed
      have tail := ih others
      rw [List.length_cons]
      omega

end System

end Reputo.Library

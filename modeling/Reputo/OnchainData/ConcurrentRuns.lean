import Mathlib.Data.List.Perm.Basic
import Mathlib.Data.List.Range
import Reputo.OnchainData.MapWithConcurrency

/-!
# Runs of a bounded-concurrency map

What one event can do to the workers, and what holds of them in every run: each
index has been taken by one worker, the calls without a reply are those that
workers await, and the value of every index is the answer to its own call.
-/

namespace Reputo.OnchainData

open Reputo.Library

universe u v w x

section Runs

variable {α : Type u} {ρ : Type x} {β : Type v} {ε : Type w}

/-! ## Workers -/

/-- The index whose call the worker awaits. -/
def Worker.awaited? : Worker α β ε → Option Nat
  | .awaiting _ currentIndex => some currentIndex
  | _ => none

/-- The index the worker has taken and stored no value for. -/
def Worker.index? : Worker α β ε → Option Nat
  | .awaiting _ currentIndex => some currentIndex
  | .settled currentIndex _ => some currentIndex
  | .returned => none
  | .rejected currentIndex _ => some currentIndex

/-- The answer the worker holds, with the index of the call. -/
def Worker.answer? : Worker α β ε → Option (Nat × Except ε β)
  | .settled currentIndex answer => some (currentIndex, answer)
  | .rejected currentIndex reason => some (currentIndex, .error reason)
  | _ => none

/-- Whether the answer the worker holds is a failure. -/
def Worker.failed (worker : Worker α β ε) : Bool :=
  match worker.answer? with
  | some (_, .error _) => true
  | _ => false

/-- An entry of a list apart from the others, and what replacing it gives. -/
theorem exists_split_of_getElem? {γ : Type u} {entries : List γ} {position : Nat} {entry : γ}
    (found : entries[position]? = some entry) :
    ∃ before after, entries = before ++ entry :: after ∧
      ∀ other, entries.set position other = before ++ other :: after := by
  induction entries generalizing position with
  | nil => exact absurd found (by simp)
  | cons head rest ih =>
      cases position with
      | zero =>
          refine ⟨[], rest, ?_, fun other => rfl⟩
          rw [List.getElem?_cons_zero] at found
          rw [Option.some.inj found, List.nil_append]
      | succ position =>
          rw [List.getElem?_cons_succ] at found
          rcases ih found with ⟨before, after, whole, replaced⟩
          refine ⟨head :: before, after, ?_, fun other => ?_⟩
          · rw [whole, List.cons_append]
          · rw [List.set_cons_succ, replaced, List.cons_append]

/-! ## Steps -/

variable (items : List α) (mapItem : α → Nat → ρ → Except ε β)

/-- What an event can do. -/
inductive WorkerStep (state : ConcurrentMap α ρ β ε) : ConcurrentMap α ρ β ε → Prop where
  | settled {before after : List (Worker α β ε)} {item : α} {currentIndex : Nat} (reply : ρ)
      (held : state.workers = before ++ .awaiting item currentIndex :: after) :
      WorkerStep state { state with
        workers := before ++ .settled currentIndex (mapItem item currentIndex reply) :: after
        replies := state.replies ++ [(currentIndex, reply)] }
  | called {before after : List (Worker α β ε)} {currentIndex : Nat} {value : β} {item : α}
      (held : state.workers = before ++ .settled currentIndex (.ok value) :: after)
      (more : items[state.nextIndex]? = some item) :
      WorkerStep state { state with
        nextIndex := state.nextIndex + 1
        results := state.results.set currentIndex (some value)
        workers := before ++ .awaiting item state.nextIndex :: after
        calls := state.calls ++ [(item, state.nextIndex)] }
  | returned {before after : List (Worker α β ε)} {currentIndex : Nat} {value : β}
      (held : state.workers = before ++ .settled currentIndex (.ok value) :: after)
      (noMore : items.length ≤ state.nextIndex) :
      WorkerStep state (resolveAll { state with
        results := state.results.set currentIndex (some value)
        workers := before ++ .returned :: after })
  | rejected {before after : List (Worker α β ε)} {currentIndex : Nat} {reason : ε}
      (held : state.workers = before ++ .settled currentIndex (.error reason) :: after) :
      WorkerStep state { state with
        workers := before ++ .rejected currentIndex reason :: after
        promise := state.promise.or (some (.error reason)) }

variable {items mapItem}

/-- Nothing is resolved while a worker runs. -/
theorem resolveAll_of_awaiting {state : ConcurrentMap α ρ β ε} {item : α} {currentIndex : Nat}
    (running : Worker.awaiting item currentIndex ∈ state.workers) : resolveAll state = state := by
  rw [resolveAll, if_neg]
  intro allReturned
  exact Bool.false_ne_true (List.all_eq_true.mp allReturned _ running)

theorem workerStep_of_perform {state next : ConcurrentMap α ρ β ε} {event : WorkerEvent ρ}
    (performed : state.perform items mapItem event = some next) :
    WorkerStep items mapItem state next := by
  cases event with
  | settles worker reply =>
      simp only [ConcurrentMap.perform] at performed
      split at performed
      case h_2 => cases performed
      case h_1 item currentIndex found =>
          rcases exists_split_of_getElem? found with ⟨before, after, held, replaced⟩
          rw [← Option.some.inj performed, replaced]
          exact .settled reply held
  | resumes worker =>
      simp only [ConcurrentMap.perform] at performed
      split at performed
      case h_3 => cases performed
      case h_1 currentIndex value found =>
          rcases exists_split_of_getElem? found with ⟨before, after, held, replaced⟩
          cases more : items[state.nextIndex]? with
          | none =>
              simp only [nextRound, more, replaced] at performed
              rw [← Option.some.inj performed]
              exact .returned held (List.getElem?_eq_none_iff.mp more)
          | some item =>
              simp only [nextRound, more, replaced] at performed
              rw [← Option.some.inj performed, resolveAll_of_awaiting
                (List.mem_append_right before List.mem_cons_self)]
              exact .called held more
      case h_2 currentIndex reason found =>
          rcases exists_split_of_getElem? found with ⟨before, after, held, replaced⟩
          rw [← Option.some.inj performed, replaced]
          exact .rejected held

/-! ## Runs end -/

/-- Events that a worker still takes part in for the item it has taken. -/
def Worker.remaining : Worker α β ε → Nat
  | .awaiting _ _ => 2
  | .settled _ _ => 1
  | _ => 0

/-- Events that are still possible. -/
def ConcurrentMap.remaining (items : List α) (state : ConcurrentMap α ρ β ε) : Nat :=
  2 * (items.length - state.nextIndex) + (state.workers.map Worker.remaining).sum

theorem remaining_resolveAll (state : ConcurrentMap α ρ β ε) :
    (resolveAll state).remaining items = state.remaining items := by
  rw [resolveAll]
  split <;> rfl

theorem remaining_of_step {state next : ConcurrentMap α ρ β ε}
    (step : WorkerStep items mapItem state next) :
    next.remaining items + 1 ≤ state.remaining items := by
  cases step with
  | settled reply held =>
      simp only [ConcurrentMap.remaining, held, Worker.remaining, List.map_append, List.map_cons,
        List.sum_append_nat, List.sum_cons]
      omega
  | called held more =>
      have inside := (List.getElem?_eq_some_iff.mp more).1
      simp only [ConcurrentMap.remaining, held, Worker.remaining, List.map_append, List.map_cons,
        List.sum_append_nat, List.sum_cons]
      omega
  | returned held noMore =>
      rw [remaining_resolveAll]
      simp only [ConcurrentMap.remaining, held, Worker.remaining, List.map_append, List.map_cons,
        List.sum_append_nat, List.sum_cons]
      omega
  | rejected held =>
      simp only [ConcurrentMap.remaining, held, Worker.remaining, List.map_append, List.map_cons,
        List.sum_append_nat, List.sum_cons]
      omega

/-! ## Calls and replies -/

/-- The calls made are those of the first items, in order; each has either had its one reply or
is awaited by a worker. -/
structure CallsInOrder (items : List α) (state : ConcurrentMap α ρ β ε) : Prop where
  calls : state.calls = items.zipIdx.take state.nextIndex
  bounded : state.nextIndex ≤ items.length
  awaited : ∀ item currentIndex, Worker.awaiting item currentIndex ∈ state.workers →
    items[currentIndex]? = some item
  replied : (state.workers.filterMap Worker.awaited? ++ state.replies.map Prod.fst).Perm
    (List.range state.nextIndex)

theorem CallsInOrder.resolveAll {state : ConcurrentMap α ρ β ε}
    (sound : CallsInOrder items state) : CallsInOrder items (resolveAll state) := by
  rw [OnchainData.resolveAll]
  split
  · exact ⟨sound.calls, sound.bounded, sound.awaited, sound.replied⟩
  · exact sound

/-- A worker that awaits no call may come to its end. -/
theorem CallsInOrder.ofEnded {state next : ConcurrentMap α ρ β ε}
    (sound : CallsInOrder items state) {before after : List (Worker α β ε)} {currentIndex : Nat}
    {answer : Except ε β} {last : Worker α β ε}
    (held : state.workers = before ++ .settled currentIndex answer :: after)
    (replaced : next.workers = before ++ last :: after) (ended : last.awaited? = none)
    (nextIndex : next.nextIndex = state.nextIndex)
    (history : (next.calls, next.replies) = (state.calls, state.replies)) :
    CallsInOrder items next := by
  rcases Prod.mk.inj history with ⟨calls, replies⟩
  have replied := sound.replied
  rw [held, List.filterMap_append, List.filterMap_cons_none rfl] at replied
  refine ⟨?_, nextIndex ▸ sound.bounded, ?_, ?_⟩
  · rw [calls, nextIndex]
    exact sound.calls
  · intro item index running
    apply sound.awaited
    rw [replaced, List.mem_append, List.mem_cons] at running
    rw [held, List.mem_append, List.mem_cons]
    rcases running with earlier | rfl | later
    · exact .inl earlier
    · cases ended
    · exact .inr (.inr later)
  · rw [replaced, replies, nextIndex, List.filterMap_append, List.filterMap_cons_none ended]
    exact replied

theorem CallsInOrder.step {state next : ConcurrentMap α ρ β ε} (sound : CallsInOrder items state)
    (step : WorkerStep items mapItem state next) : CallsInOrder items next := by
  have replied := sound.replied
  have awaited := sound.awaited
  cases step with
  | settled reply held =>
      rename_i before after item currentIndex
      rw [held] at replied awaited
      refine ⟨sound.calls, sound.bounded, ?_, ?_⟩
      · intro other index running
        apply awaited
        simp only [List.mem_append, List.mem_cons, reduceCtorEq, false_or] at running ⊢
        exact running.imp id .inr
      · refine List.Perm.trans ?_ replied
        simp only [List.filterMap_append, List.filterMap_cons, Worker.awaited?, List.map_append,
          List.map_cons, List.map_nil, List.append_assoc]
        apply List.Perm.append_left
        -- the index moves from the worker to the end of the replies
        rw [← List.append_assoc]
        exact List.perm_append_singleton _ _
  | called held more =>
      rename_i before after currentIndex value item
      rw [held] at replied awaited
      have inside := (List.getElem?_eq_some_iff.mp more).1
      refine ⟨?_, inside, ?_, ?_⟩
      · show state.calls ++ [(item, state.nextIndex)] = items.zipIdx.take (state.nextIndex + 1)
        rw [sound.calls, List.take_add_one, List.getElem?_zipIdx, more]
        simp
      · intro other index running
        simp only [List.mem_append, List.mem_cons, Worker.awaiting.injEq] at running
        rcases running with earlier | ⟨rfl, rfl⟩ | later
        · exact awaited other index (List.mem_append_left _ earlier)
        · exact more
        · exact awaited other index (List.mem_append_right _ (List.mem_cons_of_mem _ later))
      · rw [List.range_succ]
        refine List.Perm.trans ?_ (List.Perm.append_right [state.nextIndex] replied)
        simp only [List.filterMap_append, List.filterMap_cons, Worker.awaited?, List.append_assoc]
        apply List.Perm.append_left
        rw [← List.append_assoc]
        exact (List.perm_append_singleton _ _).symm
  | returned held noMore =>
      apply CallsInOrder.resolveAll
      exact sound.ofEnded held rfl rfl rfl rfl
  | rejected held => exact sound.ofEnded held rfl rfl rfl rfl

/-! ## Answers and results -/

/-- A call had this answer. -/
def AnswerOf (items : List α) (mapItem : α → Nat → ρ → Except ε β)
    (replies : List (Nat × ρ)) (currentIndex : Nat) (answer : Except ε β) : Prop :=
  ∃ item reply, items[currentIndex]? = some item ∧ (currentIndex, reply) ∈ replies ∧
    mapItem item currentIndex reply = answer

theorem AnswerOf.later {replies : List (Nat × ρ)} {currentIndex : Nat} {answer : Except ε β}
    (given : AnswerOf items mapItem replies currentIndex answer) (others : List (Nat × ρ)) :
    AnswerOf items mapItem (replies ++ others) currentIndex answer := by
  rcases given with ⟨item, reply, located, member, same⟩
  exact ⟨item, reply, located, List.mem_append_left _ member, same⟩

/-- The value at every index taken is the answer to its call, or a worker still has the index;
a worker that has returned left none over. -/
structure ResultsInPlace (items : List α) (mapItem : α → Nat → ρ → Except ε β)
    (state : ConcurrentMap α ρ β ε) : Prop where
  length : state.results.length = items.length
  taken : ∀ index < state.nextIndex, (∃ value, state.results[index]? = some (some value)) ∨
    ∃ worker ∈ state.workers, worker.index? = some index
  answered : ∀ worker ∈ state.workers, ∀ index answer, worker.answer? = some (index, answer) →
    AnswerOf items mapItem state.replies index answer
  stored : ∀ index value, state.results[index]? = some (some value) →
    AnswerOf items mapItem state.replies index (.ok value)
  returned : Worker.returned ∈ state.workers → items.length ≤ state.nextIndex

theorem ResultsInPlace.resolveAll {state : ConcurrentMap α ρ β ε}
    (sound : ResultsInPlace items mapItem state) :
    ResultsInPlace items mapItem (resolveAll state) := by
  rw [OnchainData.resolveAll]
  split
  · exact ⟨sound.length, sound.taken, sound.answered, sound.stored, sound.returned⟩
  · exact sound

/-- A worker stores its value and goes on with `next`. -/
theorem ResultsInPlace.store {state next : ConcurrentMap α ρ β ε}
    (sound : ResultsInPlace items mapItem state) {before after : List (Worker α β ε)}
    {currentIndex : Nat} {value : β} {last : Worker α β ε}
    (held : state.workers = before ++ .settled currentIndex (.ok value) :: after)
    (replaced : next.workers = before ++ last :: after)
    (results : next.results = state.results.set currentIndex (some value))
    (replies : next.replies = state.replies) (unanswered : last.answer? = none)
    (taken : ∀ index < next.nextIndex, index < state.nextIndex ∨ last.index? = some index)
    (returned : Worker.returned ∈ next.workers → items.length ≤ next.nextIndex) :
    ResultsInPlace items mapItem next := by
  have own : Worker.settled currentIndex (.ok value) ∈ state.workers := by
    rw [held]
    exact List.mem_append_right _ List.mem_cons_self
  have answer := sound.answered _ own currentIndex (.ok value) rfl
  have inside : currentIndex < state.results.length := by
    rcases answer with ⟨item, reply, located, _⟩
    rw [sound.length]
    exact (List.getElem?_eq_some_iff.mp located).1
  refine ⟨?_, ?_, ?_, ?_, returned⟩
  · rw [results, List.length_set]
    exact sound.length
  · intro index smaller
    rcases taken index smaller with earlier | new
    · by_cases same : currentIndex = index
      · left
        exact ⟨value, by rw [results, same, List.getElem?_set_self (same ▸ inside)]⟩
      · rcases sound.taken index earlier with ⟨other, there⟩ | ⟨worker, member, taken⟩
        · left
          exact ⟨other, by rw [results, List.getElem?_set_ne same, there]⟩
        · right
          refine ⟨worker, ?_, taken⟩
          rw [held, List.mem_append, List.mem_cons] at member
          rw [replaced, List.mem_append, List.mem_cons]
          rcases member with earlier | rfl | later
          · exact .inl earlier
          · exact absurd (Option.some.inj taken) same
          · exact .inr (.inr later)
    · right
      exact ⟨last, replaced ▸ List.mem_append_right _ List.mem_cons_self, new⟩
  · intro worker member index answer given
    rw [replies]
    apply sound.answered worker ?_ index answer given
    rw [replaced, List.mem_append, List.mem_cons] at member
    rw [held, List.mem_append, List.mem_cons]
    rcases member with earlier | rfl | later
    · exact .inl earlier
    · rw [unanswered] at given
      cases given
    · exact .inr (.inr later)
  · intro index found there
    rw [replies]
    rw [results, List.getElem?_set, if_pos inside] at there
    split at there
    case isFalse => exact sound.stored index found there
    case isTrue same =>
        cases there
        exact same ▸ answer

/-- A worker goes on with the index it has taken. -/
theorem ResultsInPlace.keep {state next : ConcurrentMap α ρ β ε}
    (sound : ResultsInPlace items mapItem state) {before after : List (Worker α β ε)}
    {currentIndex : Nat} {answer : Except ε β} {old last : Worker α β ε}
    (held : state.workers = before ++ old :: after)
    (replaced : next.workers = before ++ last :: after)
    (unchanged : (next.nextIndex, next.results) = (state.nextIndex, state.results))
    {others : List (Nat × ρ)} (replies : next.replies = state.replies ++ others)
    (own : last.index? = old.index?) (given : last.answer? = some (currentIndex, answer))
    (answered : AnswerOf items mapItem next.replies currentIndex answer) :
    ResultsInPlace items mapItem next := by
  rcases Prod.mk.inj unchanged with ⟨nextIndex, results⟩
  refine ⟨results ▸ sound.length, ?_, ?_, ?_, ?_⟩
  · intro index smaller
    rw [results]
    rcases sound.taken index (nextIndex ▸ smaller) with there | ⟨worker, member, taken⟩
    · exact .inl there
    · right
      rw [held, List.mem_append, List.mem_cons] at member
      rcases member with earlier | rfl | later
      · exact ⟨worker, replaced ▸ List.mem_append_left _ earlier, taken⟩
      · exact ⟨last, replaced ▸ List.mem_append_right _ List.mem_cons_self, own.trans taken⟩
      · exact ⟨worker,
          replaced ▸ List.mem_append_right _ (List.mem_cons_of_mem _ later), taken⟩
  · intro worker member index reached there
    rw [replaced, List.mem_append, List.mem_cons] at member
    by_cases new : worker = last
    · rw [new, given] at there
      cases there
      exact answered
    · rw [replies]
      apply AnswerOf.later
      apply sound.answered worker ?_ index reached there
      rw [held, List.mem_append, List.mem_cons]
      exact member.imp id fun tail => .inr (tail.resolve_left new)
  · intro index value there
    rw [replies]
    exact (sound.stored index value (results ▸ there)).later others
  · intro ended
    rw [nextIndex]
    apply sound.returned
    rw [replaced, List.mem_append, List.mem_cons] at ended
    rw [held, List.mem_append, List.mem_cons]
    rcases ended with earlier | rfl | later
    · exact .inl earlier
    · cases given
    · exact .inr (.inr later)

theorem ResultsInPlace.step {state next : ConcurrentMap α ρ β ε}
    (sound : ResultsInPlace items mapItem state) (ordered : CallsInOrder items state)
    (step : WorkerStep items mapItem state next) : ResultsInPlace items mapItem next := by
  cases step with
  | settled reply held =>
      rename_i before after item currentIndex
      refine sound.keep held rfl rfl rfl rfl rfl ?_
      have located := ordered.awaited item currentIndex (by
        rw [held]
        exact List.mem_append_right _ List.mem_cons_self)
      exact ⟨item, reply, located, List.mem_append_right _ List.mem_cons_self, rfl⟩
  | called held more =>
      refine sound.store held rfl rfl rfl rfl ?_ ?_
      · intro index smaller
        rcases Nat.lt_succ_iff_lt_or_eq.mp smaller with earlier | rfl
        · exact .inl earlier
        · exact .inr rfl
      · intro ended
        have inside := (List.getElem?_eq_some_iff.mp more).1
        have earlier := sound.returned (by
          rw [held]
          simp only [List.mem_append, List.mem_cons, reduceCtorEq, false_or] at ended ⊢
          exact ended)
        omega
  | returned held noMore =>
      apply ResultsInPlace.resolveAll
      exact sound.store held rfl rfl rfl rfl (fun _ smaller => .inl smaller) fun _ => noMore
  | rejected held =>
      rename_i before after currentIndex reason
      refine sound.keep held rfl rfl (List.append_nil _).symm rfl rfl ?_
      have own : Worker.settled currentIndex (.error reason) ∈ state.workers := by
        rw [held]
        exact List.mem_append_right _ List.mem_cons_self
      exact sound.answered _ own _ _ rfl

/-! ## Failures -/

/-- Whether a reply makes the call it settles fail. -/
def fails (items : List α) (mapItem : α → Nat → ρ → Except ε β) (entry : Nat × ρ) : Bool :=
  match items[entry.1]?.map fun item => mapItem item entry.1 entry.2 with
  | some (.error _) => true
  | _ => false

/-- How many calls have failed. -/
def ConcurrentMap.failures (items : List α) (mapItem : α → Nat → ρ → Except ε β)
    (state : ConcurrentMap α ρ β ε) : Nat :=
  state.replies.countP (fails items mapItem)

/-- Every failed call has taken one worker with it. -/
def FailuresHeld (items : List α) (mapItem : α → Nat → ρ → Except ε β)
    (state : ConcurrentMap α ρ β ε) : Prop :=
  state.workers.countP Worker.failed = state.failures items mapItem

theorem FailuresHeld.resolveAll {state : ConcurrentMap α ρ β ε}
    (sound : FailuresHeld items mapItem state) : FailuresHeld items mapItem (resolveAll state) := by
  rw [OnchainData.resolveAll]
  split
  · exact sound
  · exact sound

theorem fails_eq_failed {item : α} {currentIndex : Nat} {reply : ρ}
    (located : items[currentIndex]? = some item) :
    fails items mapItem (currentIndex, reply) =
      (Worker.settled currentIndex (mapItem item currentIndex reply) : Worker α β ε).failed := by
  rw [fails, located, Option.map_some, Worker.failed, Worker.answer?]
  cases mapItem item currentIndex reply <;> rfl

theorem FailuresHeld.step {state next : ConcurrentMap α ρ β ε}
    (sound : FailuresHeld items mapItem state) (ordered : CallsInOrder items state)
    (step : WorkerStep items mapItem state next) : FailuresHeld items mapItem next := by
  rw [FailuresHeld, ConcurrentMap.failures] at sound
  cases step with
  | settled reply held =>
      rename_i before after item currentIndex
      have located := ordered.awaited item currentIndex (by
        rw [held]
        exact List.mem_append_right _ List.mem_cons_self)
      have awaiting : (Worker.awaiting item currentIndex : Worker α β ε).failed = false := rfl
      rw [FailuresHeld, ConcurrentMap.failures]
      simp only [held, List.countP_append, List.countP_cons, List.countP_nil, awaiting,
        fails_eq_failed located, Bool.false_eq_true, if_false] at sound ⊢
      omega
  | called held more =>
      rw [held] at sound
      rw [FailuresHeld, ConcurrentMap.failures, ← sound]
      simp [Worker.failed, Worker.answer?]
  | returned held noMore =>
      apply FailuresHeld.resolveAll
      rw [held] at sound
      rw [FailuresHeld, ConcurrentMap.failures, ← sound]
      simp [Worker.failed, Worker.answer?]
  | rejected held =>
      rw [held] at sound
      rw [FailuresHeld, ConcurrentMap.failures, ← sound]
      simp [List.countP_cons, Worker.failed, Worker.answer?]

/-! ## How the promise settles -/

/-- The promise is resolved with the results once all workers have returned, and rejected with
the reason of one that was rejected. -/
structure PromiseFollows (state : ConcurrentMap α ρ β ε) : Prop where
  resolved : ∀ results, state.promise = some (.ok results) →
    (∀ worker ∈ state.workers, worker = .returned) ∧ results = state.results
  rejected : ∀ reason, state.promise = some (.error reason) →
    ∃ currentIndex, Worker.rejected currentIndex reason ∈ state.workers
  pending : state.promise = none →
    (∀ worker ∈ state.workers, ∀ currentIndex reason, worker ≠ .rejected currentIndex reason) ∧
      ∃ worker ∈ state.workers, worker ≠ .returned

theorem allReturned_iff {workers : List (Worker α β ε)} :
    (workers.all fun worker =>
      match worker with
      | .returned => true
      | _ => false) = true ↔ ∀ worker ∈ workers, worker = .returned := by
  rw [List.all_eq_true]
  constructor
  · intro all worker member
    have own := all worker member
    cases worker with
    | returned => rfl
    | _ => cases own
  · intro all worker member
    rw [all worker member]

/-- A worker that awaited its call goes on, and does not return. -/
theorem PromiseFollows.running {state next : ConcurrentMap α ρ β ε}
    (sound : PromiseFollows state) {before after : List (Worker α β ε)} {old last : Worker α β ε}
    (held : state.workers = before ++ old :: after)
    (replaced : next.workers = before ++ last :: after) (promise : next.promise = state.promise)
    (unended : old.ended = false) (running : last.ended = false) : PromiseFollows next := by
  have own : old ∈ state.workers := held ▸ List.mem_append_right _ List.mem_cons_self
  have new : last ∈ next.workers := replaced ▸ List.mem_append_right _ List.mem_cons_self
  refine ⟨?_, ?_, ?_⟩
  · intro results settled
    have all := (sound.resolved results (promise ▸ settled)).1 old own
    rw [all] at unended
    cases unended
  · intro reason settled
    rcases sound.rejected reason (promise ▸ settled) with ⟨currentIndex, member⟩
    refine ⟨currentIndex, ?_⟩
    rw [held, List.mem_append, List.mem_cons] at member
    rw [replaced, List.mem_append, List.mem_cons]
    rcases member with earlier | rfl | later
    · exact .inl earlier
    · cases unended
    · exact .inr (.inr later)
  · intro unsettled
    refine ⟨?_, last, new, fun same => ?_⟩
    · intro worker member currentIndex reason same
      rw [replaced, List.mem_append, List.mem_cons] at member
      have earlier := (sound.pending (promise ▸ unsettled)).1 worker
      rw [held, List.mem_append, List.mem_cons] at earlier
      rcases member with before | rfl | after
      · exact earlier (.inl before) currentIndex reason same
      · rw [same] at running
        cases running
      · exact earlier (.inr (.inr after)) currentIndex reason same
    · rw [same] at running
      cases running

/-- What `Promise.all` makes of workers of which it has not seen the last. -/
theorem PromiseFollows.ofResolveAll {state : ConcurrentMap α ρ β ε}
    (unresolved : ∀ results, state.promise ≠ some (.ok results))
    (rejected : ∀ reason, state.promise = some (.error reason) →
      ∃ currentIndex, Worker.rejected currentIndex reason ∈ state.workers)
    (pending : state.promise = none →
      ∀ worker ∈ state.workers, ∀ currentIndex reason, worker ≠ .rejected currentIndex reason) :
    PromiseFollows (resolveAll state) := by
  rw [resolveAll]
  split
  case isTrue all =>
      have returned := allReturned_iff.mp all
      cases settled : state.promise with
      | none =>
          refine ⟨?_, ?_, ?_⟩
          · intro results same
            cases same
            exact ⟨returned, rfl⟩
          · intro reason same
            cases same
          · intro same
            cases same
      | some outcome =>
          cases outcome with
          | ok results => exact absurd settled (unresolved results)
          | error reason =>
              rcases rejected reason settled with ⟨currentIndex, member⟩
              cases returned _ member
  case isFalse some =>
      refine ⟨fun results same => absurd same (unresolved results), rejected, ?_⟩
      intro unsettled
      refine ⟨pending unsettled, ?_⟩
      by_contra none
      apply some
      apply allReturned_iff.mpr
      intro worker member
      by_contra other
      exact none ⟨worker, member, other⟩

theorem PromiseFollows.step {state next : ConcurrentMap α ρ β ε} (sound : PromiseFollows state)
    (step : WorkerStep items mapItem state next) : PromiseFollows next := by
  cases step with
  | settled reply held => exact sound.running held rfl rfl rfl rfl
  | called held more => exact sound.running held rfl rfl rfl rfl
  | returned held noMore =>
      rename_i before after currentIndex value
      have own : Worker.settled currentIndex (.ok value) ∈ state.workers := by
        rw [held]
        exact List.mem_append_right _ List.mem_cons_self
      apply PromiseFollows.ofResolveAll
      · intro results settled
        cases (sound.resolved results settled).1 _ own
      · intro reason settled
        rcases sound.rejected reason settled with ⟨index, member⟩
        rw [held] at member
        simp only [List.mem_append, List.mem_cons, reduceCtorEq, false_or] at member ⊢
        exact ⟨index, member⟩
      · intro unsettled worker member
        have others := (sound.pending unsettled).1 worker
        rw [held] at others
        simp only [List.mem_append, List.mem_cons] at member others
        rcases member with earlier | rfl | later
        · exact others (.inl earlier)
        · intro _ _ same
          cases same
        · exact others (.inr (.inr later))
  | rejected held =>
      rename_i before after currentIndex reason
      have own : Worker.settled currentIndex (.error reason) ∈ state.workers := by
        rw [held]
        exact List.mem_append_right _ List.mem_cons_self
      cases settled : state.promise with
      | none =>
          refine ⟨?_, ?_, ?_⟩
          · intro results same
            cases same
          · intro other same
            cases same
            exact ⟨currentIndex, List.mem_append_right _ List.mem_cons_self⟩
          · intro same
            cases same
      | some outcome =>
          refine ⟨?_, ?_, ?_⟩
          · intro results same
            cases same
            cases (sound.resolved results settled).1 _ own
          · intro other same
            cases same
            rcases sound.rejected other settled with ⟨index, member⟩
            rw [held] at member
            refine ⟨index, ?_⟩
            simp only [List.mem_append, List.mem_cons, reduceCtorEq, false_or] at member ⊢
            exact member.imp id .inr
          · intro same
            cases same

end Runs

end Reputo.OnchainData

import Mathlib.Data.Rat.Floor
import Mathlib.Order.WithBot
import Reputo.Library.System

/-!
# Mapping with bounded concurrency

`mapWithConcurrency` starts a number of workers that share the index of the next
item.  A worker takes the next index, calls `mapItem` and awaits it, stores the
value, and takes another index until none is left.  `Promise.all` resolves when
all workers have returned and rejects when the first one rejects; the others go
on even then.

A call of `mapItem` is settled by a reply from outside; when it comes, and in
which order workers with a settled call are resumed, is left open.
-/

namespace Reputo.OnchainData

open Reputo.Library

universe u v w x

/-- Where a call of `runWorker` stands. -/
inductive Worker (α : Type u) (β : Type v) (ε : Type w) where
  /-- It awaits the call of `mapItem` for an item. -/
  | awaiting (item : α) (currentIndex : Nat)
  /-- The call has settled, and the worker has not been resumed. -/
  | settled (currentIndex : Nat) (answer : Except ε β)
  | returned
  /-- The call was rejected, and the worker with it. -/
  | rejected (currentIndex : Nat) (reason : ε)
  deriving DecidableEq

/-- Whether the worker has come to its end. -/
def Worker.ended {α : Type u} {β : Type v} {ε : Type w} : Worker α β ε → Bool
  | .awaiting _ _ => false
  | .settled _ _ => false
  | .returned => true
  | .rejected _ _ => true

/-- The variables of one call of `mapWithConcurrency`, with the calls of `mapItem` made and the
replies that settled them. -/
structure ConcurrentMap (α : Type u) (ρ : Type x) (β : Type v) (ε : Type w) where
  nextIndex : Nat := 0
  /-- The array of results, which starts with holes. -/
  results : List (Option β)
  workers : List (Worker α β ε) := []
  calls : List (α × Nat) := []
  replies : List (Nat × ρ) := []
  /-- How `Promise.all` has settled. -/
  promise : Option (Except ε (List (Option β))) := none
  deriving DecidableEq

/-- What happens while workers run. -/
inductive WorkerEvent (ρ : Type x) where
  /-- A reply settles the call that a worker awaits. -/
  | settles (worker : Nat) (reply : ρ)
  /-- A worker is resumed with what its call came to. -/
  | resumes (worker : Nat)
  deriving DecidableEq

section Model

variable {α : Type u} {ρ : Type x} {β : Type v} {ε : Type w}

/-- One round at the head of the worker's loop: the next index is taken and `mapItem` called. -/
def nextRound (items : List α) (state : ConcurrentMap α ρ β ε) :
    ConcurrentMap α ρ β ε × Worker α β ε :=
  let currentIndex := state.nextIndex
  match items[currentIndex]? with
  | none => (state, .returned)
  | some item =>
      ({ state with
          nextIndex := currentIndex + 1
          calls := state.calls ++ [(item, currentIndex)] },
        .awaiting item currentIndex)

/-- Start `count` workers, each of which runs until its first `await`. -/
def startWorkers (items : List α) : Nat → ConcurrentMap α ρ β ε → ConcurrentMap α ρ β ε
  | 0, state => state
  | count + 1, state =>
      let (after, worker) := nextRound items state
      startWorkers items count { after with workers := after.workers ++ [worker] }

/-- `Promise.all` resolves with the results once every worker has returned. -/
def resolveAll (state : ConcurrentMap α ρ β ε) : ConcurrentMap α ρ β ε :=
  let allReturned := state.workers.all fun worker =>
    match worker with
    | .returned => true
    | _ => false
  if allReturned then { state with promise := state.promise.or (some (.ok state.results)) }
  else state

/-- `Math.min(concurrency, items.length)`, cut to an integer as the length of an array is;
`⊤` is `Infinity`. -/
def workerCount (concurrency : WithTop ℚ) (length : Nat) : Nat :=
  match concurrency with
  | none => length
  | some limit => ⌊min limit length⌋₊

/-- The state when `mapWithConcurrency` has returned its promise. -/
def mapWithConcurrency (items : List α) (concurrency : WithTop ℚ) : ConcurrentMap α ρ β ε :=
  if items.length = 0 then { results := [], promise := some (.ok []) }
  else
    resolveAll (startWorkers items (workerCount concurrency items.length)
      { results := List.replicate items.length none })

variable (items : List α) (mapItem : α → Nat → ρ → Except ε β)

def ConcurrentMap.perform (state : ConcurrentMap α ρ β ε) :
    WorkerEvent ρ → Option (ConcurrentMap α ρ β ε)
  | .settles worker reply =>
      match state.workers[worker]? with
      | some (.awaiting item currentIndex) =>
          some { state with
            workers := state.workers.set worker
              (.settled currentIndex (mapItem item currentIndex reply))
            replies := state.replies ++ [(currentIndex, reply)] }
      | _ => none
  | .resumes worker =>
      match state.workers[worker]? with
      | some (.settled currentIndex (.ok value)) =>
          let stored := { state with results := state.results.set currentIndex (some value) }
          let (after, next) := nextRound items stored
          some (resolveAll { after with workers := after.workers.set worker next })
      | some (.settled currentIndex (.error reason)) =>
          some { state with
            workers := state.workers.set worker (.rejected currentIndex reason)
            promise := state.promise.or (some (.error reason)) }
      | _ => none

/-- The state after the events of a run. -/
def ConcurrentMap.run (state : ConcurrentMap α ρ β ε) (events : List (WorkerEvent ρ)) :
    Option (ConcurrentMap α ρ β ε) :=
  System.performEach (ConcurrentMap.perform items mapItem) state events

end Model

end Reputo.OnchainData

import Reputo.OnchainData.ConcurrentRuns

/-!
# What a bounded-concurrency map comes to

The invariants of the workers hold when they start and hence in every run.  From
them follow how often `mapItem` is called, how many calls are in flight, and what
the promise is settled with.
-/

namespace Reputo.OnchainData

open Reputo.Library

universe u v w x

section Results

variable {α : Type u} {ρ : Type x} {β : Type v} {ε : Type w}
variable {items : List α} {mapItem : α → Nat → ρ → Except ε β}

/-! ## The start -/

theorem workerCount_le (concurrency : WithTop ℚ) (length : Nat) :
    workerCount concurrency length ≤ length := by
  cases concurrency with
  | top => exact Nat.le_refl _
  | coe limit =>
      have below : ⌊min limit length⌋₊ ≤ ⌊(length : ℚ)⌋₊ := Nat.floor_mono (min_le_right _ _)
      rwa [Nat.floor_natCast] at below

theorem workerCount_pos {concurrency : WithTop ℚ} {length : Nat} (atLeastOne : 1 ≤ concurrency)
    (nonempty : 0 < length) : 0 < workerCount concurrency length := by
  cases concurrency with
  | top => exact nonempty
  | coe limit =>
      have one : (1 : ℚ) ≤ limit := WithTop.coe_le_coe.mp atLeastOne
      have some : (1 : ℚ) ≤ length := by exact_mod_cast nonempty
      exact Nat.floor_pos.mpr (le_min one some)

theorem workerCount_le_concurrency {concurrency : WithTop ℚ} (length : Nat)
    (atLeastOne : 1 ≤ concurrency) : (workerCount concurrency length : WithTop ℚ) ≤ concurrency := by
  cases concurrency with
  | top => exact le_top
  | coe limit =>
      have one : (1 : ℚ) ≤ limit := WithTop.coe_le_coe.mp atLeastOne
      have nonnegative : 0 ≤ min limit (length : ℚ) :=
        le_min (zero_le_one.trans one) (Nat.cast_nonneg length)
      have below : ((⌊min limit length⌋₊ : Nat) : ℚ) ≤ limit :=
        (Nat.floor_le nonnegative).trans (min_le_left _ _)
      exact_mod_cast below

/-- Workers start with the next items, one each, while there are enough of them. -/
theorem startWorkers_eq {count : Nat} {state : ConcurrentMap α ρ β ε}
    (room : state.nextIndex + count ≤ items.length) :
    startWorkers items count state =
      let first := (items.zipIdx.drop state.nextIndex).take count
      { state with
        nextIndex := state.nextIndex + count
        calls := state.calls ++ first
        workers := state.workers ++ first.map fun call => .awaiting call.1 call.2 } := by
  induction count generalizing state with
  | zero => simp [startWorkers]
  | succ count ih =>
      have inside : state.nextIndex < items.length := by omega
      have more : items[state.nextIndex]? = some items[state.nextIndex] :=
        List.getElem?_eq_getElem inside
      have first : (items.zipIdx.drop state.nextIndex).take (count + 1) =
          (items[state.nextIndex], state.nextIndex) ::
            (items.zipIdx.drop (state.nextIndex + 1)).take count := by
        rw [List.drop_eq_getElem_cons (by rwa [List.length_zipIdx]), List.take_succ_cons,
          List.getElem_zipIdx, Nat.zero_add]
      simp only [startWorkers, nextRound, more]
      rw [ih (by simpa [Nat.add_assoc, Nat.add_comm 1] using room)]
      simp [first, Nat.add_assoc, Nat.add_comm 1]

/-- What holds in every state of a run. -/
structure ConcurrentMap.Sound (items : List α) (mapItem : α → Nat → ρ → Except ε β)
    (state : ConcurrentMap α ρ β ε) : Prop where
  ordered : CallsInOrder items state
  inPlace : ResultsInPlace items mapItem state
  failures : FailuresHeld items mapItem state
  promise : PromiseFollows state

theorem ConcurrentMap.Sound.step {state next : ConcurrentMap α ρ β ε}
    (sound : state.Sound items mapItem) (step : WorkerStep items mapItem state next) :
    next.Sound items mapItem where
  ordered := sound.ordered.step step
  inPlace := sound.inPlace.step sound.ordered step
  failures := sound.failures.step sound.ordered step
  promise := sound.promise.step step

/-- The workers when the first calls have been made. -/
def firstCalls (items : List α) (count : Nat) : ConcurrentMap α ρ β ε where
  nextIndex := count
  results := List.replicate items.length none
  workers := (items.zipIdx.take count).map fun call => .awaiting call.1 call.2
  calls := items.zipIdx.take count

theorem awaiting_of_mem_firstCalls {count : Nat} {worker : Worker α β ε}
    (member : worker ∈ (firstCalls items count : ConcurrentMap α ρ β ε).workers) :
    ∃ item index, items[index]? = some item ∧ worker = .awaiting item index := by
  rcases List.mem_map.mp member with ⟨call, first, rfl⟩
  exact ⟨call.1, call.2, List.mem_zipIdx_iff_getElem?.mp (List.mem_of_mem_take first), rfl⟩

theorem map_snd_take_zipIdx {count : Nat} (room : count ≤ items.length) :
    (items.zipIdx.take count).map Prod.snd = List.range count := by
  rw [List.map_take, List.zipIdx_map_snd, ← List.range_eq_range', List.take_range,
    Nat.min_eq_left room]

theorem firstCalls_ordered {count : Nat} (room : count ≤ items.length) :
    CallsInOrder items (firstCalls items count : ConcurrentMap α ρ β ε) where
  calls := rfl
  bounded := room
  awaited item currentIndex member := by
    rcases awaiting_of_mem_firstCalls member with ⟨other, index, located, same⟩
    cases same
    exact located
  replied := by
    simp only [firstCalls, List.filterMap_map, Function.comp_def, Worker.awaited?, List.map_nil,
      List.append_nil, List.filterMap_eq_map', map_snd_take_zipIdx room]
    exact List.Perm.refl _

theorem firstCalls_inPlace {count : Nat} (room : count ≤ items.length) :
    ResultsInPlace items mapItem (firstCalls items count) where
  length := List.length_replicate
  taken index smaller := by
    right
    have inside : index < items.length := Nat.lt_of_lt_of_le smaller room
    refine ⟨.awaiting items[index] index, ?_, rfl⟩
    apply List.mem_map.mpr
    refine ⟨(items[index], index), ?_, rfl⟩
    apply List.mem_iff_getElem?.mpr
    refine ⟨index, ?_⟩
    have early : index < count := smaller
    rw [List.getElem?_take_of_lt early, List.getElem?_zipIdx, List.getElem?_eq_getElem inside,
      Option.map_some, Nat.zero_add]
  answered worker member index answer given := by
    rcases awaiting_of_mem_firstCalls member with ⟨item, other, _, rfl⟩
    cases given
  stored index value there := by
    simp [firstCalls, List.getElem?_replicate] at there
  returned member := by
    rcases awaiting_of_mem_firstCalls member with ⟨_, _, _, same⟩
    cases same

theorem firstCalls_failures (count : Nat) :
    FailuresHeld items mapItem (firstCalls items count) := by
  apply List.countP_eq_zero.mpr
  intro worker member
  rcases awaiting_of_mem_firstCalls member with ⟨_, _, _, rfl⟩
  exact Bool.false_ne_true

theorem firstCalls_resolved (count : Nat) :
    PromiseFollows (resolveAll (firstCalls items count : ConcurrentMap α ρ β ε)) := by
  apply PromiseFollows.ofResolveAll
  · intro results settled
    cases settled
  · intro reason settled
    cases settled
  · intro _ worker member _ _ same
    rcases awaiting_of_mem_firstCalls member with ⟨_, _, _, rfl⟩
    cases same

theorem mapWithConcurrency_eq (items : List α) (concurrency : WithTop ℚ) :
    (mapWithConcurrency items concurrency : ConcurrentMap α ρ β ε) =
      resolveAll (firstCalls items (workerCount concurrency items.length)) := by
  have room := workerCount_le concurrency items.length
  rw [mapWithConcurrency]
  split
  case isTrue empty =>
      rw [empty] at room ⊢
      rw [Nat.le_zero.mp room, List.length_eq_zero_iff.mp empty]
      rfl
  case isFalse =>
      rw [startWorkers_eq (by simpa using room)]
      simp [firstCalls]

theorem mapWithConcurrency_sound (items : List α) (mapItem : α → Nat → ρ → Except ε β)
    (concurrency : WithTop ℚ) :
    (mapWithConcurrency items concurrency).Sound items mapItem := by
  have room := workerCount_le concurrency items.length
  rw [mapWithConcurrency_eq]
  exact ⟨(firstCalls_ordered room).resolveAll, (firstCalls_inPlace room).resolveAll,
    (firstCalls_failures _).resolveAll, firstCalls_resolved _⟩

/-! ## Runs -/

theorem length_of_step {state next : ConcurrentMap α ρ β ε}
    (step : WorkerStep items mapItem state next) :
    next.workers.length = state.workers.length := by
  cases step with
  | settled reply held => simp [held]
  | called held more => simp [held]
  | returned held noMore =>
      rw [held, resolveAll]
      split <;> simp
  | rejected held => simp [held]

section Run

variable {concurrency : WithTop ℚ} {events : List (WorkerEvent ρ)} {state : ConcurrentMap α ρ β ε}
variable (run : (mapWithConcurrency items concurrency).run items mapItem events = some state)

include run

theorem sound_of_run : state.Sound items mapItem :=
  System.performEach_invariant
    (fun _ _ _ sound performed => sound.step (workerStep_of_perform performed)) run
    (mapWithConcurrency_sound items mapItem concurrency)

theorem length_workers : state.workers.length = workerCount concurrency items.length := by
  have room := workerCount_le concurrency items.length
  have kept : ∀ (before : ConcurrentMap α ρ β ε) event after,
      before.workers.length = workerCount concurrency items.length →
      before.perform items mapItem event = some after →
      after.workers.length = workerCount concurrency items.length := by
    intro before event after length performed
    exact (length_of_step (workerStep_of_perform performed)).trans length
  apply System.performEach_invariant kept run
  rw [mapWithConcurrency_eq, resolveAll]
  split <;> simp [firstCalls, room]

/-- Every call takes two events, and no index is called twice. -/
theorem length_events : events.length ≤ 2 * items.length := by
  have room := workerCount_le concurrency items.length
  have spent : ∀ (before : ConcurrentMap α ρ β ε) event after,
      before.perform items mapItem event = some after →
      after.remaining items + 1 ≤ before.remaining items :=
    fun _ _ _ performed => remaining_of_step (workerStep_of_perform performed)
  have total := System.length_le_of_performEach spent run
  have first : (firstCalls items (workerCount concurrency items.length) :
      ConcurrentMap α ρ β ε).remaining items = 2 * items.length := by
    simp only [ConcurrentMap.remaining, firstCalls, List.map_map, Function.comp_def,
      Worker.remaining, List.map_const', List.sum_replicate_nat, List.length_take,
      List.length_zipIdx, Nat.min_eq_left room]
    omega
  rw [mapWithConcurrency_eq, remaining_resolveAll, first] at total
  omega

end Run

/-! ## Calls in flight -/

/-- The calls of `mapItem` that have not settled. -/
def ConcurrentMap.inFlight (state : ConcurrentMap α ρ β ε) : List (α × Nat) :=
  state.calls.filter fun call => call.2 ∉ state.replies.map Prod.fst

/-- All workers have come to their end. -/
def ConcurrentMap.Ended (state : ConcurrentMap α ρ β ε) : Prop :=
  ∀ worker ∈ state.workers, worker.ended = true

instance ConcurrentMap.Ended.decidable (state : ConcurrentMap α ρ β ε) : Decidable state.Ended :=
  inferInstanceAs (Decidable (∀ worker ∈ state.workers, worker.ended = true))

namespace ConcurrentMap.Sound

variable {state : ConcurrentMap α ρ β ε} (sound : state.Sound items mapItem)

include sound

theorem indices : state.calls.map Prod.snd = List.range state.nextIndex := by
  rw [sound.ordered.calls, map_snd_take_zipIdx sound.ordered.bounded]

theorem replied_nodup :
    (state.workers.filterMap Worker.awaited? ++ state.replies.map Prod.fst).Nodup :=
  sound.ordered.replied.nodup_iff.mpr List.nodup_range

theorem length_inFlight : state.inFlight.length ≤ state.workers.length := by
  have nodup : (state.inFlight.map Prod.snd).Nodup := by
    apply List.Nodup.sublist (List.filter_sublist.map Prod.snd)
    rw [sound.indices]
    exact List.nodup_range
  have awaited : state.inFlight.map Prod.snd ⊆ state.workers.filterMap Worker.awaited? := by
    intro index member
    rcases List.mem_map.mp member with ⟨call, unsettled, rfl⟩
    rcases List.mem_filter.mp unsettled with ⟨made, unreplied⟩
    have taken : call.2 ∈ List.range state.nextIndex :=
      sound.indices ▸ List.mem_map_of_mem made
    have either := List.mem_append.mp (sound.ordered.replied.mem_iff.mpr taken)
    exact either.resolve_right (of_decide_eq_true unreplied)
  calc state.inFlight.length = (state.inFlight.map Prod.snd).length := List.length_map _ |>.symm
    _ ≤ (state.workers.filterMap Worker.awaited?).length :=
        (List.subperm_of_subset nodup awaited).length_le
    _ ≤ state.workers.length := List.length_filterMap_le _ _

/-- As long as a worker has not come to its end, a call is in flight or the worker can be
resumed. -/
theorem unfinished (running : ¬ state.Ended) :
    state.inFlight ≠ [] ∨ ∃ worker, (state.perform items mapItem (.resumes worker)).isSome := by
  simp only [ConcurrentMap.Ended, not_forall] at running
  rcases running with ⟨worker, member, unended⟩
  cases worker with
  | awaiting item currentIndex =>
      left
      have awaited : currentIndex ∈ state.workers.filterMap Worker.awaited? :=
        List.mem_filterMap.mpr ⟨_, member, rfl⟩
      have unreplied : currentIndex ∉ state.replies.map Prod.fst := fun replied =>
        (List.nodup_append.mp sound.replied_nodup).2.2 _ awaited _ replied rfl
      have taken := sound.ordered.replied.mem_iff.mp (List.mem_append_left _ awaited)
      rw [← sound.indices] at taken
      rcases List.mem_map.mp taken with ⟨call, made, rfl⟩
      exact List.ne_nil_of_mem (List.mem_filter.mpr ⟨made, decide_eq_true unreplied⟩)
  | settled currentIndex answer =>
      right
      rcases List.mem_iff_getElem?.mp member with ⟨position, located⟩
      refine ⟨position, ?_⟩
      cases answer <;> simp [ConcurrentMap.perform, located]
  | returned => exact absurd rfl unended
  | rejected _ _ => exact absurd rfl unended

/-! ## The outcome -/

/-- A worker that is left when all have come to their end has seen the last item. -/
theorem calls_of_survivor (ended : state.Ended)
    (survivor : state.failures items mapItem < state.workers.length) :
    state.calls = items.zipIdx := by
  have held := sound.failures
  rw [FailuresHeld] at held
  rw [← held] at survivor
  have some : ∃ worker ∈ state.workers, worker.failed = false := by
    by_contra none
    apply Nat.lt_irrefl _ (survivor.trans_eq (List.countP_eq_length.mpr ?_).symm)
    intro worker member
    by_contra unfailed
    exact none ⟨worker, member, Bool.eq_false_iff.mpr unfailed⟩
  rcases some with ⟨worker, member, unfailed⟩
  have last : items.length ≤ state.nextIndex := by
    have own := ended worker member
    cases worker with
    | awaiting _ _ => cases own
    | settled _ _ => cases own
    | returned => exact sound.inPlace.returned member
    | rejected _ _ => cases unfailed
  rw [sound.ordered.calls]
  exact List.take_of_length_le (by rwa [List.length_zipIdx])

theorem promise_of_ended (ended : state.Ended) : state.promise.isSome := by
  cases settled : state.promise with
  | some outcome => rfl
  | none =>
      rcases sound.promise.pending settled with ⟨unrejected, worker, member, running⟩
      have own := ended worker member
      cases worker with
      | awaiting _ _ => cases own
      | settled _ _ => cases own
      | returned => exact absurd rfl running
      | rejected currentIndex reason =>
          exact absurd rfl (unrejected _ member currentIndex reason)

theorem resolved_of_ended (ended : state.Ended) (succeeded : state.failures items mapItem = 0) :
    ∃ results, state.promise = some (.ok results) := by
  rcases Option.isSome_iff_exists.mp (sound.promise_of_ended ended) with ⟨outcome, settled⟩
  cases outcome with
  | ok results => exact ⟨results, settled⟩
  | error reason =>
      rcases sound.promise.rejected reason settled with ⟨currentIndex, member⟩
      have none := List.countP_eq_zero.mp (sound.failures.trans succeeded) _ member
      exact absurd rfl none

end ConcurrentMap.Sound

/-- Entry by entry, the results are the values of the calls for the items. -/
def Paired (items : List α) (mapItem : α → Nat → ρ → Except ε β) (replies : List (Nat × ρ))
    (results : List (Option β)) : Prop :=
  List.Forall₂ (fun call entry => ∃ reply value, (call.2, reply) ∈ replies ∧
    mapItem call.1 call.2 reply = .ok value ∧ entry = some value) items.zipIdx results

theorem ConcurrentMap.Sound.paired {state : ConcurrentMap α ρ β ε}
    (sound : state.Sound items mapItem) (staffed : items ≠ [] → state.workers ≠ [])
    {results : List (Option β)} (resolved : state.promise = some (.ok results)) :
    Paired items mapItem state.replies results := by
  rcases sound.promise.resolved results resolved with ⟨returned, rfl⟩
  apply List.forall₂_iff_get.mpr
  refine ⟨?_, ?_⟩
  · rw [List.length_zipIdx, sound.inPlace.length]
  · intro index inside there
    rw [List.length_zipIdx] at inside
    have nonempty : items ≠ [] := List.ne_nil_of_length_pos (Nat.zero_lt_of_lt inside)
    rcases List.exists_mem_of_ne_nil _ (staffed nonempty) with ⟨worker, member⟩
    have last := sound.inPlace.returned (returned worker member ▸ member)
    rcases sound.inPlace.taken index (Nat.lt_of_lt_of_le inside last) with
      ⟨value, stored⟩ | ⟨other, otherMember, taken⟩
    · rcases sound.inPlace.stored index value stored with ⟨item, reply, located, replied, same⟩
      have own : items[index] = item := List.getElem_eq_iff inside |>.mpr located
      simp only [List.get_eq_getElem, List.getElem_zipIdx, Nat.zero_add, own]
      exact ⟨reply, value, replied, same, List.getElem_eq_iff there |>.mpr stored⟩
    · rw [returned other otherMember] at taken
      cases taken

/-! ## The map -/

/-- What a run of `mapWithConcurrency` does. -/
structure MapsConcurrently (items : List α)
    (mapItem : α → Nat → ρ → Except ε β) (concurrency : WithTop ℚ)
    (events : List (WorkerEvent ρ)) (state : ConcurrentMap α ρ β ε) : Prop where
  /-- It cannot go on for ever. -/
  finite : events.length ≤ 2 * items.length
  /-- Until its end, a call is awaited or a worker can be resumed. -/
  unfinished : ¬ state.Ended → state.inFlight ≠ [] ∨
    ∃ worker, (state.perform items mapItem (.resumes worker)).isSome
  /-- No index is called twice, and each with its own item. -/
  calls : state.calls <+: items.zipIdx
  replies : (state.replies.map Prod.fst).Nodup
  inFlight : (state.inFlight.length : WithTop ℚ) ≤ concurrency
  settled : state.Ended → state.promise.isSome
  exactlyOnce : state.Ended →
    state.failures items mapItem < workerCount concurrency items.length →
    state.calls = items.zipIdx
  resolved : state.Ended → state.failures items mapItem = 0 →
    state.calls = items.zipIdx ∧ ∃ results, state.promise = some (.ok results)
  paired : ∀ results, state.promise = some (.ok results) →
    Paired items mapItem state.replies results

theorem mapsConcurrently_of_run {concurrency : WithTop ℚ} {events : List (WorkerEvent ρ)}
    {state : ConcurrentMap α ρ β ε} (atLeastOne : 1 ≤ concurrency)
    (run : (mapWithConcurrency items concurrency).run items mapItem events = some state) :
    MapsConcurrently items mapItem concurrency events state := by
  have sound := sound_of_run run
  have workers := length_workers run
  have staffed : items ≠ [] → 0 < workerCount concurrency items.length := fun nonempty =>
    workerCount_pos atLeastOne (List.length_pos_of_ne_nil nonempty)
  have exactlyOnce (ended : state.Ended)
      (survivor : state.failures items mapItem < workerCount concurrency items.length) :
      state.calls = items.zipIdx :=
    sound.calls_of_survivor ended (workers.symm ▸ survivor)
  refine ⟨length_events run, sound.unfinished, ?_, ?_, ?_, sound.promise_of_ended, exactlyOnce,
    ?_, ?_⟩
  · rw [sound.ordered.calls]
    exact List.take_prefix _ _
  · exact (List.nodup_append.mp sound.replied_nodup).2.1
  · have below : (state.inFlight.length : WithTop ℚ) ≤ workerCount concurrency items.length := by
      exact_mod_cast workers ▸ sound.length_inFlight
    exact below.trans (workerCount_le_concurrency _ atLeastOne)
  · intro ended succeeded
    refine ⟨?_, sound.resolved_of_ended ended succeeded⟩
    by_cases empty : items = []
    · rw [sound.ordered.calls, empty, List.zipIdx_nil, List.take_nil]
    · exact exactlyOnce ended (succeeded ▸ staffed empty)
  · intro results resolved
    apply sound.paired ?_ resolved
    intro nonempty
    exact List.ne_nil_of_length_pos (workers.symm ▸ staffed nonempty)

end Results

end Reputo.OnchainData

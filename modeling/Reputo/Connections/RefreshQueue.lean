import Reputo.Library.OrderedMap
import Reputo.Library.System

/-!
# Coalesced probes

A request waits out a debounce window and is then queued; a loop probes the queued
connections one after another.  Requests, timers and the ends of probes come in any order.
-/

namespace Reputo.Connections

open Reputo.Library

/-! ## The service -/

/-- What a drain loop waits for. -/
inductive DrainStage where
  | probing (connectionId reason : String)
  | spacing
  deriving DecidableEq, Repr

/-- What the statement speaks of: a connection was requested, or its probe was started. -/
inductive RefreshEvent where
  | requested (connectionId : String)
  | probed (connectionId : String)
  deriving DecidableEq, Repr

/-- Each pending connection has a live timer and a reason.  The drain loops are the calls
that have not returned, and the history has the latest event first. -/
structure RefreshState where
  pending : OrderedMap String String
  queue : List String
  reasons : OrderedMap String String
  draining : Bool
  stopped : Bool
  drains : List DrainStage
  history : List RefreshEvent

namespace RefreshState

def initial : RefreshState := ⟨.empty, [], .empty, false, false, [], []⟩

def defaultReason : String := "live signal"

def onModuleDestroy (state : RefreshState) : RefreshState :=
  { state with stopped := true, pending := .empty, queue := [], reasons := .empty }

/-- The timer of an earlier request is replaced. -/
def request (state : RefreshState) (connectionId reason : String) : RefreshState :=
  if state.stopped then { state with history := .requested connectionId :: state.history }
  else
    { state with
      pending := state.pending.set connectionId reason
      history := .requested connectionId :: state.history }

/-- The connection that the test of the loop takes from the queue, with the state then. -/
def takeNext (state : RefreshState) : Option (DrainStage × RefreshState) :=
  match state.queue with
  | [] => none
  | connectionId :: queue =>
      if state.stopped then none
      else some (.probing connectionId ((state.reasons.get? connectionId).getD defaultReason),
        { state with
          queue
          reasons := state.reasons.restrict (· ≠ connectionId)
          history := .probed connectionId :: state.history })

/-- A call of `drain` until it waits for a probe, or returns. -/
def drain (state : RefreshState) : RefreshState :=
  if state.draining then state
  else match takeNext state with
    | none => state
    | some (stage, state) =>
        { state with draining := true, drains := state.drains ++ [stage] }

/-- A drain loop goes on with its test, and returns if it fails. -/
def loop (state : RefreshState) (position : Nat) : RefreshState :=
  match takeNext state with
  | none => { state with draining := false, drains := state.drains.eraseIdx position }
  | some (stage, state) => { state with drains := state.drains.set position stage }

/-- A timer fires. -/
def enqueue (state : RefreshState) (connectionId : String) : RefreshState :=
  let reason := state.pending.get? connectionId
  let state := { state with pending := state.pending.restrict (· ≠ connectionId) }
  if state.stopped then state
  else if connectionId ∈ state.queue then drain state
  else drain
    { state with
      queue := state.queue ++ [connectionId]
      reasons := state.reasons.set connectionId (reason.getD defaultReason) }

/-- What a drain loop does when its wait is over; a probe may have failed. -/
def resume (state : RefreshState) (position : Nat) : DrainStage → RefreshState
  | .probing .. =>
      if state.queue = [] then state.loop position
      else { state with drains := state.drains.set position .spacing }
  | .spacing => state.loop position

end RefreshState

inductive RefreshAction where
  | request (connectionId reason : String)
  | timer (connectionId : String)
  | resume (position : Nat)
  | stop
  deriving DecidableEq, Repr

/-- A timer that is not live does not fire, and a loop that has returned does not go on. -/
def RefreshState.perform (state : RefreshState) : RefreshAction → Option RefreshState
  | .request connectionId reason => some (state.request connectionId reason)
  | .timer connectionId =>
      if connectionId ∈ state.pending.keys then some (state.enqueue connectionId) else none
  | .resume position => (state.drains[position]?).map (state.resume position)
  | .stop => some state.onModuleDestroy

/-! ## What the class promises -/

/-- A probe was started after the last request, where there was one. -/
def ProbedSinceRequest (connectionId : String) : List RefreshEvent → Prop
  | [] => True
  | .probed other :: earlier => other = connectionId ∨ ProbedSinceRequest connectionId earlier
  | .requested other :: earlier => other ≠ connectionId ∧ ProbedSinceRequest connectionId earlier

def DrainStage.isProbe : DrainStage → Bool
  | probing .. => true
  | spacing => false

/-- In a state of rest every connection was probed after its last request. -/
def RefreshState.NeverStale (state : RefreshState) : Prop :=
  state.pending.keys = [] → state.queue = [] → state.drains.filter DrainStage.isProbe = [] →
    ∀ connectionId, ProbedSinceRequest connectionId state.history

structure RefreshState.Coalesced (state : RefreshState) : Prop where
  oneProbe : (state.drains.filter DrainStage.isProbe).length ≤ 1
  nodup : state.queue.Nodup
  running : state.queue ≠ [] → state.stopped = false → state.drains ≠ []
  neverStale : state.stopped = false → state.NeverStale

/-! ## Steps -/

/-- What holds throughout. -/
structure RefreshState.Sound (state : RefreshState) : Prop where
  loops : state.drains.length = if state.draining then 1 else 0
  nodup : state.queue.Nodup
  running : state.queue ≠ [] → state.stopped = false → state.draining = true
  served : state.stopped = false → ∀ connectionId, connectionId ∈ state.pending.keys ∨
    connectionId ∈ state.queue ∨ ProbedSinceRequest connectionId state.history

namespace RefreshState

variable {state : RefreshState}

theorem sound_initial : initial.Sound :=
  ⟨rfl, List.nodup_nil, fun queued => absurd rfl queued, fun _ _ => Or.inr (Or.inr trivial)⟩

theorem Sound.coalesced (sound : state.Sound) : state.Coalesced := by
  constructor
  · have short : state.drains.length ≤ 1 := by
      rw [sound.loops]
      split <;> decide
    exact Nat.le_trans (List.length_filter_le _ _) short
  · exact sound.nodup
  · intro queued active none
    have length := sound.loops
    rw [sound.running queued active, none] at length
    cases length
  · intro active unpending unqueued _ connectionId
    rcases sound.served active connectionId with waiting | waiting | served
    · rw [unpending] at waiting
      exact absurd waiting List.not_mem_nil
    · rw [unqueued] at waiting
      exact absurd waiting List.not_mem_nil
    · exact served

/-- What the test of a loop finds. -/
theorem takeNext_cases (state : RefreshState) :
    (takeNext state = none ∧ (state.queue = [] ∨ state.stopped = true)) ∨
    ∃ stage next connectionId, takeNext state = some (stage, next) ∧ state.stopped = false ∧
      state.queue = connectionId :: next.queue ∧ next.pending = state.pending ∧
      next.draining = state.draining ∧ next.stopped = state.stopped ∧
      next.drains = state.drains ∧ next.history = .probed connectionId :: state.history := by
  rw [takeNext]
  cases queue : state.queue with
  | nil => exact Or.inl ⟨rfl, Or.inl rfl⟩
  | cons connectionId rest =>
      cases stopped : state.stopped with
      | true => exact Or.inl ⟨rfl, Or.inr rfl⟩
      | false =>
          exact Or.inr ⟨_, _, connectionId, rfl, rfl, rfl, rfl, rfl, rfl, rfl, rfl⟩

/-- Taking a connection from the queue serves it. -/
theorem served_takeNext {next : RefreshState} {connectionId : String}
    (served : ∀ other, other ∈ state.pending.keys ∨ other ∈ state.queue ∨
      ProbedSinceRequest other state.history)
    (queue : state.queue = connectionId :: next.queue) (pending : next.pending = state.pending)
    (history : next.history = .probed connectionId :: state.history) (other : String) :
    other ∈ next.pending.keys ∨ other ∈ next.queue ∨ ProbedSinceRequest other next.history := by
  rw [pending, history]
  rcases served other with waiting | waiting | probed
  · exact Or.inl waiting
  · rw [queue] at waiting
    rcases List.mem_cons.mp waiting with first | later
    · exact Or.inr (Or.inr (Or.inl first.symm))
    · exact Or.inr (Or.inl later)
  · exact Or.inr (Or.inr (Or.inr probed))

theorem sound_drain (loops : state.drains.length = if state.draining then 1 else 0)
    (nodup : state.queue.Nodup)
    (served : state.stopped = false → ∀ connectionId, connectionId ∈ state.pending.keys ∨
      connectionId ∈ state.queue ∨ ProbedSinceRequest connectionId state.history) :
    state.drain.Sound := by
  rw [drain]
  cases draining : state.draining with
  | true => exact ⟨loops, nodup, fun _ _ => draining, served⟩
  | false =>
      rw [if_neg Bool.false_ne_true]
      rw [draining] at loops
      rcases takeNext_cases state with ⟨returns, rest⟩ |
        ⟨stage, next, connectionId, taken, active, queue, pending, _, stopped, drains, history⟩
      · rw [returns]
        refine ⟨draining ▸ loops, nodup, ?_, served⟩
        intro queued active
        rcases rest with empty | stopped
        · exact absurd empty queued
        · exact absurd (stopped.symm.trans active) (by decide)
      · rw [taken]
        constructor
        · rw [List.length_append, drains, loops]
          rfl
        · rw [queue] at nodup
          exact (List.nodup_cons.mp nodup).2
        · exact fun _ _ => rfl
        · exact fun _ => served_takeNext (served active) queue pending history

theorem sound_loop (sound : state.Sound) {position : Nat} {stage : DrainStage}
    (waiting : state.drains[position]? = some stage) : (state.loop position).Sound := by
  rcases List.getElem?_eq_some_iff.mp waiting with ⟨inside, _⟩
  have loops := sound.loops
  have draining : state.draining = true := by
    cases draining : state.draining with
    | true => rfl
    | false =>
        rw [draining] at loops
        rw [loops] at inside
        exact absurd inside (Nat.not_lt_zero _)
  rw [draining] at loops
  rw [loop]
  rcases takeNext_cases state with ⟨returns, rest⟩ |
    ⟨other, next, connectionId, taken, active, queue, pending, same, stopped, drains, history⟩
  · rw [returns]
    refine ⟨?_, sound.nodup, ?_, sound.served⟩
    · rw [List.length_eraseIdx_of_lt inside, loops]
      rfl
    · intro queued active
      rcases rest with empty | stopped
      · exact absurd empty queued
      · exact absurd (stopped.symm.trans active) (by decide)
  · rw [taken]
    have nodup := sound.nodup
    rw [queue] at nodup
    constructor
    · rw [List.length_set, drains, loops]
      exact (if_pos (same.trans draining)).symm
    · exact (List.nodup_cons.mp nodup).2
    · exact fun _ _ => same.trans draining
    · exact fun _ => served_takeNext (sound.served active) queue pending history

theorem sound_resume (sound : state.Sound) {position : Nat} {stage : DrainStage}
    (waiting : state.drains[position]? = some stage) : (state.resume position stage).Sound := by
  cases stage with
  | spacing => exact sound_loop sound waiting
  | probing connectionId reason =>
      rw [resume]
      split
      · exact sound_loop sound waiting
      · refine ⟨?_, sound.nodup, sound.running, sound.served⟩
        rw [List.length_set]
        exact sound.loops

theorem sound_request (sound : state.Sound) (connectionId reason : String) :
    (state.request connectionId reason).Sound := by
  rw [request]
  split
  · rename_i stopped
    refine ⟨sound.loops, sound.nodup, sound.running, fun active => ?_⟩
    exact absurd (stopped.symm.trans active) (by decide)
  · rename_i active
    refine ⟨sound.loops, sound.nodup, sound.running, fun _ other => ?_⟩
    have set : other ∈ (state.pending.set connectionId reason).keys ↔
        other = connectionId ∨ other ∈ state.pending.keys := OrderedMap.mem_keys_setEntries
    by_cases same : other = connectionId
    · exact Or.inl (set.mpr (Or.inl same))
    · rcases sound.served (Bool.not_eq_true _ ▸ active) other with waiting | waiting | probed
      · exact Or.inl (set.mpr (Or.inr waiting))
      · exact Or.inr (Or.inl waiting)
      · exact Or.inr (Or.inr ⟨Ne.symm same, probed⟩)

/-- A key other than the one that was taken out. -/
theorem mem_keys_restrict_ne {map : OrderedMap String String} {key other : String}
    (member : other ∈ map.keys) (different : other ≠ key) :
    other ∈ (map.restrict (· ≠ key)).keys := by
  rcases List.mem_map.mp member with ⟨entry, listed, same⟩
  apply List.mem_map.mpr
  refine ⟨entry, List.mem_filter.mpr ⟨listed, ?_⟩, same⟩
  rw [same]
  exact decide_eq_true different

theorem sound_enqueue (sound : state.Sound) (connectionId : String) :
    (state.enqueue connectionId).Sound := by
  rw [enqueue]
  dsimp only
  split
  · rename_i stopped
    refine ⟨sound.loops, sound.nodup, sound.running, fun active => ?_⟩
    exact absurd (stopped.symm.trans active) (by decide)
  · split
    · rename_i queued
      refine sound_drain sound.loops sound.nodup fun active other => ?_
      rcases sound.served active other with waiting | waiting | probed
      · by_cases same : other = connectionId
        · rw [same]
          exact Or.inr (Or.inl queued)
        · exact Or.inl (mem_keys_restrict_ne waiting same)
      · exact Or.inr (Or.inl waiting)
      · exact Or.inr (Or.inr probed)
    · rename_i unqueued
      refine sound_drain sound.loops ?_ fun active other => ?_
      · rw [List.nodup_append]
        refine ⟨sound.nodup, List.nodup_singleton _, fun queued member last same other => ?_⟩
        rw [← List.mem_singleton.mp same, ← other] at unqueued
        exact unqueued member
      · rcases sound.served active other with waiting | waiting | probed
        · by_cases same : other = connectionId
          · rw [same]
            exact Or.inr (Or.inl (List.mem_append_right _ (List.mem_singleton_self _)))
          · exact Or.inl (mem_keys_restrict_ne waiting same)
        · exact Or.inr (Or.inl (List.mem_append_left _ waiting))
        · exact Or.inr (Or.inr probed)

theorem sound_onModuleDestroy (sound : state.Sound) : state.onModuleDestroy.Sound := by
  refine ⟨sound.loops, List.nodup_nil, fun queued => absurd rfl queued, fun active => ?_⟩
  cases active

theorem sound_performOr (sound : state.Sound) (action : RefreshAction) :
    (System.performOr perform state action).Sound := by
  cases action with
  | request connectionId reason => exact sound_request sound connectionId reason
  | stop => exact sound_onModuleDestroy sound
  | timer connectionId =>
      rw [System.performOr, perform]
      split
      · exact sound_enqueue sound connectionId
      · exact sound
  | resume position =>
      rw [System.performOr, perform]
      cases waiting : state.drains[position]? with
      | none => exact sound
      | some stage => exact sound_resume sound waiting

end RefreshState

/-- In every run, one probe runs at most, the queue holds a connection once, a loop runs
while it holds any, and no connection is stale at rest before the service is stopped. -/
theorem refresh_coalesces (actions : List RefreshAction) :
    (System.performAll RefreshState.perform .initial actions).Coalesced := by
  have run : ∀ state : RefreshState, state.Sound →
      (System.performAll RefreshState.perform state actions).Sound := by
    induction actions with
    | nil => exact fun state sound => sound
    | cons action rest ih => exact fun state sound => ih _ (RefreshState.sound_performOr sound action)
  exact (run _ RefreshState.sound_initial).coalesced

/-- A request whose timer is cleared when the service stops is not probed. -/
theorem stop_drops_request :
    ¬∀ actions, (System.performAll RefreshState.perform .initial actions).NeverStale := by
  intro fresh
  exact (fresh [.request "c" "discord:update", .stop] rfl rfl rfl "c").1 rfl

end Reputo.Connections

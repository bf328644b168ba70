import Mathlib.Data.List.Basic
import Mathlib.Order.Basic
import Reputo.CustomScore.Types

/-!
# The encrypted lifecycle of a combined snapshot

The workflow polls readiness on timers and then runs a processing pass; a pass that finds a
pending score leads back to polling under the same deadline.  One activity is one step, so
that a run is the sequence of the states between activities, and the environment decides
how late timers fire, how long activities take and how they end.
-/

namespace Reputo.CustomScore

/-! ## Constants -/

def deepIdReadinessPollDelaysMs : List Int := [60000, 15 * 60000, 60 * 60000]

def deepIdReadinessSteadyPollDelayMs : Int := 60 * 60000

def deepIdEncryptionDeadlineMs : Int := 24 * 60 * 60000

/-! ## The workflow -/

structure EncryptionReadinessPollOutcome where
  counts : EncryptionReadinessCounts
  pollCount : Nat
  elapsedMs : Int
  polledAtOffsetsMs : List Int
  lastRequestId : Option String
  deriving DecidableEq, Repr

structure EncryptedCustomScoreLifecycleOutcome where
  readiness : EncryptionReadinessPollOutcome
  submission : EncryptedScoresSubmittedResult
  rounds : Nat
  deriving DecidableEq, Repr

/-- An `ApplicationFailure` with the details of the last poll. -/
structure EncryptionTimeout where
  message : String
  type : String
  nonRetryable : Bool
  counts : EncryptionReadinessCounts
  pollCount : Nat
  elapsedMs : Int
  lastRequestId : Option String
  deriving DecidableEq, Repr

/-- The failure at the deadline. -/
def encryptionTimeout (counts : EncryptionReadinessCounts) (pollCount : Nat) (elapsedMs : Int)
    (lastRequestId : Option String) : EncryptionTimeout where
  message :=
    let requestId := lastRequestId.getD "none"
    "DEEPID_ENCRYPTION_TIMEOUT: selected child scores were not ready for encrypted evaluation " ++
    s!"within 24 hours of raw submission (complete={counts.complete}, " ++
    s!"potentiallyComplete={counts.potentiallyComplete}, incomplete={counts.incomplete}, " ++
    s!"polls={pollCount}, elapsedMs={elapsedMs}, " ++
    s!"lastRequestId={requestId})"
  type := "DEEPID_ENCRYPTION_TIMEOUT"
  nonRetryable := true
  counts
  pollCount
  elapsedMs
  lastRequestId

/-- Why the lifecycle fails; an activity failure comes with its message. -/
inductive LifecycleFailure where
  | encryptionTimeout (failure : EncryptionTimeout)
  | activity (message : String)
  deriving DecidableEq, Repr

/-- Where the workflow is: before the next poll of a round, before the processing pass of a
round, or at its end. -/
inductive LifecyclePhase where
  | polling (rounds : Nat) (submittedAtMs : Int) (polledAtOffsetsMs : List Int)
  | processing (rounds : Nat) (readiness : EncryptionReadinessPollOutcome)
  | resolved (outcome : EncryptedCustomScoreLifecycleOutcome)
  | failed (failure : LifecycleFailure)
  deriving DecidableEq, Repr

/-- An activity that has finished, with its outcome. -/
inductive LifecycleActivity where
  | poll (startedAtMs finishedAtMs : Int) (outcome : Except String CheckEncryptionReadinessResult)
  | pass (startedAtMs finishedAtMs : Int)
      (outcome : Except String SubmitCustomEncryptedScoresResult)

/-- The workflow clock, and the activities that have finished so far. -/
structure Lifecycle where
  nowMs : Int
  deadlineAtMs : Int
  phase : LifecyclePhase
  activities : List LifecycleActivity

/-- For the activity after the first so many ones: how late its timer fires, how long it
takes, and how it ends. -/
structure LifecycleOutcomes where
  timerLatenessMs : Nat → Nat
  durationMs : Nat → Nat
  checkEncryptionReadiness : Nat → Except String CheckEncryptionReadinessResult
  submitCustomEncryptedScores : Nat → Except String SubmitCustomEncryptedScoresResult

/-- `workflow.sleep` takes at least one millisecond. -/
def timerMs (durationMs : Int) : Int := max 1 durationMs

def pollDelayMs (pollIndex : Nat) : Int :=
  deepIdReadinessPollDelaysMs.getD pollIndex deepIdReadinessSteadyPollDelayMs

/-- What follows a poll that has ended. -/
def afterPoll (deadlineAtMs nowMs : Int) (rounds : Nat) (submittedAtMs : Int)
    (polledAtOffsetsMs : List Int) : Except String CheckEncryptionReadinessResult → LifecyclePhase
  | .error message => .failed (.activity message)
  | .ok result =>
      let elapsedMs := nowMs - submittedAtMs
      let polledAtOffsetsMs := polledAtOffsetsMs ++ [elapsedMs]
      if result.ready then
        .processing rounds ⟨result.counts, polledAtOffsetsMs.length, elapsedMs, polledAtOffsetsMs,
          result.lastRequestId⟩
      else if deadlineAtMs ≤ nowMs then
        .failed (.encryptionTimeout (encryptionTimeout result.counts polledAtOffsetsMs.length
          elapsedMs result.lastRequestId))
      else .polling rounds submittedAtMs polledAtOffsetsMs

/-- What follows a processing pass that has ended; polling is entered anew. -/
def afterPass (nowMs : Int) (rounds : Nat) (readiness : EncryptionReadinessPollOutcome) :
    Except String SubmitCustomEncryptedScoresResult → LifecyclePhase
  | .error message => .failed (.activity message)
  | .ok (.submitted submission) => .resolved ⟨readiness, submission, rounds⟩
  | .ok (.pendingEncryption _) => .polling (rounds + 1) nowMs []

section Run

variable (outcomes : LifecycleOutcomes)

/-- The step over one activity, with the timer before a poll. -/
def Lifecycle.advance (state : Lifecycle) : Lifecycle :=
  let count := state.activities.length
  match state.phase with
  | .polling rounds submittedAtMs polledAtOffsetsMs =>
      let delayMs := min (pollDelayMs polledAtOffsetsMs.length) (state.deadlineAtMs - state.nowMs)
      let startedAtMs := state.nowMs + timerMs delayMs + outcomes.timerLatenessMs count
      let nowMs := startedAtMs + outcomes.durationMs count
      let outcome := outcomes.checkEncryptionReadiness count
      { state with
        nowMs
        phase := afterPoll state.deadlineAtMs nowMs rounds submittedAtMs polledAtOffsetsMs outcome
        activities := state.activities ++ [.poll startedAtMs nowMs outcome] }
  | .processing rounds readiness =>
      let nowMs := state.nowMs + outcomes.durationMs count
      let outcome := outcomes.submitCustomEncryptedScores count
      { state with
        nowMs
        phase := afterPass nowMs rounds readiness outcome
        activities := state.activities ++ [.pass state.nowMs nowMs outcome] }
  | .resolved _ | .failed _ => state

/-- The lifecycle when it is entered. -/
def Lifecycle.entered (entryMs : Int) : Lifecycle where
  nowMs := entryMs
  deadlineAtMs := entryMs + deepIdEncryptionDeadlineMs
  phase := .polling 1 entryMs []
  activities := []

/-- `runEncryptedCustomScoreLifecycle` after so many activities. -/
def runEncryptedCustomScoreLifecycle (entryMs : Int) : Nat → Lifecycle
  | 0 => .entered entryMs
  | steps + 1 => (runEncryptedCustomScoreLifecycle entryMs steps).advance outcomes

end Run

/-! ## The anchored deadline -/

namespace LifecycleActivity

/-- A poll that reported readiness. -/
def readyAt (finishedAtMs : Int) : LifecycleActivity → Prop
  | poll _ finished (.ok result) => finished = finishedAtMs ∧ result.ready = true
  | _ => False

/-- A poll that finished before a time, or a pass. -/
def Early (deadlineAtMs : Int) : LifecycleActivity → Prop
  | poll _ finishedAtMs _ => finishedAtMs < deadlineAtMs
  | pass .. => True

def isPoll : LifecycleActivity → Bool
  | poll .. => true
  | pass .. => false

/-- A pass that was started at or after the deadline and found a pending score. -/
def LatePending (deadlineAtMs : Int) : LifecycleActivity → Prop
  | pass startedAtMs _ (.ok (.pendingEncryption _)) => deadlineAtMs ≤ startedAtMs
  | _ => False

end LifecycleActivity

/-- After a poll that finished at or after the deadline nothing is started, except for one
processing pass if the poll was ready. -/
def Anchored (deadlineAtMs : Int) : List LifecycleActivity → Prop
  | [] => True
  | activity :: rest => (activity.Early deadlineAtMs ∨ rest = [] ∨
        (∃ finishedAtMs, activity.readyAt finishedAtMs) ∧
          ∃ next, next.isPoll = false ∧ rest = [next]) ∧
      Anchored deadlineAtMs rest

/-- The lifecycle has succeeded or failed. -/
def Lifecycle.ended (state : Lifecycle) : Bool :=
  match state.phase with
  | .resolved _ | .failed _ => true
  | .polling .. | .processing .. => false

/-- Every poll before the deadline takes a minute at least, and is followed by one pass at
most. -/
def lifecycleBound : Nat := 2 * (24 * 60)

section Anchored

variable {deadlineAtMs : Int} {before after : List LifecycleActivity}

theorem anchored_append (early : ∀ activity ∈ before, activity.Early deadlineAtMs) :
    Anchored deadlineAtMs (before ++ after) ↔ Anchored deadlineAtMs after := by
  induction before with
  | nil => exact Iff.rfl
  | cons activity rest ih =>
      rw [List.cons_append, Anchored,
        ih fun other member => early other (List.mem_cons_of_mem _ member)]
      exact and_iff_right (Or.inl (early activity List.mem_cons_self))

theorem Anchored.suffix (anchored : Anchored deadlineAtMs (before ++ after)) :
    Anchored deadlineAtMs after := by
  induction before with
  | nil => exact anchored
  | cons activity rest ih => exact ih anchored.2

theorem anchored_single (activity : LifecycleActivity) : Anchored deadlineAtMs [activity] :=
  ⟨Or.inr (Or.inl rfl), trivial⟩

end Anchored

/-! ## Steps -/

section Steps

variable (outcomes : LifecycleOutcomes) {state : Lifecycle}

/-- The end of the next poll. -/
def Lifecycle.pollEndsMs (outcomes : LifecycleOutcomes) (state : Lifecycle)
    (pollIndex : Nat) : Int :=
  state.nowMs + timerMs (min (pollDelayMs pollIndex) (state.deadlineAtMs - state.nowMs)) +
    outcomes.timerLatenessMs state.activities.length + outcomes.durationMs state.activities.length

theorem minute_le_pollDelayMs (pollIndex : Nat) : 60000 ≤ pollDelayMs pollIndex := by
  rw [pollDelayMs, deepIdReadinessPollDelaysMs]
  match pollIndex with
  | 0 | 1 | 2 => decide
  | _ + 3 => exact (by decide : 60000 ≤ deepIdReadinessSteadyPollDelayMs)

/-- A poll takes a minute at least, unless it ends at or after the deadline. -/
theorem minute_le_pollEndsMs (state : Lifecycle) (pollIndex : Nat) :
    state.deadlineAtMs ≤ state.pollEndsMs outcomes pollIndex ∨
      state.nowMs + 60000 ≤ state.pollEndsMs outcomes pollIndex := by
  have minute := minute_le_pollDelayMs pollIndex
  rw [Lifecycle.pollEndsMs, timerMs]
  omega

/-- What a poll leads to. -/
theorem advance_polling {rounds : Nat} {submittedAtMs : Int} {polledAtOffsetsMs : List Int}
    (phase : state.phase = .polling rounds submittedAtMs polledAtOffsetsMs) :
    ∃ startedAtMs outcome, (state.advance outcomes).deadlineAtMs = state.deadlineAtMs ∧
      (state.advance outcomes).nowMs = state.pollEndsMs outcomes polledAtOffsetsMs.length ∧
      (state.advance outcomes).phase = afterPoll state.deadlineAtMs
        (state.pollEndsMs outcomes polledAtOffsetsMs.length) rounds submittedAtMs
        polledAtOffsetsMs outcome ∧
      (state.advance outcomes).activities = state.activities ++
        [.poll startedAtMs (state.pollEndsMs outcomes polledAtOffsetsMs.length) outcome] := by
  refine ⟨state.nowMs +
      timerMs (min (pollDelayMs polledAtOffsetsMs.length) (state.deadlineAtMs - state.nowMs)) +
      outcomes.timerLatenessMs state.activities.length,
    outcomes.checkEncryptionReadiness state.activities.length, ?_⟩
  rw [Lifecycle.advance, phase]
  exact ⟨rfl, rfl, rfl, rfl⟩

/-- What a processing pass leads to. -/
theorem advance_processing {rounds : Nat} {readiness : EncryptionReadinessPollOutcome}
    (phase : state.phase = .processing rounds readiness) :
    ∃ outcome finishedAtMs, (state.advance outcomes).deadlineAtMs = state.deadlineAtMs ∧
      state.nowMs ≤ finishedAtMs ∧ (state.advance outcomes).nowMs = finishedAtMs ∧
      (state.advance outcomes).phase = afterPass finishedAtMs rounds readiness outcome ∧
      (state.advance outcomes).activities = state.activities ++
        [.pass state.nowMs finishedAtMs outcome] := by
  refine ⟨outcomes.submitCustomEncryptedScores state.activities.length,
    state.nowMs + outcomes.durationMs state.activities.length, ?_⟩
  rw [Lifecycle.advance, phase]
  exact ⟨rfl, by omega, rfl, rfl, rfl⟩

theorem advance_ended (ended : state.ended = true) : state.advance outcomes = state := by
  rw [Lifecycle.ended] at ended
  rw [Lifecycle.advance]
  cases phase : state.phase <;> rw [phase] at ended <;> first | rfl | cases ended

/-- The phase after a poll. -/
theorem afterPoll_cases (deadlineAtMs nowMs : Int) (rounds : Nat) (submittedAtMs : Int)
    (polledAtOffsetsMs : List Int) (outcome : Except String CheckEncryptionReadinessResult) :
    (∃ failure, afterPoll deadlineAtMs nowMs rounds submittedAtMs polledAtOffsetsMs outcome =
      .failed failure) ∨
    (∃ result readiness, outcome = .ok result ∧ result.ready = true ∧
      afterPoll deadlineAtMs nowMs rounds submittedAtMs polledAtOffsetsMs outcome =
        .processing rounds readiness) ∨
    (nowMs < deadlineAtMs ∧ ∃ offsets,
      afterPoll deadlineAtMs nowMs rounds submittedAtMs polledAtOffsetsMs outcome =
        .polling rounds submittedAtMs offsets) := by
  cases outcome with
  | error message => exact Or.inl ⟨_, rfl⟩
  | ok result =>
      cases ready : result.ready with
      | true => exact Or.inr (Or.inl ⟨result, _, rfl, ready, if_pos ready⟩)
      | false =>
          have unready : afterPoll deadlineAtMs nowMs rounds submittedAtMs polledAtOffsetsMs
              (.ok result) = _ := if_neg (ready ▸ Bool.false_ne_true)
          rw [unready]
          split
          · exact Or.inl ⟨_, rfl⟩
          · rename_i early
            exact Or.inr (Or.inr ⟨Int.not_le.mp early, _, rfl⟩)

end Steps

/-! ## Runs -/

/-- What is known of a run up to an activity, if no late pass has found a pending score. -/
structure Lifecycle.OnTime (deadlineAtMs : Int) (state : Lifecycle) : Prop where
  deadline : state.deadlineAtMs = deadlineAtMs
  anchored : Anchored deadlineAtMs state.activities
  polling : ∀ rounds submittedAtMs offsets, state.phase = .polling rounds submittedAtMs offsets →
    (∀ activity ∈ state.activities, activity.Early deadlineAtMs) ∧
    state.activities.length ≤ 2 * state.activities.countP LifecycleActivity.isPoll ∧
    ∃ lastMs < deadlineAtMs, lastMs ≤ state.nowMs ∧ deadlineAtMs - deepIdEncryptionDeadlineMs +
      60000 * state.activities.countP LifecycleActivity.isPoll ≤ lastMs
  processing : ∀ rounds readiness, state.phase = .processing rounds readiness →
    ∃ polled activity, state.activities = polled ++ [activity] ∧
    (∀ earlier ∈ polled, earlier.Early deadlineAtMs) ∧ activity.readyAt state.nowMs ∧
    polled.length ≤ 2 * polled.countP LifecycleActivity.isPoll ∧
    deadlineAtMs - deepIdEncryptionDeadlineMs + 60000 * polled.countP LifecycleActivity.isPoll <
      deadlineAtMs ∧
    (state.nowMs < deadlineAtMs → deadlineAtMs - deepIdEncryptionDeadlineMs +
      60000 * (polled.countP LifecycleActivity.isPoll + 1) ≤ state.nowMs)

section Runs

variable {outcomes : LifecycleOutcomes} {deadlineAtMs : Int} {state : Lifecycle}

theorem countP_isPoll_append_poll (activities : List LifecycleActivity)
    (startedAtMs finishedAtMs : Int) (outcome : Except String CheckEncryptionReadinessResult) :
    (activities ++ [LifecycleActivity.poll startedAtMs finishedAtMs outcome]).countP
        LifecycleActivity.isPoll =
      activities.countP LifecycleActivity.isPoll + 1 := by
  rw [List.countP_append]
  rfl

/-- A poll keeps a run on time. -/
theorem onTime_polling (onTime : state.OnTime deadlineAtMs) {rounds : Nat} {submittedAtMs : Int}
    {offsets : List Int} (phase : state.phase = .polling rounds submittedAtMs offsets) :
    (state.advance outcomes).OnTime deadlineAtMs := by
  rcases onTime.polling rounds submittedAtMs offsets phase with
    ⟨early, passes, lastMs, lastEarly, lastBefore, minutes⟩
  rcases advance_polling outcomes phase with
    ⟨startedAtMs, outcome, deadline, now, next, activities⟩
  have minute := minute_le_pollEndsMs outcomes state offsets.length
  generalize ends : state.pollEndsMs outcomes offsets.length = endMs at *
  rw [onTime.deadline] at next minute
  have cases := afterPoll_cases deadlineAtMs endMs rounds submittedAtMs offsets outcome
  rw [← next] at cases
  constructor
  · rw [deadline, onTime.deadline]
  · rw [activities, anchored_append early]
    exact anchored_single _
  · intro otherRounds otherMs otherOffsets polling
    rw [polling] at cases
    rcases cases with ⟨_, failed⟩ | ⟨_, _, _, _, processing⟩ | ⟨before, _⟩
    · cases failed
    · cases processing
    · rw [activities, countP_isPoll_append_poll, List.length_append, List.length_singleton]
      refine ⟨?_, by omega, endMs, before, Int.le_of_eq now.symm, by omega⟩
      intro activity member
      rcases List.mem_append.mp member with earlier | last
      · exact early activity earlier
      · rw [List.mem_singleton.mp last]
        exact before
  · intro otherRounds readiness processing
    rw [processing] at cases
    rcases cases with ⟨_, failed⟩ | ⟨result, _, ready, isReady, _⟩ | ⟨_, _, polling⟩
    · cases failed
    · refine ⟨state.activities, _, activities, early, ?_, passes, by omega, by omega⟩
      rw [ready, now]
      exact ⟨rfl, isReady⟩
    · cases polling

/-- A pass that is not late, or finds no pending score, keeps a run on time. -/
theorem onTime_processing (onTime : state.OnTime deadlineAtMs) {rounds : Nat}
    {readiness : EncryptionReadinessPollOutcome}
    (phase : state.phase = .processing rounds readiness)
    (punctual : ∀ activity ∈ (state.advance outcomes).activities,
      ¬activity.LatePending deadlineAtMs) :
    (state.advance outcomes).OnTime deadlineAtMs := by
  rcases onTime.processing rounds readiness phase with
    ⟨polled, activity, logged, early, ready, passes, before, minutes⟩
  rcases advance_processing outcomes phase with
    ⟨outcome, finishedAtMs, deadline, later, now, next, activities⟩
  have joined : (state.advance outcomes).activities =
      polled ++ [activity, .pass state.nowMs finishedAtMs outcome] := by
    rw [activities, logged, List.append_assoc]
    rfl
  have poll : activity.isPoll = true := by
    cases activity with
    | poll => rfl
    | pass => exact ready.elim
  constructor
  · rw [deadline, onTime.deadline]
  · rw [joined, anchored_append early]
    exact ⟨Or.inr (Or.inr ⟨⟨_, ready⟩, _, rfl, rfl⟩), anchored_single _⟩
  · intro otherRounds otherMs otherOffsets polling
    rw [next] at polling
    have early' : state.nowMs < deadlineAtMs := by
      cases outcome with
      | error => cases polling
      | ok submission =>
          cases submission with
          | submitted => cases polling
          | pendingEncryption result =>
              have last : .pass state.nowMs finishedAtMs (.ok (.pendingEncryption result)) ∈
                  (state.advance outcomes).activities := by
                rw [activities]
                exact List.mem_append_right _ (List.mem_singleton_self _)
              exact Int.not_le.mp (punctual _ last)
    have counted : (state.advance outcomes).activities.countP LifecycleActivity.isPoll =
        polled.countP LifecycleActivity.isPoll + 1 := by
      rw [joined, List.countP_append, List.countP_cons_of_pos poll]
      rfl
    have minute := minutes early'
    rw [counted]
    refine ⟨?_, ?_, state.nowMs, early', by omega, by omega⟩
    · rw [joined]
      intro other member
      rcases List.mem_append.mp member with earlier | last
      · exact early other earlier
      · rcases List.mem_cons.mp last with same | last
        · rw [same]
          cases activity with
          | pass => trivial
          | poll started finished result =>
              cases result with
              | error => exact ready.elim
              | ok result =>
                  rw [LifecycleActivity.Early, ready.1]
                  exact early'
        · rw [List.mem_singleton.mp last]
          trivial
    · rw [joined, List.length_append]
      exact Nat.add_le_add_right passes 2
  · intro otherRounds otherReadiness processing
    rw [next] at processing
    rcases outcome with _ | _ | _ <;> cases processing

/-- Ended runs stay as they are, and so stay on time. -/
theorem onTime_advance (onTime : state.OnTime deadlineAtMs)
    (punctual : ∀ activity ∈ (state.advance outcomes).activities,
      ¬activity.LatePending deadlineAtMs) :
    (state.advance outcomes).OnTime deadlineAtMs := by
  cases phase : state.phase with
  | polling rounds submittedAtMs offsets => exact onTime_polling onTime phase
  | processing rounds readiness => exact onTime_processing onTime phase punctual
  | resolved outcome | failed failure =>
      rw [advance_ended outcomes (by rw [Lifecycle.ended, phase])]
      exact onTime

variable {entryMs : Int}

theorem onTime_entered (entryMs : Int) :
    (Lifecycle.entered entryMs).OnTime (entryMs + deepIdEncryptionDeadlineMs) := by
  constructor
  · rfl
  · trivial
  · intro _ _ _ _
    refine ⟨fun _ absent => absurd absent List.not_mem_nil, Nat.le_refl 0, entryMs, ?_,
      Int.le_refl _, ?_⟩
    · rw [deepIdEncryptionDeadlineMs]
      omega
    · rw [Lifecycle.entered, List.countP_nil]
      omega
  · intro _ _ processing
    cases processing

/-- A run that has not ended has finished an activity in every step. -/
theorem length_activities (steps : Nat)
    (running : (runEncryptedCustomScoreLifecycle outcomes entryMs steps).ended = false) :
    (runEncryptedCustomScoreLifecycle outcomes entryMs steps).activities.length = steps := by
  induction steps with
  | zero => rfl
  | succ steps ih =>
      rw [runEncryptedCustomScoreLifecycle] at running ⊢
      cases before : (runEncryptedCustomScoreLifecycle outcomes entryMs steps).ended with
      | true =>
          rw [advance_ended outcomes before, before] at running
          cases running
      | false =>
          have length := ih before
          rw [Lifecycle.ended] at before
          cases phase : (runEncryptedCustomScoreLifecycle outcomes entryMs steps).phase with
          | polling rounds submittedAtMs offsets =>
              rcases advance_polling outcomes phase with ⟨_, _, _, _, _, activities⟩
              rw [activities, List.length_append, length]
              rfl
          | processing rounds readiness =>
              rcases advance_processing outcomes phase with
                ⟨_, _, _, _, _, _, activities⟩
              rw [activities, List.length_append, length]
              rfl
          | resolved | failed =>
              rw [phase] at before
              cases before

/-- A run on time ends within the bound. -/
theorem ended_of_onTime (onTime :
    (runEncryptedCustomScoreLifecycle outcomes entryMs lifecycleBound).OnTime deadlineAtMs) :
    (runEncryptedCustomScoreLifecycle outcomes entryMs lifecycleBound).ended = true := by
  cases ended : (runEncryptedCustomScoreLifecycle outcomes entryMs lifecycleBound).ended with
  | true => rfl
  | false =>
      have length := length_activities lifecycleBound ended
      rw [Lifecycle.ended] at ended
      cases phase : (runEncryptedCustomScoreLifecycle outcomes entryMs lifecycleBound).phase with
      | polling rounds submittedAtMs offsets =>
          rcases onTime.polling rounds submittedAtMs offsets phase with
            ⟨_, passes, lastMs, early, _, minutes⟩
          rw [length] at passes
          have bound : lifecycleBound = 2880 := rfl
          rw [deepIdEncryptionDeadlineMs] at minutes
          omega
      | processing rounds readiness =>
          rcases onTime.processing rounds readiness phase with
            ⟨polled, activity, logged, _, _, passes, minutes, _⟩
          rw [logged, List.length_append, List.length_singleton] at length
          have bound : lifecycleBound = 2880 := rfl
          rw [deepIdEncryptionDeadlineMs] at minutes
          omega
      | resolved | failed =>
          rw [phase] at ended
          cases ended

/-- A processing pass follows a ready poll that has just finished. -/
theorem ready_of_processing (steps : Nat) {rounds : Nat}
    {readiness : EncryptionReadinessPollOutcome}
    (phase : (runEncryptedCustomScoreLifecycle outcomes entryMs steps).phase =
      .processing rounds readiness) :
    ∃ polled activity, (runEncryptedCustomScoreLifecycle outcomes entryMs steps).activities =
        polled ++ [activity] ∧
      activity.readyAt (runEncryptedCustomScoreLifecycle outcomes entryMs steps).nowMs := by
  cases steps with
  | zero => cases phase
  | succ steps =>
      rw [runEncryptedCustomScoreLifecycle] at phase ⊢
      cases before : (runEncryptedCustomScoreLifecycle outcomes entryMs steps).phase with
      | polling earlier submittedAtMs offsets =>
          rcases advance_polling outcomes before with
            ⟨startedAtMs, outcome, _, now, next, activities⟩
          have cases := afterPoll_cases
            (runEncryptedCustomScoreLifecycle outcomes entryMs steps).deadlineAtMs
            ((runEncryptedCustomScoreLifecycle outcomes entryMs steps).pollEndsMs outcomes
              offsets.length) earlier submittedAtMs offsets outcome
          rw [← next, phase] at cases
          rcases cases with ⟨_, failed⟩ | ⟨result, _, ready, isReady, _⟩ | ⟨_, _, polling⟩
          · cases failed
          · refine ⟨_, _, activities, ?_⟩
            rw [ready, now]
            exact ⟨rfl, isReady⟩
          · cases polling
      | processing earlier others =>
          rcases advance_processing outcomes before with ⟨outcome, _, _, _, _, next, _⟩
          rw [phase] at next
          rcases outcome with _ | _ | _ <;> cases next
      | resolved | failed =>
          rw [advance_ended outcomes (by rw [Lifecycle.ended, before]), before] at phase
          cases phase

/-- The state before a late pass that found a pending score. -/
theorem exists_latePending {steps : Nat} {activity : LifecycleActivity}
    (member : activity ∈ (runEncryptedCustomScoreLifecycle outcomes entryMs steps).activities)
    (late : activity.LatePending deadlineAtMs) :
    ∃ earlier rounds readiness,
      (runEncryptedCustomScoreLifecycle outcomes entryMs earlier).phase =
        .processing rounds readiness ∧
      (runEncryptedCustomScoreLifecycle outcomes entryMs (earlier + 1)).activities =
        (runEncryptedCustomScoreLifecycle outcomes entryMs earlier).activities ++ [activity] ∧
      deadlineAtMs ≤ (runEncryptedCustomScoreLifecycle outcomes entryMs earlier).nowMs ∧
      ∃ submittedAtMs, (runEncryptedCustomScoreLifecycle outcomes entryMs (earlier + 1)).phase =
        .polling (rounds + 1) submittedAtMs [] := by
  induction steps with
  | zero => exact absurd member List.not_mem_nil
  | succ steps ih =>
      cases before : (runEncryptedCustomScoreLifecycle outcomes entryMs steps).phase with
      | polling rounds submittedAtMs offsets =>
          rcases advance_polling outcomes before with ⟨_, _, _, _, _, activities⟩
          rw [runEncryptedCustomScoreLifecycle, activities] at member
          rcases List.mem_append.mp member with earlier | last
          · exact ih earlier
          · rw [List.mem_singleton.mp last] at late
            exact late.elim
      | processing rounds readiness =>
          rcases advance_processing outcomes before with
            ⟨outcome, finishedAtMs, _, _, _, next, activities⟩
          rw [runEncryptedCustomScoreLifecycle, activities] at member
          rcases List.mem_append.mp member with earlier | last
          · exact ih earlier
          · have same := List.mem_singleton.mp last
            rw [same] at late ⊢
            rcases outcome with _ | _ | pending
            · exact late.elim
            · exact late.elim
            · exact ⟨steps, rounds, readiness, before, activities, late, finishedAtMs, next⟩
      | resolved | failed =>
          rw [runEncryptedCustomScoreLifecycle,
            advance_ended outcomes (by rw [Lifecycle.ended, before])] at member
          exact ih member

end Runs

/-- A poll follows a late pass that found a pending score. -/
theorem not_anchored_of_latePending {outcomes : LifecycleOutcomes} {entryMs deadlineAtMs : Int}
    {steps : Nat} {activity : LifecycleActivity}
    (member : activity ∈ (runEncryptedCustomScoreLifecycle outcomes entryMs steps).activities)
    (late : activity.LatePending deadlineAtMs) :
    ∃ steps, ¬Anchored deadlineAtMs
      (runEncryptedCustomScoreLifecycle outcomes entryMs steps).activities := by
  rcases exists_latePending member late with
    ⟨earlier, rounds, readiness, processing, logged, after, submittedAtMs, polling⟩
  rcases ready_of_processing earlier processing with ⟨polled, poll, activities, ready⟩
  rcases advance_polling outcomes polling with ⟨_, _, _, _, _, next⟩
  refine ⟨earlier + 2, ?_⟩
  rw [runEncryptedCustomScoreLifecycle, next, logged, activities, List.append_assoc,
    List.append_assoc]
  intro anchored
  rcases anchored.suffix.1 with early | empty | ⟨_, _, _, single⟩
  · cases poll with
    | pass => exact ready.elim
    | poll _ _ outcome =>
        cases outcome with
        | error => exact ready.elim
        | ok result =>
            rw [LifecycleActivity.Early, ready.1] at early
            omega
  · exact absurd (congrArg List.length empty) (by simp)
  · exact absurd (congrArg List.length single) (by simp)

/-- The deadline is anchored, and the lifecycle ends within the bound, exactly if no pass
that is started at or after the deadline finds a pending score. -/
theorem lifecycle_anchored_iff (outcomes : LifecycleOutcomes) (entryMs : Int) :
    ((∀ steps, Anchored (entryMs + deepIdEncryptionDeadlineMs)
        (runEncryptedCustomScoreLifecycle outcomes entryMs steps).activities) ∧
      (runEncryptedCustomScoreLifecycle outcomes entryMs lifecycleBound).ended = true) ↔
    ∀ steps, ∀ activity ∈ (runEncryptedCustomScoreLifecycle outcomes entryMs steps).activities,
      ¬activity.LatePending (entryMs + deepIdEncryptionDeadlineMs) := by
  constructor
  · intro ⟨anchored, _⟩ steps activity member late
    rcases not_anchored_of_latePending member late with ⟨later, unanchored⟩
    exact unanchored (anchored later)
  · intro punctual
    have onTime : ∀ steps, (runEncryptedCustomScoreLifecycle outcomes entryMs steps).OnTime
        (entryMs + deepIdEncryptionDeadlineMs) := by
      intro steps
      induction steps with
      | zero => exact onTime_entered entryMs
      | succ steps ih => exact onTime_advance ih (punctual (steps + 1))
    exact ⟨fun steps => (onTime steps).anchored, ended_of_onTime (onTime lifecycleBound)⟩

/-- Ready polls and passes that find a pending score alternate without end. -/
theorem alternation_never_ends {outcomes : LifecycleOutcomes}
    (ready : ∀ count, ∃ result, outcomes.checkEncryptionReadiness count = .ok result ∧
      result.ready = true)
    (pending : ∀ count, ∃ result, outcomes.submitCustomEncryptedScores count =
      .ok (.pendingEncryption result)) (entryMs : Int) (steps : Nat) :
    (runEncryptedCustomScoreLifecycle outcomes entryMs steps).ended = false := by
  induction steps with
  | zero => rfl
  | succ steps ih =>
      rw [Lifecycle.ended] at ih
      rw [runEncryptedCustomScoreLifecycle, Lifecycle.ended, Lifecycle.advance]
      cases phase : (runEncryptedCustomScoreLifecycle outcomes entryMs steps).phase with
      | polling rounds submittedAtMs offsets =>
          rcases ready (runEncryptedCustomScoreLifecycle outcomes entryMs steps).activities.length
            with ⟨result, checked, isReady⟩
          simp only [checked, afterPoll, isReady, if_true]
      | processing rounds readiness =>
          rcases pending (runEncryptedCustomScoreLifecycle outcomes entryMs steps).activities.length
            with ⟨result, submitted⟩
          simp only [submitted, afterPass]
      | resolved | failed =>
          rw [phase] at ih
          cases ih

/-- Every activity takes a day; each poll is ready, and each pass finds a pending score. -/
private def regressions : LifecycleOutcomes where
  timerLatenessMs _ := 0
  durationMs _ := 86400000
  checkEncryptionReadiness _ := .ok ⟨true, ⟨1, 0, 0⟩, 1, 1, 0, none⟩
  submitCustomEncryptedScores _ := .ok (.pendingEncryption ⟨0, 0, 1, 1, 0, none⟩)

/-- A regression after the deadline leads to another poll, and so on for ever. -/
theorem regression_extends_deadline :
    ¬(∀ steps, Anchored (0 + deepIdEncryptionDeadlineMs)
        (runEncryptedCustomScoreLifecycle regressions 0 steps).activities) ∧
      ∀ steps, (runEncryptedCustomScoreLifecycle regressions 0 steps).ended = false := by
  constructor
  · intro anchored
    have second : .pass 86460000 172860000 (.ok (.pendingEncryption ⟨0, 0, 1, 1, 0, none⟩)) ∈
        (runEncryptedCustomScoreLifecycle regressions 0 2).activities :=
      List.mem_append_right _ (List.mem_singleton_self _)
    have late : (LifecycleActivity.pass 86460000 172860000 (.ok (.pendingEncryption
        ⟨0, 0, 1, 1, 0, none⟩))).LatePending (0 + deepIdEncryptionDeadlineMs) :=
      (by decide : 0 + deepIdEncryptionDeadlineMs ≤ 86460000)
    rcases not_anchored_of_latePending second late with ⟨steps, unanchored⟩
    exact unanchored (anchored steps)
  · exact alternation_never_ends (fun _ => ⟨_, rfl, rfl⟩) (fun _ => ⟨_, rfl⟩) 0

end Reputo.CustomScore

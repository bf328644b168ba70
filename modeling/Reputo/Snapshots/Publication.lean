import Reputo.Snapshots.RunSteps

/-!
# Scores of completed snapshots

A run that starts on a row which is neither failed nor cancelled, and whose row no other
party settles so before the run has completed it, sends scores only while the row is in
order.  The run itself does not notice when its own writes of the row are ignored, and
looks at the status only once, at its start.
-/

namespace Reputo.Snapshots

open Reputo.Library

variable {ν : Type}

/-! ## Exposure -/

/-- The run has read its row, and is to send scores on the strength of it. -/
def OrchestratorRun.exposed (run : OrchestratorRun ν) : Bool :=
  match run.phase with
  | .fetching (some row) => !unsuccessful row.status
  | .marking _ => true
  | phase => phase.inPhases

/-- The run has read the completed row, and is about to post its scores. -/
def OrchestratorRun.aboutToPost (run : OrchestratorRun ν) : Bool :=
  match run.phase with
  | .rereading (some _) | .recordingPending _ => true
  | _ => false

/-- The write does not settle the row of an exposed run as failed or cancelled. -/
def SparesRuns (state : OrchestratorState ν) (input : UpdateSnapshotInput ν) : Prop :=
  takesEffect state.db input = true → ∀ status, input.status = some status →
    unsuccessful status = true → ∀ run ∈ state.runs, run.snapshotId = input.snapshotId →
      run.exposed = false

/-- No run starts on a failed or cancelled row, no write settles the row of an exposed
run so, and no row is deleted whose scores are about to be posted. -/
def OrchestratorAction.Orderly (state : OrchestratorState ν) : OrchestratorAction ν → Prop
  | .resume position (.ok _) => ∀ run row, state.runs[position]? = some run →
      run.phase = .fetching (some row) → unsuccessful row.status = false
  | .attempt position issued => ∀ run write, state.runs[position]? = some run →
      run.issued[issued]? = some write → SparesRuns state write.input
  | .update input => SparesRuns state input
  | .delete snapshotId => ∀ run ∈ state.runs, run.snapshotId = snapshotId →
      run.aboutToPost = false
  | _ => True

instance (state : OrchestratorState ν) (input : UpdateSnapshotInput ν) :
    Decidable (SparesRuns state input) :=
  inferInstanceAs (Decidable (takesEffect state.db input = true → ∀ status ∈ input.status,
    unsuccessful status = true → ∀ run ∈ state.runs, run.snapshotId = input.snapshotId →
      run.exposed = false))

/-- The row that a run starts on, and has not judged yet. -/
def RunPhase.startsOn : RunPhase ν → Option (SnapshotRow ν)
  | .fetching row => row
  | _ => none

theorem RunPhase.startsOn_eq_some {phase : RunPhase ν} {row : SnapshotRow ν} :
    phase.startsOn = some row ↔ phase = .fetching (some row) := by
  cases phase <;> simp [RunPhase.startsOn]

instance OrchestratorAction.Orderly.decidable (state : OrchestratorState ν) :
    (action : OrchestratorAction ν) → Decidable (action.Orderly state)
  | .resume position (.ok _) =>
      decidable_of_iff (∀ run ∈ state.runs[position]?, ∀ row ∈ run.phase.startsOn,
          unsuccessful row.status = false) (by
        simp only [Option.mem_def, RunPhase.startsOn_eq_some, OrchestratorAction.Orderly]
        exact forall_congr' fun run => forall_comm)
  | .attempt position issued =>
      decidable_of_iff (∀ run ∈ state.runs[position]?, ∀ write ∈ run.issued[issued]?,
          SparesRuns state write.input)
        (forall_congr' fun run => forall_comm)
  | .update input => inferInstanceAs (Decidable (SparesRuns state input))
  | .delete snapshotId =>
      inferInstanceAs (Decidable (∀ run ∈ state.runs, run.snapshotId = snapshotId →
        run.aboutToPost = false))
  | .resume _ (.error _) | .tick _ | .start .. | .read _ | .record _ => isTrue trivial

/-- What a call that sends scores asks of the row at that time. -/
def ScoreCall.Justified : ScoreCall → Option SnapshotStatus → Prop
  | .postSnapshotScores, status => status = some .completed
  | .submitCustomRawScores, status | .submitCustomEncryptedScores, status =>
      status ≠ some .failed ∧ status ≠ some .cancelled

/-! ## Statuses along a run -/

def Unsettled (status : Option SnapshotStatus) : Prop :=
  ∀ current, status = some current → unsuccessful current = false

def Begun (status : Option SnapshotStatus) : Prop :=
  ∀ current, status = some current → current = .running ∨ current = .completed

def Finished (status : Option SnapshotStatus) : Prop :=
  ∀ current, status = some current → current = .completed

theorem Begun.unsettled {status : Option SnapshotStatus} (begun : Begun status) :
    Unsettled status := by
  intro current same
  rcases begun current same with running | completed
  · rw [running]
    rfl
  · rw [completed]
    rfl

section Moves

variable {before after : Option SnapshotStatus}

theorem Unsettled.moves (unsettled : Unsettled before) (moves : Moves true before after) :
    Unsettled after := by
  rcases moves with same | gone | ⟨current, next, _, changed, _, careful⟩
  · exact same ▸ unsettled
  · exact fun current present => nomatch gone.symm.trans present
  · intro other same
    cases changed.symm.trans same
    exact careful rfl

theorem Begun.moves (begun : Begun before) (moves : Moves true before after) : Begun after := by
  rcases moves with same | gone | ⟨current, next, present, changed, allowed, careful⟩
  · exact same ▸ begun
  · exact fun current present => nomatch gone.symm.trans present
  · intro other same
    cases changed.symm.trans same
    have safe := careful rfl
    rcases begun current present with running | completed
    · subst running
      cases next <;> simp_all [canTransition, unsuccessful, terminalSnapshotStatuses]
    · subst completed
      cases next <;> simp_all [canTransition]

theorem Finished.moves {careful : Bool} (finished : Finished before)
    (moves : Moves careful before after) : Finished after := by
  rcases moves with same | gone | ⟨current, next, present, changed, allowed, _⟩
  · exact same ▸ finished
  · exact fun current present => nomatch gone.symm.trans present
  · intro other same
    cases changed.symm.trans same
    have completed := finished current present
    subst completed
    exact (canTransition_of_terminal List.mem_cons_self).mp allowed

end Moves

section Attempts

variable {db : SnapshotDatabase ν} (clock : ClockReadings) {input : UpdateSnapshotInput ν}

/-- After an attempt of the running write, an unsettled row runs or is completed. -/
theorem begun_of_attempt (requested : input.status = some .running)
    (unsettled : Unsettled (statusOf db input.snapshotId)) :
    Begun (statusOf (serviceApplyExternalUpdate db clock input).1 input.snapshotId) := by
  rw [statusOf_service]
  split
  · rw [requested]
    intro current same
    exact Or.inl (Option.some.inj same).symm
  · rename_i ineffective
    intro current present
    have blocked : canTransition current .running = false := by
      cases allowed : canTransition current .running with
      | false => rfl
      | true =>
          exact absurd ⟨rfl, by simp [takesEffect, present, requested, allowed]⟩ ineffective
    have safe := unsettled current present
    cases current <;> simp_all [canTransition, unsuccessful]

/-- After an attempt of the completing write, a row that has begun is completed. -/
theorem finished_of_attempt (requested : input.status = some .completed)
    (begun : Begun (statusOf db input.snapshotId)) :
    Finished (statusOf (serviceApplyExternalUpdate db clock input).1 input.snapshotId) := by
  rw [statusOf_service]
  split
  · rw [requested]
    intro current same
    exact (Option.some.inj same).symm
  · rename_i ineffective
    intro current present
    have blocked : canTransition current .completed = false := by
      cases allowed : canTransition current .completed with
      | false => rfl
      | true =>
          exact absurd ⟨rfl, by simp [takesEffect, present, requested, allowed]⟩ ineffective
    rcases begun current present with running | completed
    · subst running
      exact absurd blocked (by decide)
    · exact completed

end Attempts

/-! ## The invariant -/

/-- An attempt of the write that was issued last has found the row. -/
def OrchestratorRun.lastAttempted (run : OrchestratorRun ν) : Prop :=
  ∃ write, run.issued.getLast? = some write ∧ write.attempted = true

/-- What holds of the row of a run in each phase. -/
def Stage (run : OrchestratorRun ν) (status : Option SnapshotStatus) : Prop :=
  match run.phase with
  | .fetching (some row) => unsuccessful row.status = false → Unsettled status
  | .marking _ => Unsettled status ∧ (run.lastAttempted → Begun status)
  | .completing _ => Begun status ∧ (run.lastAttempted → Finished status)
  | .rereading none => Finished status
  | .rereading (some _) | .recordingPending _ => status = some .completed
  | phase => phase.inPhases = true → Begun status

structure PublicationSound (state : OrchestratorState ν) : Prop where
  issued : ∀ run ∈ state.runs, IssuedSound run
  stage : ∀ run ∈ state.runs, Stage run (statusOf state.db run.snapshotId)
  calls : ∀ call ∈ state.calls, call.1.Justified call.2

/-- A completed row stays so, unless it is deleted. -/
theorem completed_moves {careful : Bool} {before after : Option SnapshotStatus}
    (completed : before = some .completed) (moves : Moves careful before after)
    (kept : after = none → before = none) : after = some .completed := by
  have finished : Finished before := by
    intro current present
    exact Option.some.inj (present.symm.trans completed)
  cases later : after with
  | none => exact nomatch (kept later).symm.trans completed
  | some current => rw [finished.moves moves current later]

/-- The stage of a run survives what happens to its row. -/
theorem Stage.moves {run : OrchestratorRun ν} {before after : Option SnapshotStatus}
    (stage : Stage run before) (moves : Moves run.exposed before after)
    (kept : run.aboutToPost = true → after = none → before = none) : Stage run after := by
  simp only [Stage, OrchestratorRun.exposed, OrchestratorRun.aboutToPost] at stage moves kept ⊢
  cases phase : run.phase with
  | fetching read =>
      rw [phase] at stage moves
      cases read with
      | none => exact fun inside => nomatch inside
      | some row =>
          intro safe
          simp only [safe] at moves
          exact (stage safe).moves moves
  | marking snapshot =>
      rw [phase] at stage moves
      exact ⟨stage.1.moves moves, fun attempted => (stage.2 attempted).moves moves⟩
  | completing outputs =>
      rw [phase] at stage moves
      exact ⟨stage.1.moves moves, fun attempted => (stage.2 attempted).moves moves⟩
  | rereading read =>
      rw [phase] at stage moves kept
      cases read with
      | none => exact stage.moves moves
      | some row => exact completed_moves stage moves (kept rfl)
  | recordingPending row =>
      rw [phase] at stage moves kept
      exact completed_moves stage moves (kept rfl)
  | posting | recordingResult | recordingFailure | ended => exact fun inside => nomatch inside
  | _ =>
      rw [phase] at stage moves
      exact fun _ => (stage rfl).moves moves

/-! ## Steps -/

section Steps

variable {state : OrchestratorState ν}

/-- A write by the service that spares the exposed runs keeps all stages. -/
theorem PublicationSound.update (sound : PublicationSound state) (clock : ClockReadings)
    {input : UpdateSnapshotInput ν} (spares : SparesRuns state input) :
    ∀ run ∈ state.runs,
      Stage run (statusOf (serviceApplyExternalUpdate state.db clock input).1 run.snapshotId) := by
  intro run member
  apply (sound.stage run member).moves
  · apply moves_of_update
    intro same effect status requested harmful
    exact spares effect status requested harmful run member same
  · intro _ gone
    rw [statusOf_service] at gone
    split at gone
    · exact (Option.or_eq_none_iff.mp gone).2
    · exact gone

/-- After an attempt of a write, the last write was attempted before or is that one. -/
theorem lastAttempted_set {run : OrchestratorRun ν} {position : Nat} {write new : IssuedWrite ν}
    (found : run.issued[position]? = some write)
    (attempted : OrchestratorRun.lastAttempted
      { run with issued := run.issued.set position new }) :
    run.lastAttempted ∨ run.issued.getLast? = some write := by
  rcases attempted with ⟨last, isLast, noted⟩
  rw [List.getLast?_eq_getElem?, List.length_set, List.getElem?_set] at isLast
  split at isLast
  · rename_i same
    rw [List.getLast?_eq_getElem?, ← same]
    exact Or.inr found
  · rw [← List.getLast?_eq_getElem?] at isLast
    exact Or.inl ⟨last, isLast, noted⟩

/-- The write that was issued last is the one the phase waits for. -/
theorem IssuedSound.last {run : OrchestratorRun ν} {write : IssuedWrite ν}
    {status : Option SnapshotStatus} (issued : IssuedSound run)
    (waits : run.phase.awaited = some status) (isLast : run.issued.getLast? = some write) :
    write.input.status = status ∧ write.input.snapshotId = run.snapshotId := by
  have input : run.inputs.getLast? = some write.input := by
    rw [OrchestratorRun.inputs, List.getLast?_map, isLast]
    rfl
  rcases issued.awaited status waits with ⟨before, awaited, inputs, requested⟩
  rw [inputs, List.getLast?_concat] at input
  cases input
  exact ⟨requested, issued.owner _ (inputs ▸ List.mem_append_right _ (List.mem_singleton_self _))⟩

/-- An attempt of one of its writes keeps the stage of a run. -/
theorem Stage.attempt {run : OrchestratorRun ν} {db : SnapshotDatabase ν} (clock : ClockReadings)
    {position : Nat} {write : IssuedWrite ν} (issued : IssuedSound run)
    (found : run.issued[position]? = some write)
    (before : Stage run (statusOf db run.snapshotId))
    (after : Stage run (statusOf (serviceApplyExternalUpdate db clock write.input).1
      run.snapshotId)) :
    Stage { run with issued := run.issued.set position (write.attempt db) }
      (statusOf (serviceApplyExternalUpdate db clock write.input).1 run.snapshotId) := by
  simp only [Stage] at before after ⊢
  cases phase : run.phase with
  | marking snapshot =>
      rw [phase] at before after
      refine ⟨after.1, ?_⟩
      intro attempted
      rcases lastAttempted_set found attempted with earlier | isLast
      · exact after.2 earlier
      · rcases issued.last (by rw [phase]; rfl) isLast with ⟨requested, owner⟩
        rw [← owner]
        exact begun_of_attempt clock requested (owner ▸ before.1)
  | completing outputs =>
      rw [phase] at before after
      refine ⟨after.1, ?_⟩
      intro attempted
      rcases lastAttempted_set found attempted with earlier | isLast
      · exact after.2 earlier
      · rcases issued.last (by rw [phase]; rfl) isLast with ⟨requested, owner⟩
        rw [← owner]
        exact finished_of_attempt clock requested (owner ▸ before.1)
  | fetching read | rereading read =>
      rw [phase] at after
      cases read <;> exact after
  | _ =>
      rw [phase] at after
      exact after

/-- Inside the phases the row has begun. -/
theorem Stage.begun {run : OrchestratorRun ν} {status : Option SnapshotStatus}
    (stage : Stage run status) (inside : run.phase.inPhases = true) : Begun status := by
  rw [Stage] at stage
  cases phase : run.phase with
  | completing outputs =>
      rw [phase] at stage
      exact stage.1
  | fetching | marking | recordingFailure | rereading | recordingPending | posting
  | recordingResult | ended =>
      rw [phase] at inside
      exact nomatch inside
  | _ =>
      rw [phase] at stage
      exact stage rfl

theorem stage_of_begun {run : OrchestratorRun ν} {status : Option SnapshotStatus}
    (begun : Begun status) (inside : run.phase.inPhases = true)
    (fresh : run.phase.awaitsWrite = true → ¬ run.lastAttempted) : Stage run status := by
  rw [Stage]
  cases phase : run.phase with
  | completing outputs =>
      exact ⟨begun, fun attempted => absurd attempted (fresh (by rw [phase]; rfl))⟩
  | fetching | marking | recordingFailure | rereading | recordingPending | posting
  | recordingResult | ended =>
      rw [phase] at inside
      exact nomatch inside
  | _ => exact fun _ => begun

/-- The stage of a run after it has gone on. -/
theorem Stage.resume {run next : OrchestratorRun ν} {now : Nat} {outcome : Outcome}
    {status : Option SnapshotStatus} (stage : Stage run status)
    (resumed : run.resume now outcome = some next)
    (orderly : ∀ row, run.phase = .fetching (some row) → outcome = .ok .done →
      unsuccessful row.status = false)
    (confirmed : ∀ reply, outcome = .ok reply → run.phase.awaitsWrite = true →
      run.lastAttempted)
    (fresh : next.phase.awaitsWrite = true → ¬ next.lastAttempted) : Stage next status := by
  have ended : ∀ phase : RunPhase ν, next.phase = phase → phase.inPhases = false →
      (∀ read, phase ≠ .fetching read) → (∀ row, phase ≠ .marking row) →
      (∀ read, phase ≠ .rereading read) → (∀ row, phase ≠ .recordingPending row) →
      Stage next status := by
    intro phase same outside notFetching notMarking notRereading notPending
    rw [Stage, same]
    cases phase with
    | fetching read => exact absurd rfl (notFetching read)
    | marking row => exact absurd rfl (notMarking row)
    | rereading read => exact absurd rfl (notRereading read)
    | recordingPending row => exact absurd rfl (notPending row)
    | completing => exact nomatch outside
    | _ => exact fun inside => nomatch outside.symm.trans inside
  have stepped := (resume_eq_some resumed).1
  generalize before : run.phase = phase at stepped
  generalize after : next.phase = later at stepped
  cases stepped with
  | fetched unfinished =>
      rw [Stage, before] at stage
      rw [Stage, after]
      exact ⟨stage (orderly _ before rfl), fun attempted =>
        absurd attempted (fresh (by rw [after]; rfl))⟩
  | marked =>
      rw [Stage, before] at stage
      rw [Stage, after]
      exact fun _ => stage.2 (confirmed _ rfl (by rw [before]; rfl))
  | within inside onward =>
      exact stage_of_begun (stage.begun (before ▸ inside)) (after ▸ onward) fresh
  | failed =>
      apply ended _ after
      all_goals
        rw [failPhases]
        split
      all_goals first | rfl | exact fun _ same => nomatch same
  | completed =>
      rw [Stage, before] at stage
      have finished := stage.2 (confirmed _ rfl (by rw [before]; rfl))
      split at after
      · apply ended _ after rfl <;> exact fun _ same => nomatch same
      · rw [Stage, after]
        exact finished
  | reread =>
      rw [Stage, before] at stage
      rw [Stage, after]
      exact stage
  | _ => apply ended _ after rfl <;> exact fun _ same => nomatch same

/-- A write that was just issued has not been attempted. -/
theorem not_lastAttempted_resume {run next : OrchestratorRun ν} {now : Nat} {outcome : Outcome}
    (resumed : run.resume now outcome = some next) (waits : next.phase.awaitsWrite = true) :
    ¬ next.lastAttempted := by
  intro attempted
  rcases attempted with ⟨write, isLast, noted⟩
  have issued := (resume_eq_some resumed).2.2.1
  cases written : (run.learn outcome).write next.phase with
  | none =>
      have silent := write_eq_none_iff.mp written
      cases phase : next.phase <;>
        simp [phase, RunPhase.awaitsWrite, RunPhase.awaited] at waits silent
  | some input =>
      rw [issued, written, Option.map_some, Option.toList_some, List.getLast?_concat] at isLast
      rw [← Option.some.inj isLast] at noted
      exact absurd noted Bool.false_ne_true

/-- A run posts scores right after it has recorded the publication as pending. -/
theorem recordingPending_of_posting {state : SnapshotRunState} {phase : RunPhase ν}
    {outcome : Outcome} {row : SnapshotRow ν} (stepped : PhaseStep state phase outcome (.posting row)) :
    phase = .recordingPending row := by
  generalize posting : RunPhase.posting row = later at stepped
  cases stepped with
  | pending =>
      cases posting
      rfl
  | within _ after =>
      rw [← posting] at after
      exact nomatch after
  | failed =>
      rw [failPhases] at posting
      split at posting <;> exact nomatch posting
  | completed => split at posting <;> exact nomatch posting
  | _ => exact nomatch posting

/-- The calls of a run are justified by its stage. -/
theorem Stage.justified {run next : OrchestratorRun ν} {now : Nat} {outcome : Outcome}
    {status : Option SnapshotStatus} {call : ScoreCall} (before : Stage run status)
    (after : Stage next status) (resumed : run.resume now outcome = some next)
    (calls : next.phase.scoreCall = some call) : call.Justified status := by
  have sends : ∀ inside : next.phase.inPhases = true,
      status ≠ some .failed ∧ status ≠ some .cancelled := by
    intro inside
    have unsettled := (after.begun inside).unsettled
    constructor
    · exact fun same => nomatch unsettled _ same
    · exact fun same => nomatch unsettled _ same
  cases phase : next.phase with
  | submittingRaw | submittingEncrypted =>
      rw [phase] at calls
      cases calls
      exact sends (by rw [phase]; rfl)
  | posting row =>
      rw [phase] at calls
      cases calls
      have stepped := (resume_eq_some resumed).1
      rw [phase] at stepped
      rw [Stage, recordingPending_of_posting stepped] at before
      exact before
  | _ =>
      rw [phase] at calls
      exact nomatch calls

/-- Every orderly step keeps the invariant. -/
theorem PublicationSound.step {action : OrchestratorAction ν} {after : OrchestratorState ν}
    (sound : PublicationSound state) (orderly : action.Orderly state)
    (admissible : action.Admissible state) (performed : state.perform action = some after) :
    PublicationSound after := by
  cases action with
  | tick elapsed =>
      cases performed
      exact ⟨sound.issued, sound.stage, sound.calls⟩
  | start snapshotId workflowInfo =>
      cases performed
      refine ⟨?_, ?_, sound.calls⟩
      · intro run member
        rcases List.mem_append.mp member with old | new
        · exact sound.issued run old
        · rw [List.mem_singleton.mp new]
          exact ⟨fun _ member => (nomatch member), fun _ waits => (nomatch waits)⟩
      · intro run member
        rcases List.mem_append.mp member with old | new
        · exact sound.stage run old
        · rw [List.mem_singleton.mp new]
          exact fun inside => nomatch inside
  | read position =>
      rcases Option.bind_eq_some_iff.mp performed with ⟨run, found, performed⟩
      rcases Option.bind_eq_some_iff.mp performed with ⟨row, stored, performed⟩
      rcases Option.bind_eq_some_iff.mp performed with ⟨phase, received, performed⟩
      cases performed
      have member := List.mem_of_getElem? found
      have present := statusOf_of_findById stored
      refine ⟨?_, ?_, sound.calls⟩
      · intro other otherMember
        rcases List.mem_or_eq_of_mem_set otherMember with old | same
        · exact sound.issued other old
        · rw [same]
          refine ⟨(sound.issued run member).owner, ?_⟩
          intro status waits
          cases before : run.phase with
          | fetching | rereading =>
              rw [before] at received
              cases received
              cases waits
          | _ =>
              rw [before] at received
              exact nomatch received
      · intro other otherMember
        rcases List.mem_or_eq_of_mem_set otherMember with old | same
        · exact sound.stage other old
        · rw [same]
          have stage := sound.stage run member
          rw [Stage] at stage
          cases before : run.phase with
          | fetching read =>
              rw [before] at received
              cases received
              intro safe current same
              cases present.symm.trans same
              exact safe
          | rereading read =>
              rw [before] at received stage
              cases received
              rw [Stage]
              cases read with
              | some earlier => exact stage
              | none =>
                  rw [present, stage row.status present]
          | _ =>
              rw [before] at received
              exact nomatch received
  | attempt position issued =>
      rcases Option.bind_eq_some_iff.mp performed with ⟨run, found, performed⟩
      rcases Option.bind_eq_some_iff.mp performed with ⟨write, foundWrite, performed⟩
      cases performed
      have member := List.mem_of_getElem? found
      have kept := sound.update (.instant state.clock) (orderly run write found foundWrite)
      refine ⟨?_, ?_, sound.calls⟩
      · intro other otherMember
        rcases List.mem_or_eq_of_mem_set otherMember with old | same
        · exact sound.issued other old
        · rw [same]
          have inputs := inputs_set foundWrite state.db
          refine ⟨?_, ?_⟩
          · rw [OrchestratorRun.inputs, inputs]
            exact (sound.issued run member).owner
          · rw [OrchestratorRun.inputs, inputs]
            exact (sound.issued run member).awaited
      · intro other otherMember
        rcases List.mem_or_eq_of_mem_set otherMember with old | same
        · exact kept other old
        · rw [same]
          exact Stage.attempt (.instant state.clock) (sound.issued run member) foundWrite
            (sound.stage run member) (kept run member)
  | record position =>
      rcases Option.bind_eq_some_iff.mp performed with ⟨run, found, performed⟩
      rcases Option.bind_eq_some_iff.mp performed with ⟨record, pending, performed⟩
      cases performed
      refine ⟨sound.issued, ?_, sound.calls⟩
      intro other member
      rw [statusOf_upsertPublication]
      exact sound.stage other member
  | resume position outcome =>
      rcases Option.bind_eq_some_iff.mp performed with ⟨run, found, performed⟩
      rcases Option.bind_eq_some_iff.mp performed with ⟨next, resumed, performed⟩
      cases performed
      have member := List.mem_of_getElem? found
      have owner := (resume_eq_some resumed).2.1
      have stage : Stage next (statusOf state.db run.snapshotId) := by
        apply (sound.stage run member).resume resumed
        · intro row phase replied
          subst replied
          exact orderly run row found phase
        · intro reply replied waits
          subst replied
          exact admissible run found waits
        · exact not_lastAttempted_resume resumed
      refine ⟨?_, ?_, ?_⟩
      · intro other otherMember
        rcases List.mem_or_eq_of_mem_set otherMember with old | same
        · exact sound.issued other old
        · rw [same]
          exact (sound.issued run member).resume resumed
      · intro other otherMember
        rcases List.mem_or_eq_of_mem_set otherMember with old | same
        · exact sound.stage other old
        · rw [same, owner]
          exact stage
      · intro call callMember
        rcases List.mem_append.mp callMember with old | new
        · exact sound.calls call old
        · rcases Option.map_eq_some_iff.mp (Option.mem_toList.mp new) with ⟨sent, calls, rfl⟩
          exact (sound.stage run member).justified stage resumed calls
  | update input =>
      cases performed
      exact ⟨sound.issued, sound.update (.instant state.clock) orderly, sound.calls⟩
  | delete snapshotId =>
      cases performed
      refine ⟨sound.issued, ?_, sound.calls⟩
      intro run member
      rw [statusOf_deleteById]
      split
      · rename_i same
        apply (sound.stage run member).moves (Or.inr (Or.inl rfl))
        intro posting _
        exact absurd (posting.symm.trans (orderly run member same)) Bool.noConfusion
      · exact sound.stage run member

end Steps

theorem publicationSound_of_initial {state : OrchestratorState ν} (initial : state.Initial) :
    PublicationSound state := by
  rcases initial with ⟨runs, calls⟩
  refine ⟨?_, ?_, ?_⟩
  · intro run member
    exact nomatch runs ▸ member
  · intro run member
    exact nomatch runs ▸ member
  · intro call member
    exact nomatch calls ▸ member

/-- In every orderly run of the system, scores are posted only of completed rows, and
submitted only while the row is neither failed nor cancelled. -/
theorem scores_sentInOrder {state : OrchestratorState ν}
    (reachable : (orchestratorSystem ν).Reachable OrchestratorAction.Orderly state) :
    ∀ call ∈ state.calls, call.1.Justified call.2 :=
  (reachable.invariant (fun _ initial => publicationSound_of_initial initial)
    (fun state action after sound orderly (stepped : action.Admissible state ∧
      state.perform action = some after) =>
        PublicationSound.step sound orderly stepped.1 stepped.2)).calls

section Sample

/-- A row of a snapshot and nothing else. -/
private def rowDatabase (id : String) (status : SnapshotStatus) : SnapshotDatabase Rat :=
  create .empty 0 id
    { status := some status, algorithmPresetFrozen := ⟨"voting_engagement", "1.0.0", []⟩ }

private def idle (id : String) (status : SnapshotStatus) : OrchestratorState Rat :=
  ⟨0, rowDatabase id status, [], []⟩

/-- A run up to the posting of its scores. -/
private def postingRun (id : String) : List (OrchestratorAction Rat) :=
  [.start id ⟨"snapshot-" ++ id, "run", "orchestrator"⟩, .read 0, .resume 0 (.ok .done),
    .attempt 0 0, .resume 0 (.ok .done),
    .resume 0 (.ok (.definition { key := "voting_engagement", version := "1.0.0" })),
    .resume 0 (.ok (.outputs .empty)), .attempt 0 1, .resume 0 (.ok .done), .read 0,
    .resume 0 (.ok .done), .resume 0 (.ok .done)]

theorem scores_sentInOrder_sample :
    (System.performAll OrchestratorState.perform (idle "s3" .queued) (postingRun "s3")).calls =
        [(.postSnapshotScores, some .completed)] ∧
      ScoreCall.postSnapshotScores.Justified (some .completed) := by
  have sent : (System.performAll OrchestratorState.perform (idle "s3" .queued)
      (postingRun "s3")).calls = [(.postSnapshotScores, some .completed)] := by
    decide +kernel
  have start : (orchestratorSystem Rat).Reachable OrchestratorAction.Orderly
      (idle "s3" .queued) :=
    .start ⟨rfl, rfl⟩
  have along : System.AllAlong OrchestratorState.perform (fun before action =>
      action.Orderly before ∧ action.Admissible before) (idle "s3" .queued)
      (postingRun "s3") := by
    decide +kernel
  have reachable := System.reachable_performAll start along
  exact ⟨sent, scores_sentInOrder reachable _ (sent ▸ List.mem_singleton_self _)⟩

/-- The reconciler has settled the row before its workflow starts: the run computes and
posts the scores of a failed snapshot, and no write of the run tells it so. -/
theorem failed_snapshot_posted :
    ¬ ∀ state : OrchestratorState Rat,
      (orchestratorSystem Rat).Reachable (fun _ _ => True) state →
      ∀ call ∈ state.calls, call.1.Justified call.2 := by
  intro claimed
  have sent : (System.performAll OrchestratorState.perform (idle "s4" .failed)
      (postingRun "s4")).calls = [(.postSnapshotScores, some .failed)] := by
    decide +kernel
  have start : (orchestratorSystem Rat).Reachable (fun _ _ => True) (idle "s4" .failed) :=
    .start ⟨rfl, rfl⟩
  have along : System.AllAlong OrchestratorState.perform (fun before action =>
      True ∧ action.Admissible before) (idle "s4" .failed) (postingRun "s4") := by
    decide +kernel
  have justified := claimed _ (System.reachable_performAll start along) _
    (sent ▸ List.mem_singleton_self _)
  exact nomatch justified

end Sample

end Reputo.Snapshots

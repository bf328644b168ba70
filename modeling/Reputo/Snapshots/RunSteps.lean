import Reputo.Snapshots.Orchestrator

/-!
# Steps of a run

What a run does with the outcome of a wait, sorted by what its later course depends
on: before the phases, inside them, in the failure handler and in the publication.
-/

namespace Reputo.Snapshots

open Reputo.Library Reputo.Orchestrator

variable {ν : Type}

/-! ## Control flow -/

/-- The step of a run from one wait to the next. -/
inductive PhaseStep (state : SnapshotRunState) :
    RunPhase ν → Outcome → RunPhase ν → Prop
  | skipped {row : SnapshotRow ν} (completed : row.status = .completed) :
      PhaseStep state (.fetching (some row)) (.ok .done) (.ended none)
  | fetched {row : SnapshotRow ν} (unfinished : row.status ≠ .completed) :
      PhaseStep state (.fetching (some row)) (.ok .done) (.marking row)
  | unfetched {read : Option (SnapshotRow ν)} {error : WorkflowFailure} :
      PhaseStep state (.fetching read) (.error error) (.ended (some error))
  | marked {row : SnapshotRow ν} : PhaseStep state (.marking row) (.ok .done) (.defining row)
  | unmarked {row : SnapshotRow ν} {error : WorkflowFailure} :
      PhaseStep state (.marking row) (.error error) (.ended (some error))
  | within {phase next : RunPhase ν} {outcome : Outcome} (before : phase.inPhases = true)
      (after : next.inPhases = true) (incomplete : ∀ outputs, phase ≠ .completing outputs)
      (probes : ∀ error, next = .probing error → outcome = .error error) :
      PhaseStep state phase outcome next
  | failed {phase : RunPhase ν} {outcome : Outcome} {error : WorkflowFailure}
      (before : phase.inPhases = true)
      (source : isSnapshotNotFound error = true → outcome = .error error ∨ phase = .probing error) :
      PhaseStep state phase outcome (failPhases error)
  | completed {outputs : SnapshotOutputs} :
      PhaseStep state (.completing outputs) (.ok .done)
        (if state.algorithmKind = some "combined" then .ended none else .rereading none)
  | recorded {error : WorkflowFailure} {outcome : Outcome} :
      PhaseStep state (.recordingFailure error) outcome (.ended (some error))
  | reread {row : SnapshotRow ν} :
      PhaseStep state (.rereading (some row)) (.ok .done) (.recordingPending row)
  | unread {read : Option (SnapshotRow ν)} {error : WorkflowFailure} {record : PublicationRecord} :
      PhaseStep state (.rereading read) (.error error) (.recordingResult record)
  | pending {row : SnapshotRow ν} {outcome : Outcome} :
      PhaseStep state (.recordingPending row) outcome (.posting row)
  | posted {row : SnapshotRow ν} {outcome : Outcome} {record : PublicationRecord} :
      PhaseStep state (.posting row) outcome (.recordingResult record)
  | finished {record : PublicationRecord} {outcome : Outcome} :
      PhaseStep state (.recordingResult record) outcome (.ended none)

/-- What the phases compute leads on inside them, or fails for another reason than a
missing row. -/
def GoesOn : Except WorkflowFailure (RunPhase ν) → Prop
  | .ok next => next.inPhases = true ∧ ∀ error, next ≠ .probing error
  | .error error => isSnapshotNotFound error = false

section GoesOn

variable (definition : AlgorithmDefinition)

theorem goesOn_execute : GoesOn (execute definition : Except WorkflowFailure (RunPhase ν)) := by
  rw [execute]
  split
  · exact ⟨rfl, fun _ same => nomatch same⟩
  · rfl

theorem goesOn_resolveDependencies (calls : List DependencyCall) :
    GoesOn (resolveDependencies definition calls : Except WorkflowFailure (RunPhase ν)) := by
  cases calls with
  | nil => exact goesOn_execute definition
  | cons call rest => exact ⟨rfl, fun _ same => nomatch same⟩

theorem goesOn_defineChildren (sources : List (DependencySource ν))
    (children : List (AlgorithmPresetFrozen ν)) :
    GoesOn (defineChildren definition sources children) := by
  cases children with
  | nil => exact goesOn_resolveDependencies definition _
  | cons child rest => exact ⟨rfl, fun _ same => nomatch same⟩

theorem goesOn_defined (snapshot : SnapshotRow ν) : GoesOn (defined snapshot definition) := by
  rw [defined]
  split
  · exact goesOn_defineChildren definition _ _
  · exact goesOn_resolveDependencies definition _

end GoesOn

/-- A reply inside the phases leads on, or to the error they had when probing. -/
theorem runSnapshotPhases_eq_some {now : Nat} {phase : RunPhase ν} {reply : ActivityReply}
    {result : Except WorkflowFailure (RunPhase ν)}
    (replied : runSnapshotPhases now phase reply = some result) :
    phase.inPhases = true ∧ (∀ outputs, phase ≠ .completing outputs) ∧
      (GoesOn result ∨ ∃ error, phase = .probing error ∧ result = .error error) := by
  have on : ∀ next : RunPhase ν, next.inPhases = true → (∀ error, next ≠ .probing error) →
      GoesOn (.ok next) := fun next inside unprobed => ⟨inside, unprobed⟩
  cases phase <;> cases reply <;>
    simp only [runSnapshotPhases, Option.some.injEq, reduceCtorEq] at replied
  case defining.definition snapshot definition =>
    refine ⟨rfl, fun _ same => (nomatch same), Or.inl ?_⟩
    rw [← replied]
    split
    · exact goesOn_defined definition snapshot
    · rename_i error unsupported
      rw [getAlgorithmTaskQueueFromRuntime] at unsupported
      split at unsupported
      · exact nomatch unsupported
      · split at unsupported
        · exact nomatch unsupported
        · cases unsupported
          rfl
  case definingChildren.definition definition sources child rest childDefinition =>
    refine ⟨rfl, fun _ same => (nomatch same), Or.inl ?_⟩
    rw [← replied]
    exact goesOn_defineChildren definition _ _
  case resolving.done definition call rest =>
    refine ⟨rfl, fun _ same => (nomatch same), Or.inl ?_⟩
    rw [← replied]
    exact goesOn_resolveDependencies definition _
  case probing.done error =>
    exact ⟨rfl, fun _ same => (nomatch same), Or.inr ⟨error, rfl, replied.symm⟩⟩
  case executing.outputs definition outputs =>
    refine ⟨rfl, fun _ same => (nomatch same), Or.inl ?_⟩
    rw [← replied]
    split
    · exact on _ rfl (fun _ same => nomatch same)
    · exact on _ rfl (fun _ same => nomatch same)
  case polling.readiness outputs deadlineAtMs ready =>
    refine ⟨rfl, fun _ same => (nomatch same), Or.inl ?_⟩
    rw [← replied]
    split
    · exact on _ rfl (fun _ same => nomatch same)
    · split
      · rfl
      · exact on _ rfl (fun _ same => nomatch same)
  case submittingEncrypted.submission outputs deadlineAtMs submitted =>
    refine ⟨rfl, fun _ same => (nomatch same), Or.inl ?_⟩
    rw [← replied]
    split
    · exact on _ rfl (fun _ same => nomatch same)
    · exact on _ rfl (fun _ same => nomatch same)
  all_goals
    refine ⟨rfl, fun _ same => (nomatch same), Or.inl ?_⟩
    rw [← replied]
    exact on _ rfl (fun _ same => nomatch same)

/-- A failed wait inside the phases ends them, or checks a connection first. -/
theorem phaseStep_of_failure {state : SnapshotRunState} {phase : RunPhase ν}
    (error : WorkflowFailure) (inside : phase.inPhases = true) :
    PhaseStep state phase (.error error) (phaseFailure error phase) := by
  have direct : PhaseStep state phase (.error error) (failPhases error) :=
    .failed inside fun _ => Or.inl rfl
  cases phase with
  | probing original => exact .failed inside fun _ => Or.inr rfl
  | resolving definition call rest =>
      cases call with
      | resolveCommunity =>
          rw [phaseFailure]
          split
          · exact direct
          · apply PhaseStep.within inside rfl (fun _ same => nomatch same)
            intro other same
            cases same
            rfl
      | _ => exact direct
  | _ => exact direct

/-- A reply that the phases take. -/
theorem phaseStep_of_phases (now : Nat) {state : SnapshotRunState} {phase next : RunPhase ν}
    {reply : ActivityReply}
    (stepped : ((runSnapshotPhases now phase reply).map fun result => match result with
      | .ok next => next
      | .error error => failPhases error) = some next) :
    PhaseStep state phase (.ok reply) next := by
  rcases Option.map_eq_some_iff.mp stepped with ⟨result, replied, rfl⟩
  rcases runSnapshotPhases_eq_some replied with ⟨inside, incomplete, onward | probed⟩
  · cases result with
    | ok next =>
        exact .within inside onward.1 incomplete fun error same => absurd same (onward.2 error)
    | error error =>
        exact .failed inside fun missing => nomatch onward.symm.trans missing
  · rcases probed with ⟨error, same, rfl⟩
    exact .failed inside fun _ => Or.inr same

/-- The control flow takes these steps only. -/
theorem phaseStep_of_runOrchestrator {now : Nat} {state : SnapshotRunState}
    {phase next : RunPhase ν} {outcome : Outcome}
    (stepped : runOrchestrator now state phase outcome = some next) :
    PhaseStep state phase outcome next := by
  cases outcome with
  | error error =>
      cases phase with
      | fetching read =>
          cases read <;> (cases stepped; exact .unfetched)
      | rereading read =>
          cases read <;> (cases stepped; exact .unread)
      | marking => cases stepped; exact .unmarked
      | recordingFailure => cases stepped; exact .recorded
      | recordingPending => cases stepped; exact .pending
      | posting => cases stepped; exact .posted
      | recordingResult => cases stepped; exact .finished
      | ended => exact nomatch stepped
      | _ =>
          cases stepped
          exact phaseStep_of_failure error rfl
  | ok reply =>
      cases phase with
      | fetching read =>
          cases read with
          | none => exact nomatch stepped
          | some row =>
              cases reply with
              | done =>
                  simp only [runOrchestrator, Option.some.injEq] at stepped
                  rw [← stepped]
                  split
                  · rename_i completed
                    exact .skipped completed
                  · rename_i unfinished
                    exact .fetched unfinished
              | _ => exact phaseStep_of_phases now stepped
      | rereading read =>
          cases read with
          | none => exact nomatch stepped
          | some row =>
              cases reply with
              | done => cases stepped; exact .reread
              | _ => exact phaseStep_of_phases now stepped
      | marking =>
          cases reply with
          | done => cases stepped; exact .marked
          | _ => exact phaseStep_of_phases now stepped
      | completing =>
          cases reply with
          | done => cases stepped; exact .completed
          | _ => exact phaseStep_of_phases now stepped
      | recordingFailure => cases stepped; exact .recorded
      | recordingPending => cases stepped; exact .pending
      | posting =>
          cases reply with
          | posted counts => cases counts <;> (cases stepped; exact .posted)
          | _ => exact phaseStep_of_phases now stepped
      | recordingResult => cases stepped; exact .finished
      | ended => exact nomatch stepped
      | _ => exact phaseStep_of_phases now stepped

/-! ## Statuses of rows -/

section Statuses

variable {db : SnapshotDatabase ν} {id : String}

theorem statusOf_of_findById {row : SnapshotRow ν} (found : findById db id = some row) :
    statusOf db id = some row.status := by
  rcases Option.map_eq_some_iff.mp found with ⟨entity, stored, rfl⟩
  rw [statusOf, stored]
  rfl

theorem statusOf_deleteById (other : String) :
    statusOf (deleteById db other) id = if id = other then none else statusOf db id := by
  rw [statusOf, deleteById]
  split
  · rename_i same
    rw [Table.find?_filter_of_dropped]
    · rfl
    · intro row owner
      simp [owner, same]
  · rename_i different
    rw [Table.find?_filter]
    · rfl
    · intro row _ owner
      simp [owner, different]

theorem statusOf_upsertPublication (other : String) (data : UpsertSnapshotPublicationData) :
    statusOf (upsertPublication db other data).1 id = statusOf db id := by
  rw [upsertPublication]
  split <;> rfl

/-- An update that takes effect on a row leaves it with the status it names. -/
theorem statusOf_service (clock : ClockReadings) (input : UpdateSnapshotInput ν) :
    statusOf (serviceApplyExternalUpdate db clock input).1 id =
      if id = input.snapshotId ∧ takesEffect db input = true
        then input.status.or (statusOf db id) else statusOf db id := by
  cases Decidable.em (id = input.snapshotId) with
  | inr different =>
      rw [if_neg fun both => different both.1, statusOf, statusOf, serviceApplyExternalUpdate]
      exact congrArg _ (find?_applyExternalUpdate_of_ne _ _ different)
  | inl same =>
      subst same
      cases found : db.snapshots.find? input.snapshotId with
      | none =>
          have ineffective : takesEffect db input = false := by
            simp [takesEffect, statusOf, found]
          rw [ineffective, if_neg (fun both => absurd both.2 Bool.false_ne_true), serviceApplyExternalUpdate,
            applyExternalUpdate_of_missing _ found]
      | some entity =>
          have effect : takesEffect db input = !(input.stamped clock).blocked entity.status := by
            simp [takesEffect, statusOf, found, SnapshotApplyExternalUpdate.blocked,
              UpdateSnapshotInput.stamped]
          cases blocked : (input.stamped clock).blocked entity.status with
          | true =>
              rw [effect, blocked, if_neg (fun both => absurd both.2 Bool.false_ne_true), serviceApplyExternalUpdate,
                applyExternalUpdate_of_blocked _ found blocked]
          | false =>
              have written := find?_applyExternalUpdate_self clock.saved found blocked
              rw [effect, blocked, if_pos ⟨rfl, rfl⟩, statusOf, serviceApplyExternalUpdate, written,
                statusOf, found]
              cases requested : input.status <;>
                simp [SnapshotApplyExternalUpdate.assign, UpdateSnapshotInput.stamped, requested]

/-- What takes effect on a row with a status is a permitted transition. -/
theorem canTransition_of_takesEffect {input : UpdateSnapshotInput ν} {next : SnapshotStatus}
    (effect : takesEffect db input = true) (requested : input.status = some next) :
    ∃ current, statusOf db input.snapshotId = some current ∧
      canTransition current next = true := by
  cases before : statusOf db input.snapshotId with
  | none => simp [takesEffect, before] at effect
  | some current =>
      refine ⟨current, rfl, ?_⟩
      simpa [takesEffect, before, requested] using effect

end Statuses

/-! ## Changes of a status -/

def unsuccessful (status : SnapshotStatus) : Bool :=
  status = .failed || status = .cancelled

/-- How the status of a row changes; a careful change does not settle it as failed or
cancelled. -/
def Moves (careful : Bool) (before after : Option SnapshotStatus) : Prop :=
  after = before ∨ after = none ∨ ∃ current next, before = some current ∧ after = some next ∧
    canTransition current next = true ∧ (careful = true → unsuccessful next = false)

/-- An update moves the status of every row. -/
theorem moves_of_update {db : SnapshotDatabase ν} (clock : ClockReadings)
    {input : UpdateSnapshotInput ν} {id : String} {careful : Bool}
    (spares : id = input.snapshotId → takesEffect db input = true → ∀ status,
      input.status = some status → unsuccessful status = true → careful = false) :
    Moves careful (statusOf db id) (statusOf (serviceApplyExternalUpdate db clock input).1 id) := by
  rw [statusOf_service]
  split
  · rename_i both
    rcases both with ⟨same, effect⟩
    cases requested : input.status with
    | none => exact Or.inl rfl
    | some next =>
        rcases canTransition_of_takesEffect effect requested with ⟨current, present, allowed⟩
        refine Or.inr (Or.inr ⟨current, next, same ▸ present, rfl, allowed, ?_⟩)
        intro asked
        cases harmful : unsuccessful next with
        | false => rfl
        | true => exact nomatch asked.symm.trans (spares same effect next requested harmful)
  · exact Or.inl rfl

/-! ## Issued writes -/

/-- The writes that a run has issued. -/
def OrchestratorRun.inputs (run : OrchestratorRun ν) : List (UpdateSnapshotInput ν) :=
  run.issued.map (·.input)

/-- Attempts do not change what was issued. -/
theorem inputs_set {run : OrchestratorRun ν} {position : Nat} {write : IssuedWrite ν}
    (found : run.issued[position]? = some write) (db : SnapshotDatabase ν) :
    (run.issued.set position (write.attempt db)).map (·.input) = run.inputs := by
  have unchanged : run.inputs[position]? = some (write.attempt db).input := by
    rw [OrchestratorRun.inputs, List.getElem?_map, found]
    rfl
  rcases List.getElem?_eq_some_iff.mp unchanged with ⟨inside, same⟩
  rw [List.map_set, ← same]
  exact List.set_getElem_self inside

/-- The status of the write that a phase waits for. -/
def RunPhase.awaited : RunPhase ν → Option (Option SnapshotStatus)
  | .marking _ => some (some .running)
  | .persisting _ => some none
  | .completing _ => some (some .completed)
  | .recordingFailure error => some (some (failureUpdate error).1)
  | _ => none

theorem write_eq_some {run : OrchestratorRun ν} {phase : RunPhase ν}
    {input : UpdateSnapshotInput ν} (issues : run.write phase = some input) :
    input.snapshotId = run.snapshotId ∧ phase.awaited = some input.status := by
  cases phase <;> simp only [OrchestratorRun.write, Option.some.injEq, reduceCtorEq] at issues <;>
    rw [← issues] <;> exact ⟨rfl, rfl⟩

theorem write_eq_none_iff {run : OrchestratorRun ν} {phase : RunPhase ν} :
    run.write phase = none ↔ phase.awaited = none := by
  cases phase <;> simp [OrchestratorRun.write, RunPhase.awaited]

/-- All writes of a run are for its snapshot, and the one it waits for was issued last. -/
structure IssuedSound (run : OrchestratorRun ν) : Prop where
  owner : ∀ input ∈ run.inputs, input.snapshotId = run.snapshotId
  awaited : ∀ status, run.phase.awaited = some status →
    ∃ before input, run.inputs = before ++ [input] ∧ input.status = status

theorem learn_snapshotId (run : OrchestratorRun ν) (outcome : Outcome) :
    (run.learn outcome).snapshotId = run.snapshotId := by
  cases outcome with
  | error => rfl
  | ok reply =>
      simp only [OrchestratorRun.learn]
      split <;> rfl

/-- What a resumed run is. -/
theorem resume_eq_some {run next : OrchestratorRun ν} {now : Nat} {outcome : Outcome}
    (resumed : run.resume now outcome = some next) :
    PhaseStep run.state run.phase outcome next.phase ∧ next.snapshotId = run.snapshotId ∧
      next.issued = run.issued ++ (((run.learn outcome).write next.phase).map fun input =>
        ({ input } : IssuedWrite ν)).toList ∧
      next.phaseError = if run.phase.inPhases then next.phase.leftWith else run.phaseError := by
  rcases Option.map_eq_some_iff.mp resumed with ⟨phase, stepped, rfl⟩
  exact ⟨phaseStep_of_runOrchestrator stepped, learn_snapshotId run outcome, rfl, rfl⟩

/-- A resumed run has issued the write of its phase, if there is one. -/
theorem inputs_resume {run next : OrchestratorRun ν} {now : Nat} {outcome : Outcome}
    (resumed : run.resume now outcome = some next) :
    next.inputs = run.inputs ∧ next.phase.awaited = none ∨
      ∃ input, next.inputs = run.inputs ++ [input] ∧ input.snapshotId = run.snapshotId ∧
        next.phase.awaited = some input.status := by
  rcases resume_eq_some resumed with ⟨_, _, issued, _⟩
  cases written : (run.learn outcome).write next.phase with
  | none =>
      rw [written] at issued
      refine Or.inl ⟨?_, write_eq_none_iff.mp written⟩
      rw [OrchestratorRun.inputs, issued, Option.map_none, Option.toList_none, List.append_nil]
      rfl
  | some input =>
      rw [written] at issued
      rcases write_eq_some written with ⟨owner, awaited⟩
      refine Or.inr ⟨input, ?_, owner.trans (learn_snapshotId run outcome), awaited⟩
      rw [OrchestratorRun.inputs, issued, List.map_append]
      rfl

theorem IssuedSound.resume {run next : OrchestratorRun ν} {now : Nat} {outcome : Outcome}
    (sound : IssuedSound run) (resumed : run.resume now outcome = some next) :
    IssuedSound next := by
  have same := (resume_eq_some resumed).2.1
  rcases inputs_resume resumed with ⟨inputs, silent⟩ | ⟨input, inputs, owner, awaited⟩
  · refine ⟨?_, fun status awaited => nomatch silent.symm.trans awaited⟩
    rw [inputs, same]
    exact sound.owner
  · refine ⟨?_, ?_⟩
    · intro other member
      rw [inputs] at member
      rw [same]
      rcases List.mem_append.mp member with old | new
      · exact sound.owner other old
      · rw [List.mem_singleton.mp new]
        exact owner
    · intro status waits
      exact ⟨run.inputs, input, inputs, Option.some.inj (awaited.symm.trans waits)⟩

end Reputo.Snapshots

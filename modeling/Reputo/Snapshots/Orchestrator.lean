import Reputo.Library.System
import Reputo.Orchestrator.SyncTargets
import Reputo.Snapshots.Repository

/-!
# The orchestrator workflow

A run of the workflow waits for one activity after another; every wait may end with
the activity's reply, its failure, or a cancellation.  Writes of the row are issued by
the run and carried out by attempts, which may be repeated, may go unnoticed, and may
come late.  Other parties write and delete rows in between.
-/

namespace Reputo.Snapshots

open Reputo.Library Reputo.Orchestrator

variable {ν : Type}

/-! ## Failures -/

/-- An error with the types and messages of the application failures in its chain of
causes. -/
structure WorkflowFailure where
  message : String
  isTemporal : Bool := true
  isCancellation : Bool := false
  causes : List (String × String) := []
  deriving DecidableEq, Repr

def isSnapshotNotFound (error : WorkflowFailure) : Bool :=
  error.causes.any fun cause => cause.1 = "SnapshotNotFoundError"

def describePublicationFailure (error : WorkflowFailure) : String :=
  match error.causes.find? fun cause => cause.1 = "DEEPID_POST_SCORES_FAILURE" with
  | some cause => cause.2
  | none => "The score posting activity failed"

/-- `OrchestratorWorkflow` fails with the error of the run, as a failure Temporal knows. -/
def WorkflowFailure.escaped (error : WorkflowFailure) : WorkflowFailure :=
  { error with isTemporal := true }

def getAlgorithmTaskQueueFromRuntime (runtime : String) : Except WorkflowFailure String :=
  if runtime = "typescript" then .ok "algorithm-typescript-worker"
  else if runtime = "python" then .ok "algorithm-python-worker"
  else .error { message := "Unsupported algorithm runtime: " ++ runtime, isTemporal := false }

/-! ## Runs -/

/-- A call that the resolution of a dependency waits for. -/
inductive DependencyCall where
  | connection (dependencyKey : String)
  | sealedCredential (dependencyKey : String)
  | resolveCommunity (dependencyKey : String)
  | resolve (dependencyKey : String)
  deriving DecidableEq, Repr

/-- The calls for one dependency; only one platform has sealed credentials. -/
def dependencyCalls (dependencyKey : String) : List DependencyCall :=
  if dependencyKey = "mattermost-activity" then
    [.connection dependencyKey, .sealedCredential dependencyKey, .resolveCommunity dependencyKey]
  else if dependencyKey = "discord-activity" || dependencyKey = "github-activity" then
    [.connection dependencyKey, .resolveCommunity dependencyKey]
  else [.resolve dependencyKey]

/-- A record of the publication, which is kept under the key of the algorithm. -/
structure PublicationRecord where
  status : SnapshotPublicationStatus
  counts : Option SnapshotPublicationCounts := none
  error : Option String := none
  deriving DecidableEq, Repr

/-- What a run waits for. -/
inductive RunPhase (ν : Type) where
  /-- `getSnapshot`, with the row that an attempt has read. -/
  | fetching (read : Option (SnapshotRow ν))
  | marking (snapshot : SnapshotRow ν)
  | defining (snapshot : SnapshotRow ν)
  | definingChildren (definition : AlgorithmDefinition) (sources : List (DependencySource ν))
      (child : AlgorithmPresetFrozen ν) (rest : List (AlgorithmPresetFrozen ν))
  | resolving (definition : AlgorithmDefinition) (call : DependencyCall)
      (rest : List DependencyCall)
  /-- The health of a connection is checked after its fetch has failed. -/
  | probing (error : WorkflowFailure)
  | executing (definition : AlgorithmDefinition)
  | persisting (outputs : SnapshotOutputs)
  | submittingRaw (outputs : SnapshotOutputs)
  | sleeping (outputs : SnapshotOutputs) (deadlineAtMs : Nat)
  | polling (outputs : SnapshotOutputs) (deadlineAtMs : Nat)
  | submittingEncrypted (outputs : SnapshotOutputs) (deadlineAtMs : Nat)
  | completing (outputs : SnapshotOutputs)
  /-- The terminal write after the phases have failed. -/
  | recordingFailure (error : WorkflowFailure)
  | rereading (read : Option (SnapshotRow ν))
  | recordingPending (completedSnapshot : SnapshotRow ν)
  | posting (completedSnapshot : SnapshotRow ν)
  | recordingResult (record : PublicationRecord)
  | ended (error : Option WorkflowFailure)

/-- The reply of an activity. -/
inductive ActivityReply where
  | done
  | definition (definition : AlgorithmDefinition)
  | outputs (outputs : SnapshotOutputs)
  | readiness (ready : Bool)
  | submission (submitted : Bool)
  | posted (counts : Option SnapshotPublicationCounts)

structure WorkflowInfo where
  workflowId : String
  runId : String
  taskQueue : String
  deriving DecidableEq, Repr

structure SnapshotRunState where
  algorithmTaskQueue : Option String := none
  algorithmKind : Option String := none
  deriving DecidableEq, Repr

/-- A write of the row that a run has issued: whether an attempt has found the row,
and whether an attempt has changed it. -/
structure IssuedWrite (ν : Type) where
  input : UpdateSnapshotInput ν
  attempted : Bool := false
  applied : Bool := false

/-- A run; the history `phaseError` is the error with which the phases have ended. -/
structure OrchestratorRun (ν : Type) where
  snapshotId : String
  workflowInfo : WorkflowInfo
  state : SnapshotRunState := {}
  algorithmKey : String := ""
  phase : RunPhase ν := .fetching none
  issued : List (IssuedWrite ν) := []
  phaseError : Option WorkflowFailure := none

/-! ## Control flow -/

/-- The phases end with an error: a terminal write follows unless the row is gone. -/
def failPhases (error : WorkflowFailure) : RunPhase ν :=
  if isSnapshotNotFound error then .ended (some error) else .recordingFailure error

/-- What executing the algorithm starts with. -/
def execute (definition : AlgorithmDefinition) : Except WorkflowFailure (RunPhase ν) :=
  if definition.runtime = "typescript" then .ok (.executing definition)
  else .error { message := "Unsupported algorithm: " ++ definition.key, isTemporal := false }

/-- The calls for the dependencies, then the algorithm. -/
def resolveDependencies (definition : AlgorithmDefinition) :
    List DependencyCall → Except WorkflowFailure (RunPhase ν)
  | [] => execute definition
  | call :: rest => .ok (.resolving definition call rest)

/-- The definitions of the children, then the dependencies of all of them. -/
def defineChildren (definition : AlgorithmDefinition) (sources : List (DependencySource ν)) :
    List (AlgorithmPresetFrozen ν) → Except WorkflowFailure (RunPhase ν)
  | [] => resolveDependencies definition ((collectDependencyKeys sources).flatMap dependencyCalls)
  | child :: rest => .ok (.definingChildren definition sources child rest)

def isCombined (definition : AlgorithmDefinition) : Bool := definition.kind = "combined"

/-- What follows when the definition is loaded. -/
def defined (snapshot : SnapshotRow ν) (definition : AlgorithmDefinition) :
    Except WorkflowFailure (RunPhase ν) :=
  if isCombined definition then
    defineChildren definition [⟨definition, snapshot.algorithmPresetFrozen⟩]
      (buildCombinedChildAlgorithmPresets snapshot.algorithmPresetFrozen definition)
  else resolveDependencies definition (definition.dependencies.flatMap dependencyCalls)

def encryptionTimeout : WorkflowFailure where
  message := "DEEPID_ENCRYPTION_TIMEOUT: selected child scores were not ready for encrypted " ++
    "evaluation within 24 hours of raw submission"
  causes := [("DEEPID_ENCRYPTION_TIMEOUT", "DEEPID_ENCRYPTION_TIMEOUT: selected child scores " ++
    "were not ready for encrypted evaluation within 24 hours of raw submission")]

/-- The phases: what follows a reply, or the error they end with. -/
def runSnapshotPhases (now : Nat) : RunPhase ν → ActivityReply →
    Option (Except WorkflowFailure (RunPhase ν))
  | .defining snapshot, .definition definition =>
      some (match getAlgorithmTaskQueueFromRuntime definition.runtime with
        | .ok _ => defined snapshot definition
        | .error error => .error error)
  | .definingChildren definition sources child rest, .definition childDefinition =>
      some (defineChildren definition (sources ++ [⟨childDefinition, child⟩]) rest)
  | .resolving definition _ rest, .done => some (resolveDependencies definition rest)
  | .probing error, .done => some (.error error)
  | .executing definition, .outputs outputs =>
      some (.ok (if isCombined definition then .persisting outputs else .completing outputs))
  | .persisting outputs, .done => some (.ok (.submittingRaw outputs))
  | .submittingRaw outputs, .done => some (.ok (.sleeping outputs (now + 24 * 60 * 60000)))
  | .sleeping outputs deadlineAtMs, .done => some (.ok (.polling outputs deadlineAtMs))
  | .polling outputs deadlineAtMs, .readiness ready =>
      some (if ready then .ok (.submittingEncrypted outputs deadlineAtMs)
        else if deadlineAtMs ≤ now then .error encryptionTimeout
        else .ok (.sleeping outputs deadlineAtMs))
  | .submittingEncrypted outputs deadlineAtMs, .submission submitted =>
      some (.ok (if submitted then .completing outputs else .sleeping outputs deadlineAtMs))
  | _, _ => none

/-- How the phases meet a failed wait: a failed community fetch is followed by a
check of the connection, and the outcome of that check is ignored. -/
def phaseFailure (error : WorkflowFailure) : RunPhase ν → RunPhase ν
  | .resolving _ (.resolveCommunity _) _ =>
      if error.isCancellation then failPhases error else .probing error
  | .probing original => failPhases original
  | _ => failPhases error

/-- The phase is inside the one failure handler. -/
def RunPhase.inPhases : RunPhase ν → Bool
  | .defining _ | .definingChildren .. | .resolving .. | .probing _ | .executing _
  | .persisting _ | .submittingRaw _ | .sleeping .. | .polling .. | .submittingEncrypted ..
  | .completing _ => true
  | _ => false

/-- The outcome of a wait. -/
abbrev Outcome := Except WorkflowFailure ActivityReply

/-- The control flow of `runOrchestrator`. -/
def runOrchestrator (now : Nat) (state : SnapshotRunState) :
    RunPhase ν → Outcome → Option (RunPhase ν)
  | .fetching (some snapshot), .ok .done =>
      some (if snapshot.status = .completed then .ended none else .marking snapshot)
  | .fetching none, .ok _ => none
  | .fetching _, .error error => some (.ended (some error))
  | .marking snapshot, .ok .done => some (.defining snapshot)
  | .marking _, .error error => some (.ended (some error))
  | .completing _, .ok .done =>
      some (if state.algorithmKind = some "combined" then .ended none else .rereading none)
  | .recordingFailure error, _ => some (.ended (some error))
  | .rereading (some completedSnapshot), .ok .done => some (.recordingPending completedSnapshot)
  | .rereading none, .ok _ => none
  | .rereading _, .error error => some (.recordingResult
      { status := .failed, error := some (describePublicationFailure error) })
  | .recordingPending completedSnapshot, _ => some (.posting completedSnapshot)
  | .posting _, .ok (.posted (some counts)) =>
      some (.recordingResult { status := .sent, counts := some counts })
  | .posting _, .ok (.posted none) => some (.recordingResult
      { status := .failed, error := some "The algorithm produced no postable score output" })
  | .posting _, .error error => some (.recordingResult
      { status := .failed, error := some (describePublicationFailure error) })
  | .recordingResult _, _ => some (.ended none)
  | .ended _, _ => none
  | phase, .error error => if phase.inPhases then some (phaseFailure error phase) else none
  | phase, .ok reply => (runSnapshotPhases now phase reply).map fun next => match next with
    | .ok next => next
    | .error error => failPhases error

/-! ## Writes -/

def OrchestratorRun.temporal (run : OrchestratorRun ν) : SnapshotTemporal where
  workflowId := some run.workflowInfo.workflowId
  runId := some run.workflowInfo.runId
  taskQueue := some run.workflowInfo.taskQueue

/-- The status and the message of the write after a failure. -/
def failureUpdate (error : WorkflowFailure) : SnapshotStatus × String :=
  if error.isCancellation then (.cancelled, "Workflow was cancelled")
  else (.failed, if error.message = "" then "Unknown error" else error.message)

/-- The write that a run issues on entering a phase. -/
def OrchestratorRun.write (run : OrchestratorRun ν) :
    RunPhase ν → Option (UpdateSnapshotInput ν)
  | .marking _ => some
      { snapshotId := run.snapshotId, status := some .running, temporal := some run.temporal }
  | .persisting outputs => some
      { snapshotId := run.snapshotId, outputs := some outputs
        temporal := some
          { run.temporal with algorithmTaskQueue := run.state.algorithmTaskQueue } }
  | .completing outputs => some
      { snapshotId := run.snapshotId, status := some .completed, outputs := some outputs
        temporal := some
          { run.temporal with algorithmTaskQueue := run.state.algorithmTaskQueue } }
  | .recordingFailure error => some
      { snapshotId := run.snapshotId, status := some (failureUpdate error).1
        temporal := some
          { run.temporal with algorithmTaskQueue := run.state.algorithmTaskQueue }
        error := some { message := (failureUpdate error).2 } }
  | _ => none

/-- The record that a run writes in a phase. -/
def RunPhase.record : RunPhase ν → Option PublicationRecord
  | .recordingPending _ => some { status := .pending }
  | .recordingResult record => some record
  | _ => none

/-- What the run learns from a reply. -/
def OrchestratorRun.learn (run : OrchestratorRun ν) : Outcome → OrchestratorRun ν
  | .ok reply => match run.phase, reply with
    | .fetching (some snapshot), _ =>
        { run with algorithmKey := snapshot.algorithmPresetFrozen.key }
    | .defining _, .definition definition =>
        { run with state :=
            { algorithmKind := some definition.kind
              algorithmTaskQueue :=
                (getAlgorithmTaskQueueFromRuntime definition.runtime).toOption } }
    | _, _ => run
  | .error _ => run

/-- The error with which the phases end, on the step that leaves them. -/
def RunPhase.leftWith : RunPhase ν → Option WorkflowFailure
  | .recordingFailure error => some error
  | .ended error => error
  | _ => none

/-- A run goes on with the outcome of its wait. -/
def OrchestratorRun.resume (now : Nat) (run : OrchestratorRun ν) (outcome : Outcome) :
    Option (OrchestratorRun ν) :=
  (runOrchestrator now run.state run.phase outcome).map fun phase =>
    { run.learn outcome with
      phase
      issued := run.issued ++ (((run.learn outcome).write phase).map fun input =>
        { input }).toList
      phaseError := if run.phase.inPhases then phase.leftWith else run.phaseError }

/-! ## The system -/

inductive ScoreCall where
  | postSnapshotScores
  | submitCustomRawScores
  | submitCustomEncryptedScores
  deriving DecidableEq, Repr

/-- The scores that a run is about to send. -/
def RunPhase.scoreCall : RunPhase ν → Option ScoreCall
  | .posting _ => some .postSnapshotScores
  | .submittingRaw _ => some .submitCustomRawScores
  | .submittingEncrypted .. => some .submitCustomEncryptedScores
  | _ => none

/-- The history `calls` lists the calls that send scores, with the status of the row
at that time. -/
structure OrchestratorState (ν : Type) where
  clock : Nat
  db : SnapshotDatabase ν
  runs : List (OrchestratorRun ν)
  calls : List (ScoreCall × Option SnapshotStatus)

inductive OrchestratorAction (ν : Type) where
  | tick (elapsed : Nat)
  | start (snapshotId : String) (workflowInfo : WorkflowInfo)
  /-- An attempt of `getSnapshot`. -/
  | read (run : Nat)
  /-- An attempt of an issued write, at any time after it was issued. -/
  | attempt (run write : Nat)
  /-- An attempt of `recordSnapshotPublication`. -/
  | record (run : Nat)
  | resume (run : Nat) (outcome : Outcome)
  /-- A write of another party. -/
  | update (input : UpdateSnapshotInput ν)
  | delete (snapshotId : String)

def statusOf (db : SnapshotDatabase ν) (snapshotId : String) : Option SnapshotStatus :=
  (db.snapshots.find? snapshotId).map (·.status)

/-- The update finds its row, and changes it. -/
def takesEffect (db : SnapshotDatabase ν) (input : UpdateSnapshotInput ν) : Bool :=
  (statusOf db input.snapshotId).any fun current =>
    !input.status.any fun status => !canTransition current status

/-- An attempt of a write is noted with it. -/
def IssuedWrite.attempt (db : SnapshotDatabase ν) (write : IssuedWrite ν) : IssuedWrite ν :=
  { write with
    attempted := write.attempted || (statusOf db write.input.snapshotId).isSome
    applied := write.applied || takesEffect db write.input }

/-- The phase in which a run waits after an attempt has read the row. -/
def RunPhase.receive (row : SnapshotRow ν) : RunPhase ν → Option (RunPhase ν)
  | .fetching _ => some (.fetching (some row))
  | .rereading _ => some (.rereading (some row))
  | _ => none

/-- What an action does; `none` where it is not possible. -/
def OrchestratorState.perform (state : OrchestratorState ν) :
    OrchestratorAction ν → Option (OrchestratorState ν)
  | .tick elapsed => some { state with clock := state.clock + elapsed }
  | .start snapshotId workflowInfo => some { state with
      runs := state.runs ++ [{ snapshotId, workflowInfo }] }
  | .read position => do
      let run ← state.runs[position]?
      let row ← findById state.db run.snapshotId
      let phase ← run.phase.receive row
      return { state with runs := state.runs.set position { run with phase } }
  | .attempt position issued => do
      let run ← state.runs[position]?
      let write ← run.issued[issued]?
      return { state with
        db := (serviceApplyExternalUpdate state.db (.instant state.clock) write.input).1
        runs := state.runs.set position
          { run with issued := run.issued.set issued (write.attempt state.db) } }
  | .record position => do
      let run ← state.runs[position]?
      let record ← run.phase.record
      return { state with
        db := (upsertPublication state.db run.snapshotId
          ⟨run.algorithmKey, record.status, record.counts, record.error⟩).1 }
  | .resume position outcome => do
      let run ← state.runs[position]?
      let next ← run.resume state.clock outcome
      return { state with
        runs := state.runs.set position next
        calls := state.calls ++ (next.phase.scoreCall.map fun call =>
          (call, statusOf state.db run.snapshotId)).toList }
  | .update input => some { state with
      db := (serviceApplyExternalUpdate state.db (.instant state.clock) input).1 }
  | .delete snapshotId => some { state with db := deleteById state.db snapshotId }

/-- The phase waits for the write that was issued last. -/
def RunPhase.awaitsWrite : RunPhase ν → Bool
  | .marking _ | .persisting _ | .completing _ | .recordingFailure _ => true
  | _ => false

/-- A write is confirmed only after an attempt has found the row, and the failure that
says the row is gone is raised only where it is. -/
def OrchestratorAction.Admissible (state : OrchestratorState ν) : OrchestratorAction ν → Prop
  | .resume position outcome => ∀ run, state.runs[position]? = some run →
      match outcome with
      | .ok _ => run.phase.awaitsWrite = true →
          ∃ write, run.issued.getLast? = some write ∧ write.attempted = true
      | .error error => isSnapshotNotFound error = true → statusOf state.db run.snapshotId = none
  | _ => True

instance OrchestratorAction.Admissible.decidable (state : OrchestratorState ν) :
    (action : OrchestratorAction ν) → Decidable (action.Admissible state)
  | .resume position (.ok _) =>
      inferInstanceAs (Decidable (∀ run ∈ state.runs[position]?, run.phase.awaitsWrite = true →
        ∃ write ∈ run.issued.getLast?, write.attempted = true))
  | .resume position (.error error) =>
      inferInstanceAs (Decidable (∀ run ∈ state.runs[position]?, isSnapshotNotFound error = true →
        statusOf state.db run.snapshotId = none))
  | .tick _ | .start .. | .read _ | .attempt .. | .record _ | .update _ | .delete _ =>
      isTrue trivial

/-- Any rows, and no run yet. -/
def OrchestratorState.Initial (state : OrchestratorState ν) : Prop :=
  state.runs = [] ∧ state.calls = []

def orchestratorSystem (ν : Type) : System (OrchestratorState ν) (OrchestratorAction ν) :=
  .ofPerform OrchestratorState.Initial OrchestratorAction.Admissible OrchestratorState.perform

end Reputo.Snapshots

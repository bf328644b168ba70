import Mathlib.Logic.Function.Basic
import Reputo.Library.System
import Reputo.Snapshots.Repository

/-!
# Starting and reconciling snapshot workflows

Temporal keeps the executions; the API starts one for every snapshot it creates, and
a periodic pass settles rows whose workflow is gone.  Calls to Temporal and writes of
rows are steps of their own, which those of other processes may come between.
-/

namespace Reputo.Snapshots

open Reputo.Library Reputo.Orchestrator

variable {ν : Type}

/-! ## Temporal -/

inductive WorkflowExecutionStatus where
  | running
  | paused
  | continuedAsNew
  | unspecified
  | completed
  | failed
  | cancelled
  | terminated
  | timedOut
  deriving DecidableEq, Repr

def WorkflowExecutionStatus.name : WorkflowExecutionStatus → String
  | .running => "RUNNING"
  | .paused => "PAUSED"
  | .continuedAsNew => "CONTINUED_AS_NEW"
  | .unspecified => "UNSPECIFIED"
  | .completed => "COMPLETED"
  | .failed => "FAILED"
  | .cancelled => "CANCELLED"
  | .terminated => "TERMINATED"
  | .timedOut => "TIMED_OUT"

def WorkflowExecutionStatus.isClosed (status : WorkflowExecutionStatus) : Bool :=
  [completed, failed, cancelled, terminated, timedOut].contains status

/-- The latest execution under each workflow identifier. -/
abbrev Executions := String → Option WorkflowExecutionStatus

/-- An execution under the identifier has not closed. -/
def isOpen (executions : Executions) (workflowId : String) : Bool :=
  (executions workflowId).any fun status => !status.isClosed

/-- How far a call to Temporal gets. -/
inductive Delivery where
  | answered
  | responseLost
  | requestLost
  deriving DecidableEq, Repr

/-- A workflow starts unless an execution under its identifier is open. -/
def startWorkflow (executions : Executions) (workflowId : String) : Executions :=
  if isOpen executions workflowId then executions
  else Function.update executions workflowId (some .running)

def snapshotWorkflowId (snapshotId : String) : String := "snapshot-" ++ snapshotId

/-- The executions after the call, and whether the caller sees it succeed; a workflow
that has been started before counts as success. -/
def startRunSnapshotWorkflow (executions : Executions) (snapshotId : String) :
    Delivery → Executions × Bool
  | .answered => (startWorkflow executions (snapshotWorkflowId snapshotId), true)
  | .responseLost => (startWorkflow executions (snapshotWorkflowId snapshotId), false)
  | .requestLost => (executions, false)

/-- `row.temporal?.workflowId ?? snapshotWorkflowId(row._id)`. -/
def SnapshotEntity.workflowId (row : SnapshotEntity ν) : String :=
  (row.temporal.bind (·.workflowId)).getD (snapshotWorkflowId row.id)

/-! ## Processes of the API -/

/-- A creation, by what it does next. -/
inductive SnapshotCreation where
  /-- Persists the workflow identifier. -/
  | created (snapshotId : String) (temporal : Option SnapshotTemporal)
  | starting (snapshotId : String)
  /-- Describes the execution after a failed start. -/
  | startFailed (snapshotId : String) (message : String)
  /-- Marks the row as failed. -/
  | notFound (snapshotId : String) (message : String)
  | finished
  deriving DecidableEq, Repr

/-- Why a pass settles a row. -/
inductive SettleReason where
  | cancelled
  | neverFinalized
  | closedAs (status : WorkflowExecutionStatus)
  | couldNotBeStarted
  | noLongerExists
  deriving DecidableEq, Repr

def SettleReason.status : SettleReason → SnapshotStatus
  | .cancelled => .cancelled
  | _ => .failed

def SettleReason.message : SettleReason → String
  | .cancelled => "Workflow was cancelled"
  | .neverFinalized => "Workflow completed but the snapshot was never finalized"
  | .closedAs status => "Workflow closed as " ++ status.name
  | .couldNotBeStarted => "Workflow could not be started"
  | .noLongerExists => "Workflow no longer exists"

/-- The reason is that no workflow started, or that it is missing. -/
def SettleReason.forMissing : SettleReason → Bool
  | .couldNotBeStarted | .noLongerExists => true
  | _ => false

/-- A pass with the rows it has read, by what it does next about the first of them. -/
inductive ReconcilerPass (ν : Type) where
  | describing (rows : List (SnapshotRow ν))
  | starting (row : SnapshotRow ν) (rest : List (SnapshotRow ν))
  | settling (row : SnapshotRow ν) (reason : SettleReason) (rest : List (SnapshotRow ν))

/-- How a pass goes on from the description of an execution. -/
def reconcileDescribed (row : SnapshotRow ν) (rest : List (SnapshotRow ν)) :
    Option WorkflowExecutionStatus → ReconcilerPass ν
  | some status => match status with
    | .running | .continuedAsNew | .paused => .describing rest
    | .cancelled => .settling row .cancelled rest
    | .completed => .settling row .neverFinalized rest
    | .failed | .terminated | .timedOut => .settling row (.closedAs status) rest
    | .unspecified => .describing rest
  | none =>
      if row.status = .queued then .starting row rest
      else .settling row .noLongerExists rest

structure ReconcilerConfig where
  graceMs : Nat := 120000
  startFailedAfterMs : Nat := 600000
  deriving DecidableEq, Repr

/-- The age at which a row that cannot be started is given up. -/
def ReconcilerConfig.givesUp (config : ReconcilerConfig) (now : Nat) (row : SnapshotRow ν) : Bool :=
  row.createdAt + config.startFailedAfterMs ≤ now

/-- How a pass goes on from its own attempt to start the workflow. -/
def reconcileStarted (config : ReconcilerConfig) (now : Nat) (row : SnapshotRow ν)
    (rest : List (SnapshotRow ν)) (started : Bool) : ReconcilerPass ν :=
  if started then .describing rest
  else if config.givesUp now row then .settling row .couldNotBeStarted rest
  else .describing rest

/-! ## The system -/

/-- The history `marked` lists the rows that the API has marked as failed because
their workflow did not start or was missing. -/
structure LaunchState (ν : Type) where
  clock : Nat
  db : SnapshotDatabase ν
  executions : Executions
  creations : List SnapshotCreation
  passes : List (ReconcilerPass ν)
  marked : List String

inductive LaunchAction (ν : Type) where
  | tick (elapsed : Nat)
  | create (snapshotId : String) (frozen : AlgorithmPresetFrozen ν)
      (temporal : Option SnapshotTemporal) (outputs : Option SnapshotOutputs)
  | persistWorkflowId (creation : Nat)
  | start (creation : Nat) (delivery : Delivery) (message : String)
  | describe (creation : Nat) (answered : Bool)
  | markFailed (creation : Nat)
  | abandonCreation (creation : Nat)
  | beginPass
  | describeRow (pass : Nat) (answered : Bool)
  | startRow (pass : Nat) (delivery : Delivery)
  | settleRow (pass : Nat)
  | abandonPass (pass : Nat)
  /-- A write of the workflow. -/
  | updateSnapshot (input : UpdateSnapshotInput ν)
  /-- An open execution changes its status. -/
  | progress (workflowId : String) (status : WorkflowExecutionStatus)
  /-- A closed execution is no longer retained. -/
  | forget (workflowId : String)
  | deleteSnapshot (snapshotId : String)

/-- The row exists and may become failed. -/
def marksRow (db : SnapshotDatabase ν) (snapshotId : String) : Bool :=
  (db.snapshots.find? snapshotId).any fun row => canTransition row.status .failed

/-- The rows marked after an update to failed. -/
def LaunchState.markedAfter (state : LaunchState ν) (snapshotId : String) : List String :=
  if marksRow state.db snapshotId then snapshotId :: state.marked else state.marked

/-- The database after an update through the service. -/
def LaunchState.updated (state : LaunchState ν) (input : UpdateSnapshotInput ν) :
    SnapshotDatabase ν :=
  (serviceApplyExternalUpdate state.db (.instant state.clock) input).1

/-- What an action does; `none` where a process waits for something else. -/
def LaunchState.perform (config : ReconcilerConfig) (state : LaunchState ν) :
    LaunchAction ν → Option (LaunchState ν)
  | .tick elapsed => some { state with clock := state.clock + elapsed }
  | .create snapshotId frozen temporal outputs => some { state with
      db := Snapshots.create state.db state.clock snapshotId
        { status := some .queued, algorithmPresetFrozen := frozen, temporal, outputs }
      creations := state.creations ++ [.created snapshotId temporal] }
  | .persistWorkflowId creation =>
      match state.creations[creation]? with
      | some (.created snapshotId temporal) => some { state with
          db := (applyExternalUpdate state.db state.clock snapshotId
            { temporal := some { temporal.getD {} with
                workflowId := some (snapshotWorkflowId snapshotId) } }).1
          creations := state.creations.set creation (.starting snapshotId) }
      | _ => none
  | .start creation delivery message =>
      match state.creations[creation]? with
      | some (.starting snapshotId) =>
          let (executions, started) :=
            startRunSnapshotWorkflow state.executions snapshotId delivery
          some { state with
            executions
            creations := state.creations.set creation
              (if started then .finished else .startFailed snapshotId message) }
      | _ => none
  | .describe creation answered =>
      match state.creations[creation]? with
      | some (.startFailed snapshotId message) => some { state with
          creations := state.creations.set creation
            (if !answered then .finished
            else if (state.executions (snapshotWorkflowId snapshotId)).isSome then .finished
            else .notFound snapshotId message) }
      | _ => none
  | .markFailed creation =>
      match state.creations[creation]? with
      | some (.notFound snapshotId message) => some { state with
          db := state.updated
            { snapshotId
              status := some .failed
              error := some
                { message := "Failed to start the snapshot workflow: " ++ message } }
          creations := state.creations.set creation .finished
          marked := state.markedAfter snapshotId }
      | _ => none
  | .abandonCreation creation => some { state with
      creations := state.creations.set creation .finished }
  | .beginPass => some { state with
      passes := state.passes ++
        [.describing (findUnsettled state.db (state.clock - config.graceMs))] }
  | .describeRow pass answered =>
      match state.passes[pass]? with
      | some (.describing (row :: rest)) => some { state with
          passes := state.passes.set pass
            (if answered then reconcileDescribed row rest (state.executions row.workflowId)
            else .describing []) }
      | _ => none
  | .startRow pass delivery =>
      match state.passes[pass]? with
      | some (.starting row rest) =>
          let (executions, started) :=
            startRunSnapshotWorkflow state.executions row.id delivery
          some { state with
            executions
            passes := state.passes.set pass
              (reconcileStarted config state.clock row rest started) }
      | _ => none
  | .settleRow pass =>
      match state.passes[pass]? with
      | some (.settling row reason rest) => some { state with
          db := state.updated
            { snapshotId := row.id
              status := some reason.status
              error := some { message := reason.message } }
          passes := state.passes.set pass (.describing rest)
          marked := if reason.forMissing then state.markedAfter row.id else state.marked }
      | _ => none
  | .abandonPass pass => some { state with passes := state.passes.set pass (.describing []) }
  | .updateSnapshot input => some { state with db := state.updated input }
  | .progress workflowId status =>
      if isOpen state.executions workflowId then
        some { state with
          executions := Function.update state.executions workflowId (some status) }
      else none
  | .forget workflowId =>
      if isOpen state.executions workflowId then none
      else some { state with executions := Function.update state.executions workflowId none }
  | .deleteSnapshot snapshotId => some { state with db := deleteById state.db snapshotId }

def SnapshotCreation.snapshotId? : SnapshotCreation → Option String
  | .created snapshotId _ | .starting snapshotId | .startFailed snapshotId _
  | .notFound snapshotId _ => some snapshotId
  | .finished => none

def ReconcilerPass.rows : ReconcilerPass ν → List (SnapshotRow ν)
  | .describing rows => rows
  | .starting row rest | .settling row _ rest => row :: rest

/-- Identifiers are generated afresh, and a workflow names itself in all its writes. -/
def LaunchAction.Admissible (state : LaunchState ν) : LaunchAction ν → Prop
  | .create snapshotId _ _ _ =>
      (∀ row ∈ state.db.snapshots, row.id ≠ snapshotId) ∧
      (∀ creation ∈ state.creations, creation.snapshotId? ≠ some snapshotId) ∧
      (∀ pass ∈ state.passes, ∀ row ∈ pass.rows, row.id ≠ snapshotId)
  | .updateSnapshot input =>
      ∃ temporal, input.temporal = some temporal ∧
        temporal.workflowId = some (snapshotWorkflowId input.snapshotId)
  | _ => True

/-- Nothing was created yet. -/
def LaunchState.Initial (state : LaunchState ν) : Prop :=
  state.db = .empty ∧ (∀ workflowId, state.executions workflowId = none) ∧
    state.creations = [] ∧ state.passes = [] ∧ state.marked = []

def launchSystem (ν : Type) (config : ReconcilerConfig) : System (LaunchState ν) (LaunchAction ν) :=
  .ofPerform LaunchState.Initial LaunchAction.Admissible (LaunchState.perform config)

end Reputo.Snapshots

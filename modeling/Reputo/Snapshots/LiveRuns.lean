import Reputo.Snapshots.Launch

/-!
# Rows are given up only where nothing runs

The creation of a snapshot and the reconciler mark a row as failed where they found
no execution of its workflow.  The mark is right as long as no call starts the
workflow after it was given up, and as long as the reconciler's own failing call has
not started it: unlike the creation, the reconciler does not ask again.
-/

namespace Reputo.Snapshots

open Reputo.Library

variable {ν : Type}

/-! ## What has been given up -/

/-- Workflows found without an execution, whose row is about to be marked. -/
def SnapshotCreation.givenUp : SnapshotCreation → List String
  | .notFound snapshotId _ => [snapshotWorkflowId snapshotId]
  | _ => []

def ReconcilerPass.givenUp : ReconcilerPass ν → List String
  | .settling row reason _ =>
      if reason.forMissing then [row.workflowId, snapshotWorkflowId row.id] else []
  | _ => []

/-- Workflows that the API has given up: their row is marked, or about to be. -/
def LaunchState.givenUp (state : LaunchState ν) : List String :=
  state.creations.flatMap (·.givenUp) ++ state.passes.flatMap (·.givenUp) ++
    state.marked.map snapshotWorkflowId

/-- No call starts a workflow that was given up, and where the reconciler gives up a
row as its own call failed, the call has started nothing and nothing else has. -/
def LaunchAction.Permitted (config : ReconcilerConfig) (state : LaunchState ν) :
    LaunchAction ν → Prop
  | .start creation delivery _ => ∀ snapshotId,
      state.creations[creation]? = some (.starting snapshotId) →
        delivery ≠ .requestLost → snapshotWorkflowId snapshotId ∉ state.givenUp
  | .startRow pass delivery => ∀ row rest,
      state.passes[pass]? = some (.starting row rest) →
        (delivery ≠ .requestLost → snapshotWorkflowId row.id ∉ state.givenUp) ∧
        (delivery ≠ .answered → config.givesUp state.clock row = true →
          delivery = .requestLost ∧ isOpen state.executions row.workflowId = false ∧
            isOpen state.executions (snapshotWorkflowId row.id) = false)
  | _ => True

/-- The row that an action marks as failed because its workflow did not start or is
missing. -/
def LaunchState.marking (state : LaunchState ν) : LaunchAction ν → Option String
  | .markFailed creation => match state.creations[creation]? with
    | some (.notFound snapshotId _) => some snapshotId
    | _ => none
  | .settleRow pass => match state.passes[pass]? with
    | some (.settling row reason _) => if reason.forMissing then some row.id else none
    | _ => none
  | _ => none

/-! ## Workflow identifiers of rows -/

/-- A row changes its workflow identifier only to its own, and has it when it starts to
run. -/
def Evolves (db after : SnapshotDatabase ν) : Prop :=
  ∀ row ∈ after.snapshots, ∃ source ∈ db.snapshots, source.id = row.id ∧
    (row.workflowId = source.workflowId ∨ row.workflowId = snapshotWorkflowId row.id) ∧
    (row.status = .running →
      source.status = .running ∨ row.workflowId = snapshotWorkflowId row.id)

theorem Evolves.refl (db : SnapshotDatabase ν) : Evolves db db :=
  fun row member => ⟨row, member, rfl, Or.inl rfl, Or.inl⟩

section Updates

variable {db : SnapshotDatabase ν} {now : Nat} {id : String}
  {data : SnapshotApplyExternalUpdate ν}

/-- An update that names the workflow of its row lets the rows evolve. -/
theorem evolves_of_named {temporal : SnapshotTemporal} (carried : data.temporal = some temporal)
    (named : temporal.workflowId = some (snapshotWorkflowId id)) :
    Evolves db (applyExternalUpdate db now id data).1 := by
  intro row member
  rcases mem_applyExternalUpdate now member with kept | ⟨source, stored, owner, _, rfl⟩
  · exact Evolves.refl db row kept
  · have own : (data.assign now source).workflowId =
        snapshotWorkflowId (data.assign now source).id := by
      simp only [SnapshotEntity.workflowId, SnapshotApplyExternalUpdate.assign, carried, named,
        owner, Option.some_or, Option.bind_some, Option.getD_some]
    exact ⟨source, stored, rfl, Or.inr own, fun _ => Or.inr own⟩

/-- So does one that says nothing about the workflow and does not start it. -/
theorem evolves_of_unnamed (silent : data.temporal = none) (starts : data.status ≠ some .running) :
    Evolves db (applyExternalUpdate db now id data).1 := by
  intro row member
  rcases mem_applyExternalUpdate now member with kept | ⟨source, stored, _, _, rfl⟩
  · exact Evolves.refl db row kept
  · have same : (data.assign now source).workflowId = source.workflowId := by
      simp only [SnapshotEntity.workflowId, SnapshotApplyExternalUpdate.assign, silent,
        Option.none_or]
    refine ⟨source, stored, rfl, Or.inl same, ?_⟩
    intro running
    cases requested : data.status with
    | none =>
        rw [SnapshotApplyExternalUpdate.assign, requested] at running
        exact Or.inl running
    | some status =>
        rw [SnapshotApplyExternalUpdate.assign, requested] at running
        exact absurd (requested.trans (congrArg some running)) starts

end Updates

theorem evolves_deleteById (db : SnapshotDatabase ν) (id : String) :
    Evolves db (deleteById db id) :=
  fun row member => Evolves.refl db row (Table.mem_filter.mp member).1

/-! ## The invariant -/

/-- The snapshot whose workflow identifier a creation has persisted. -/
def SnapshotCreation.persisted? : SnapshotCreation → Option String
  | .starting snapshotId | .startFailed snapshotId _ | .notFound snapshotId _ => some snapshotId
  | .created .. | .finished => none

structure CreationSound (db : SnapshotDatabase ν) (executions : Executions)
    (creation : SnapshotCreation) : Prop where
  named : ∀ snapshotId, creation.persisted? = some snapshotId →
    ∀ row ∈ db.snapshots, row.id = snapshotId → row.workflowId = snapshotWorkflowId snapshotId
  closed : ∀ workflowId ∈ creation.givenUp, isOpen executions workflowId = false

/-- A row in the hands of a pass, and the row it was read from. -/
structure ListedRow (db : SnapshotDatabase ν) (row : SnapshotRow ν) : Prop where
  named : row.status = .queued ∨ row.workflowId = snapshotWorkflowId row.id
  stored : ∀ other ∈ db.snapshots, other.id = row.id →
    other.workflowId = row.workflowId ∨ other.workflowId = snapshotWorkflowId row.id

structure PassSound (db : SnapshotDatabase ν) (executions : Executions)
    (pass : ReconcilerPass ν) : Prop where
  listed : ∀ row ∈ pass.rows, ListedRow db row
  closed : ∀ workflowId ∈ pass.givenUp, isOpen executions workflowId = false

structure LaunchSound (state : LaunchState ν) : Prop where
  rows : ∀ row ∈ state.db.snapshots, row.status = .running →
    row.workflowId = snapshotWorkflowId row.id
  creations : ∀ creation ∈ state.creations, CreationSound state.db state.executions creation
  passes : ∀ pass ∈ state.passes, PassSound state.db state.executions pass
  marked : ∀ snapshotId ∈ state.marked,
    isOpen state.executions (snapshotWorkflowId snapshotId) = false

section Frame

variable {db after : SnapshotDatabase ν} {executions later : Executions}

theorem CreationSound.frame {creation : SnapshotCreation}
    (sound : CreationSound db executions creation) (evolves : Evolves db after)
    (closes : ∀ workflowId ∈ creation.givenUp,
      isOpen executions workflowId = false → isOpen later workflowId = false) :
    CreationSound after later creation := by
  constructor
  · intro snapshotId persisted row member owner
    rcases evolves row member with ⟨source, stored, same, renamed, _⟩
    rcases renamed with kept | own
    · rw [kept]
      exact sound.named snapshotId persisted source stored (same.trans owner)
    · rw [own, owner]
  · exact fun workflowId member => closes workflowId member (sound.closed workflowId member)

theorem ListedRow.frame {row : SnapshotRow ν} (listed : ListedRow db row)
    (evolves : Evolves db after) : ListedRow after row := by
  refine ⟨listed.named, ?_⟩
  intro other member owner
  rcases evolves other member with ⟨source, stored, same, renamed, _⟩
  rcases renamed with kept | own
  · rw [kept]
    exact listed.stored source stored (same.trans owner)
  · exact Or.inr (own.trans (congrArg snapshotWorkflowId owner))

theorem PassSound.frame {pass : ReconcilerPass ν} (sound : PassSound db executions pass)
    (evolves : Evolves db after)
    (closes : ∀ workflowId ∈ pass.givenUp,
      isOpen executions workflowId = false → isOpen later workflowId = false) :
    PassSound after later pass :=
  ⟨fun row member => (sound.listed row member).frame evolves,
    fun workflowId member => closes workflowId member (sound.closed workflowId member)⟩

end Frame

section Parts

variable {state : LaunchState ν} {workflowId : String}

theorem mem_givenUp_of_creation {creation : SnapshotCreation}
    (member : creation ∈ state.creations) (given : workflowId ∈ creation.givenUp) :
    workflowId ∈ state.givenUp :=
  List.mem_append_left _ (List.mem_append_left _ (List.mem_flatMap.mpr ⟨creation, member, given⟩))

theorem mem_givenUp_of_pass {pass : ReconcilerPass ν} (member : pass ∈ state.passes)
    (given : workflowId ∈ pass.givenUp) : workflowId ∈ state.givenUp :=
  List.mem_append_left _ (List.mem_append_right _ (List.mem_flatMap.mpr ⟨pass, member, given⟩))

theorem mem_givenUp_of_marked {snapshotId : String} (member : snapshotId ∈ state.marked) :
    snapshotWorkflowId snapshotId ∈ state.givenUp :=
  List.mem_append_right _ (List.mem_map_of_mem member)

/-- A change of rows and executions that opens nothing given up is sound. -/
theorem LaunchSound.frame (sound : LaunchSound state) {db : SnapshotDatabase ν}
    {executions : Executions} (evolves : Evolves state.db db)
    (closes : ∀ workflowId ∈ state.givenUp,
      isOpen state.executions workflowId = false → isOpen executions workflowId = false) :
    LaunchSound { state with db, executions } := by
  refine ⟨?_, ?_, ?_, ?_⟩
  · intro row member running
    rcases evolves row member with ⟨source, stored, same, renamed, started⟩
    rcases started running with before | own
    · rcases renamed with kept | own
      · rw [kept, sound.rows source stored before, same]
      · exact own
    · exact own
  · intro creation member
    exact (sound.creations creation member).frame evolves fun workflowId given =>
      closes workflowId (mem_givenUp_of_creation member given)
  · intro pass member
    exact (sound.passes pass member).frame evolves fun workflowId given =>
      closes workflowId (mem_givenUp_of_pass member given)
  · intro snapshotId member
    exact closes _ (mem_givenUp_of_marked member) (sound.marked snapshotId member)

theorem LaunchSound.setCreation (sound : LaunchSound state) {creation : SnapshotCreation}
    (position : Nat) (new : CreationSound state.db state.executions creation) :
    LaunchSound { state with creations := state.creations.set position creation } := by
  refine ⟨sound.rows, ?_, sound.passes, sound.marked⟩
  intro other member
  rcases List.mem_or_eq_of_mem_set member with kept | same
  · exact sound.creations other kept
  · exact same ▸ new

theorem LaunchSound.setPass (sound : LaunchSound state) {pass : ReconcilerPass ν}
    (position : Nat) (new : PassSound state.db state.executions pass) :
    LaunchSound { state with passes := state.passes.set position pass } := by
  refine ⟨sound.rows, sound.creations, ?_, sound.marked⟩
  intro other member
  rcases List.mem_or_eq_of_mem_set member with kept | same
  · exact sound.passes other kept
  · exact same ▸ new

theorem LaunchSound.mark (sound : LaunchSound state) {marked : List String}
    (closed : ∀ snapshotId ∈ marked,
      isOpen state.executions (snapshotWorkflowId snapshotId) = false) :
    LaunchSound { state with marked } :=
  ⟨sound.rows, sound.creations, sound.passes, closed⟩

end Parts

theorem creationSound_finished (db : SnapshotDatabase ν) (executions : Executions) :
    CreationSound db executions .finished :=
  ⟨fun _ persisted => (nomatch persisted), fun _ given => (nomatch given)⟩

/-- A pass that is not about to mark a row, with rows it was listed with. -/
theorem PassSound.goOn {db : SnapshotDatabase ν} {executions : Executions}
    {pass next : ReconcilerPass ν} (sound : PassSound db executions pass)
    (rows : ∀ row ∈ next.rows, row ∈ pass.rows) (marks : next.givenUp = []) :
    PassSound db executions next :=
  ⟨fun row member => sound.listed row (rows row member), fun _ given => nomatch marks ▸ given⟩

/-! ## Executions -/

section Executions

variable {executions : Executions} {workflowId other : String}

theorem isOpen_update_of_ne (status : Option WorkflowExecutionStatus) (different : other ≠ workflowId) :
    isOpen (Function.update executions workflowId status) other = isOpen executions other := by
  rw [isOpen, isOpen, Function.update_of_ne different]

theorem isOpen_startWorkflow_of_ne (different : other ≠ workflowId) :
    isOpen (startWorkflow executions workflowId) other = isOpen executions other := by
  rw [startWorkflow]
  split
  · rfl
  · exact isOpen_update_of_ne _ different

theorem isOpen_of_missing (missing : executions workflowId = none) :
    isOpen executions workflowId = false := by
  rw [isOpen, missing]
  rfl

/-- A call opens at most the workflow that it is to start. -/
theorem isOpen_startRunSnapshotWorkflow {snapshotId : String} {delivery : Delivery}
    (spared : delivery ≠ .requestLost → other ≠ snapshotWorkflowId snapshotId)
    (closed : isOpen executions other = false) :
    isOpen (startRunSnapshotWorkflow executions snapshotId delivery).1 other = false := by
  cases delivery with
  | requestLost => exact closed
  | answered =>
      exact (isOpen_startWorkflow_of_ne (spared Delivery.noConfusion)).trans closed
  | responseLost =>
      exact (isOpen_startWorkflow_of_ne (spared Delivery.noConfusion)).trans closed

end Executions

/-! ## Steps -/

/-- The row has its workflow identifier after the creation has persisted it. -/
theorem named_of_persisted {db : SnapshotDatabase ν} {now : Nat} {id : String}
    {temporal : SnapshotTemporal} (named : temporal.workflowId = some (snapshotWorkflowId id))
    {row : SnapshotEntity ν}
    (member : row ∈ (applyExternalUpdate db now id { temporal := some temporal }).1.snapshots)
    (owner : row.id = id) : row.workflowId = snapshotWorkflowId id := by
  have found := Table.find?_eq_some_iff.mpr ⟨member, owner⟩
  cases before : db.snapshots.find? id with
  | none =>
      rw [applyExternalUpdate_of_missing now before] at found
      exact nomatch before.symm.trans found
  | some source =>
      rw [find?_applyExternalUpdate_self now before rfl] at found
      rw [← Option.some.inj found]
      simp only [SnapshotEntity.workflowId, SnapshotApplyExternalUpdate.assign, Option.some_or,
        Option.bind_some, named, Option.getD_some]

theorem mem_findUnsettled {db : SnapshotDatabase ν} {before : Nat} {row : SnapshotRow ν}
    (member : row ∈ findUnsettled db before) :
    row.toSnapshotEntity ∈ db.snapshots ∧ (row.status = .queued ∨ row.status = .running) := by
  rcases List.mem_map.mp member with ⟨entity, ordered, rfl⟩
  rcases List.mem_filter.mp ((RowOrder.mem_orderBy _).mp ordered) with ⟨stored, unsettled⟩
  refine ⟨stored, ?_⟩
  simpa using (Bool.and_eq_true_iff.mp unsettled).1

section Steps

variable {config : ReconcilerConfig} {state : LaunchState ν}

theorem LaunchSound.create (sound : LaunchSound state) {snapshotId : String}
    {createData : SnapshotCreateData ν} {temporal : Option SnapshotTemporal}
    (queued : createData.status = some .queued)
    (newCreation : ∀ creation ∈ state.creations, creation.snapshotId? ≠ some snapshotId)
    (newListed : ∀ pass ∈ state.passes, ∀ row ∈ pass.rows, row.id ≠ snapshotId) :
    LaunchSound { state with
      db := Snapshots.create state.db state.clock snapshotId createData
      creations := state.creations ++ [.created snapshotId temporal] } := by
  have split : ∀ row ∈ (Snapshots.create state.db state.clock snapshotId createData).snapshots,
      row ∈ state.db.snapshots ∨ row.id = snapshotId ∧ row.status = .queued := by
    intro row member
    rcases Table.mem_insertOrIgnore.mp member with old | ⟨same, _⟩
    · exact Or.inl old
    · rw [same]
      exact Or.inr ⟨rfl, by rw [queued]; rfl⟩
  refine ⟨?_, ?_, ?_, sound.marked⟩
  · intro row member running
    rcases split row member with old | ⟨_, waiting⟩
    · exact sound.rows row old running
    · exact nomatch waiting.symm.trans running
  · intro creation member
    rcases List.mem_append.mp member with old | new
    · refine ⟨?_, (sound.creations creation old).closed⟩
      intro other persisted row rowMember owner
      rcases split row rowMember with oldRow | ⟨created, _⟩
      · exact (sound.creations creation old).named other persisted row oldRow owner
      · have known : creation.snapshotId? = some other := by
          cases creation <;> first | exact persisted | exact nomatch persisted
        exact absurd (known.trans (congrArg some (owner.symm.trans created)))
          (newCreation creation old)
    · rw [List.mem_singleton.mp new]
      exact ⟨fun _ persisted => (nomatch persisted), fun _ given => (nomatch given)⟩
  · intro pass member
    refine ⟨?_, (sound.passes pass member).closed⟩
    intro row listed
    refine ⟨((sound.passes pass member).listed row listed).named, ?_⟩
    intro other otherMember owner
    rcases split other otherMember with old | ⟨created, _⟩
    · exact ((sound.passes pass member).listed row listed).stored other old owner
    · exact absurd (owner.symm.trans created) (newListed pass member row listed)

theorem LaunchSound.beginPass (sound : LaunchSound state) (updatedBefore : Nat) :
    LaunchSound { state with
      passes := state.passes ++ [.describing (findUnsettled state.db updatedBefore)] } := by
  refine ⟨sound.rows, sound.creations, ?_, sound.marked⟩
  intro pass member
  rcases List.mem_append.mp member with old | new
  · exact sound.passes pass old
  · rw [List.mem_singleton.mp new]
    refine ⟨?_, fun _ given => nomatch given⟩
    intro row listed
    rcases mem_findUnsettled listed with ⟨stored, unsettled⟩
    constructor
    · rcases unsettled with queued | running
      · exact Or.inl queued
      · exact Or.inr (sound.rows row.toSnapshotEntity stored running)
    · intro other otherMember owner
      exact Or.inl (congrArg SnapshotEntity.workflowId
        (Table.eq_of_key_eq otherMember stored owner))

/-- A truthful description leads to a mark only where nothing is open. -/
theorem PassSound.described {db : SnapshotDatabase ν} {executions : Executions}
    {row : SnapshotRow ν} {rest : List (SnapshotRow ν)}
    (sound : PassSound db executions (.describing (row :: rest))) :
    PassSound db executions (reconcileDescribed row rest (executions row.workflowId)) := by
  have tail : ∀ other ∈ rest, other ∈ row :: rest := fun _ => List.mem_cons_of_mem _
  cases described : executions row.workflowId with
  | some status =>
      cases status with
      | running | paused | continuedAsNew | unspecified => exact sound.goOn tail rfl
      | completed | failed | cancelled | terminated | timedOut =>
          exact sound.goOn (fun _ => id) rfl
  | none =>
      rw [reconcileDescribed]
      split
      · exact sound.goOn (fun _ => id) rfl
      · rename_i notQueued
        refine ⟨sound.listed, ?_⟩
        rcases (sound.listed row List.mem_cons_self).named with queued | own
        · exact absurd queued notQueued
        · intro workflowId given
          have same : workflowId = row.workflowId := by
            simpa [ReconcilerPass.givenUp, SettleReason.forMissing, ← own] using given
          rw [same]
          exact isOpen_of_missing described

/-- So does an attempt to start the workflow, if it failed where nothing is open. -/
theorem PassSound.started {db : SnapshotDatabase ν} {executions : Executions}
    {row : SnapshotRow ν} {rest : List (SnapshotRow ν)} {now : Nat} {succeeded : Bool}
    (sound : PassSound db executions (.describing (row :: rest)))
    (closed : succeeded = false → config.givesUp now row = true →
      isOpen executions row.workflowId = false ∧
        isOpen executions (snapshotWorkflowId row.id) = false) :
    PassSound db executions (reconcileStarted config now row rest succeeded) := by
  have tail : ∀ other ∈ rest, other ∈ row :: rest := fun _ => List.mem_cons_of_mem _
  rw [reconcileStarted]
  split
  · exact sound.goOn tail rfl
  · rename_i failed
    split
    · rename_i late
      refine ⟨sound.listed, ?_⟩
      rcases closed (eq_false_of_ne_true failed) late with ⟨recorded, own⟩
      intro workflowId given
      have either : workflowId = row.workflowId ∨ workflowId = snapshotWorkflowId row.id := by
        simpa [ReconcilerPass.givenUp, SettleReason.forMissing] using given
      rcases either with same | same
      · exact same ▸ recorded
      · exact same ▸ own
    · exact sound.goOn tail rfl

/-- Marking a row that was found without an execution. -/
theorem LaunchSound.markedAfter (sound : LaunchSound state) {snapshotId : String}
    (closed : isOpen state.executions (snapshotWorkflowId snapshotId) = false) :
    ∀ other ∈ state.markedAfter snapshotId,
      isOpen state.executions (snapshotWorkflowId other) = false := by
  intro other member
  rw [LaunchState.markedAfter] at member
  split at member
  · rcases List.mem_cons.mp member with same | old
    · exact same ▸ closed
    · exact sound.marked other old
  · exact sound.marked other member

/-- Every permitted step keeps the invariant. -/
theorem LaunchSound.step {action : LaunchAction ν} {after : LaunchState ν}
    (sound : LaunchSound state) (permitted : action.Permitted config state)
    (admissible : action.Admissible state)
    (performed : state.perform config action = some after) : LaunchSound after := by
  have idle : ∀ workflowId ∈ state.givenUp, isOpen state.executions workflowId = false →
      isOpen state.executions workflowId = false := fun _ _ closed => closed
  cases action with
  | tick elapsed =>
      cases performed
      exact ⟨sound.rows, sound.creations, sound.passes, sound.marked⟩
  | create snapshotId frozen temporal outputs =>
      cases performed
      exact sound.create rfl admissible.2.1 admissible.2.2
  | persistWorkflowId position =>
      cases found : state.creations[position]? with
      | none => simp [LaunchState.perform, found] at performed
      | some creation =>
          cases creation with
          | starting | startFailed | notFound | finished =>
              simp [LaunchState.perform, found] at performed
          | created snapshotId temporal =>
              simp only [LaunchState.perform, found, Option.some.injEq] at performed
              rw [← performed]
              have evolves : Evolves state.db (applyExternalUpdate state.db state.clock snapshotId
                  { temporal := some { temporal.getD {} with
                      workflowId := some (snapshotWorkflowId snapshotId) } }).1 :=
                evolves_of_named rfl rfl
              refine (sound.frame evolves idle).setCreation position
                ⟨?_, fun _ given => nomatch given⟩
              intro other persisted row member owner
              cases persisted
              exact named_of_persisted rfl member owner
  | start position delivery message =>
      cases found : state.creations[position]? with
      | none => simp [LaunchState.perform, found] at performed
      | some creation =>
          cases creation with
          | created | startFailed | notFound | finished =>
              simp [LaunchState.perform, found] at performed
          | starting snapshotId =>
              simp only [LaunchState.perform, found, Option.some.injEq] at performed
              rw [← performed]
              have before := sound.creations _ (List.mem_of_getElem? found)
              have framed := sound.frame (Evolves.refl state.db)
                (fun workflowId given closed => isOpen_startRunSnapshotWorkflow
                  (fun sent same => permitted snapshotId found sent (same ▸ given)) closed)
              apply framed.setCreation position
              split
              · exact creationSound_finished _ _
              · exact ⟨before.named, fun _ given => nomatch given⟩
  | describe position answered =>
      cases found : state.creations[position]? with
      | none => simp [LaunchState.perform, found] at performed
      | some creation =>
          cases creation with
          | created | starting | notFound | finished =>
              simp [LaunchState.perform, found] at performed
          | startFailed snapshotId message =>
              simp only [LaunchState.perform, found, Option.some.injEq] at performed
              rw [← performed]
              apply sound.setCreation position
              split
              · exact creationSound_finished _ _
              · split
                · exact creationSound_finished _ _
                · rename_i missing
                  refine ⟨(sound.creations _ (List.mem_of_getElem? found)).named, ?_⟩
                  intro workflowId given
                  rw [List.mem_singleton.mp given]
                  exact isOpen_of_missing (Option.not_isSome_iff_eq_none.mp missing)
  | markFailed position =>
      cases found : state.creations[position]? with
      | none => simp [LaunchState.perform, found] at performed
      | some creation =>
          cases creation with
          | created | starting | startFailed | finished =>
              simp [LaunchState.perform, found] at performed
          | notFound snapshotId message =>
              simp only [LaunchState.perform, found, Option.some.injEq] at performed
              rw [← performed]
              have closed := (sound.creations _ (List.mem_of_getElem? found)).closed _
                (List.mem_singleton_self _)
              have evolves : Evolves state.db (state.updated
                  { snapshotId
                    status := some .failed
                    error := some
                      { message := "Failed to start the snapshot workflow: " ++ message } }) :=
                evolves_of_unnamed rfl (fun same => nomatch same)
              exact ((sound.frame evolves idle).setCreation position
                (creationSound_finished _ _)).mark (sound.markedAfter closed)
  | abandonCreation position =>
      cases performed
      exact sound.setCreation position (creationSound_finished _ _)
  | beginPass =>
      cases performed
      exact sound.beginPass _
  | describeRow position answered =>
      cases found : state.passes[position]? with
      | none => simp [LaunchState.perform, found] at performed
      | some pass =>
          cases pass with
          | starting | settling => simp [LaunchState.perform, found] at performed
          | describing rows =>
              cases rows with
              | nil => simp [LaunchState.perform, found] at performed
              | cons row rest =>
                  simp only [LaunchState.perform, found, Option.some.injEq] at performed
                  rw [← performed]
                  have before := sound.passes _ (List.mem_of_getElem? found)
                  apply sound.setPass position
                  split
                  · exact before.described
                  · exact before.goOn (fun _ member => nomatch member) rfl
  | startRow position delivery =>
      cases found : state.passes[position]? with
      | none => simp [LaunchState.perform, found] at performed
      | some pass =>
          cases pass with
          | describing | settling => simp [LaunchState.perform, found] at performed
          | starting row rest =>
              simp only [LaunchState.perform, found, Option.some.injEq] at performed
              rw [← performed]
              rcases permitted row rest found with ⟨spared, unopened⟩
              have closes : ∀ workflowId ∈ state.givenUp,
                  isOpen state.executions workflowId = false →
                    isOpen (startRunSnapshotWorkflow state.executions row.id delivery).1
                      workflowId = false := fun workflowId given closed =>
                isOpen_startRunSnapshotWorkflow
                  (fun sent same => spared sent (same ▸ given)) closed
              have framed := sound.frame (Evolves.refl state.db) closes
              apply framed.setPass position
              apply PassSound.started
              · have before : PassSound state.db state.executions (.describing (row :: rest)) :=
                  (sound.passes _ (List.mem_of_getElem? found)).goOn (fun _ => id) rfl
                exact before.frame (Evolves.refl _) (fun _ given => nomatch given)
              · intro failed late
                have unanswered : delivery ≠ .answered := by
                  intro same
                  rw [same] at failed
                  exact nomatch failed
                rcases unopened unanswered late with ⟨lost, recorded, own⟩
                rw [lost]
                exact ⟨recorded, own⟩
  | settleRow position =>
      cases found : state.passes[position]? with
      | none => simp [LaunchState.perform, found] at performed
      | some pass =>
          cases pass with
          | describing | starting => simp [LaunchState.perform, found] at performed
          | settling row reason rest =>
              simp only [LaunchState.perform, found, Option.some.injEq] at performed
              rw [← performed]
              have before := sound.passes _ (List.mem_of_getElem? found)
              have starts : some reason.status ≠ some SnapshotStatus.running := by
                cases reason <;> exact fun same => nomatch same
              have evolves : Evolves state.db (state.updated
                  { snapshotId := row.id
                    status := some reason.status
                    error := some { message := reason.message } }) :=
                evolves_of_unnamed rfl starts
              have next : PassSound state.db state.executions (.describing rest) :=
                before.goOn (fun _ => List.mem_cons_of_mem _) rfl
              refine ((sound.frame evolves idle).setPass position
                (next.frame evolves (fun _ given => nomatch given))).mark ?_
              split
              · rename_i missing
                apply sound.markedAfter
                apply before.closed
                simp [ReconcilerPass.givenUp, missing]
              · exact sound.marked
  | abandonPass position =>
      cases performed
      apply sound.setPass position
      exact ⟨fun _ member => (nomatch member), fun _ given => (nomatch given)⟩
  | updateSnapshot input =>
      cases performed
      rcases admissible with ⟨temporal, carried, named⟩
      exact sound.frame (evolves_of_named carried named) idle
  | progress workflowId status =>
      simp only [LaunchState.perform] at performed
      split at performed
      · rename_i opened
        cases performed
        apply sound.frame (Evolves.refl state.db)
        intro other _ closed
        rw [isOpen_update_of_ne]
        · exact closed
        · intro same
          rw [same, opened] at closed
          exact nomatch closed
      · exact nomatch performed
  | forget workflowId =>
      simp only [LaunchState.perform] at performed
      split at performed
      · exact nomatch performed
      · cases performed
        apply sound.frame (Evolves.refl state.db)
        intro other _ closed
        cases Decidable.em (other = workflowId) with
        | inl same =>
            rw [same]
            exact isOpen_of_missing (Function.update_self _ _ _)
        | inr different => exact (isOpen_update_of_ne _ different).trans closed
  | deleteSnapshot snapshotId =>
      cases performed
      exact sound.frame (evolves_deleteById state.db snapshotId) idle

theorem launchSound_of_initial (initial : state.Initial) : LaunchSound state := by
  rcases initial with ⟨db, _, creations, passes, marked⟩
  refine ⟨?_, ?_, ?_, ?_⟩
  · intro row member
    rw [db] at member
    exact nomatch member
  · intro creation member
    exact nomatch creations ▸ member
  · intro pass member
    exact nomatch passes ▸ member
  · intro snapshotId member
    exact nomatch marked ▸ member

theorem LaunchSound.of_reachable
    (reachable : (launchSystem ν config).Reachable (LaunchAction.Permitted config) state) :
    LaunchSound state :=
  reachable.invariant (fun _ initial => launchSound_of_initial initial)
    (fun state action after sound permitted (stepped : action.Admissible state ∧
      state.perform config action = some after) => sound.step permitted stepped.1 stepped.2)

/-- Where an action marks a row, neither the recorded workflow of the row nor its own
is open. -/
theorem LaunchSound.closed_of_marking (sound : LaunchSound state) {action : LaunchAction ν}
    {snapshotId : String} (marks : state.marking action = some snapshotId)
    {row : SnapshotEntity ν} (member : row ∈ state.db.snapshots) (owner : row.id = snapshotId) :
    isOpen state.executions row.workflowId = false ∧
      isOpen state.executions (snapshotWorkflowId snapshotId) = false := by
  cases action with
  | markFailed position =>
      cases found : state.creations[position]? with
      | none => simp [LaunchState.marking, found] at marks
      | some creation =>
          cases creation with
          | created | starting | startFailed | finished =>
              simp [LaunchState.marking, found] at marks
          | notFound other message =>
              simp only [LaunchState.marking, found, Option.some.injEq] at marks
              cases marks
              have creation := sound.creations _ (List.mem_of_getElem? found)
              have closed := creation.closed _ (List.mem_singleton_self _)
              rw [creation.named _ rfl row member owner]
              exact ⟨closed, closed⟩
  | settleRow position =>
      cases found : state.passes[position]? with
      | none => simp [LaunchState.marking, found] at marks
      | some pass =>
          cases pass with
          | describing | starting => simp [LaunchState.marking, found] at marks
          | settling listed reason rest =>
              simp only [LaunchState.marking, found] at marks
              split at marks
              · rename_i missing
                cases marks
                have pass := sound.passes _ (List.mem_of_getElem? found)
                have recorded : isOpen state.executions listed.workflowId = false :=
                  pass.closed _ (by simp [ReconcilerPass.givenUp, missing])
                have own : isOpen state.executions (snapshotWorkflowId listed.id) = false :=
                  pass.closed _ (by simp [ReconcilerPass.givenUp, missing])
                refine ⟨?_, own⟩
                have listing := pass.listed listed List.mem_cons_self
                rcases listing.stored row member owner with same | same
                · rw [same]
                  exact recorded
                · rw [same]
                  exact own
              · exact nomatch marks
  | _ => exact nomatch marks

end Steps

/-- In every run whose steps are permitted, the API marks a row as failed for a start
or a missing execution only where no execution of its workflow is open, and none is
open later, so that no write of a running workflow meets the mark. -/
theorem launch_neverSettlesLive (config : ReconcilerConfig) {state : LaunchState ν}
    (reachable : (launchSystem ν config).Reachable (LaunchAction.Permitted config) state) :
    (∀ action snapshotId row, state.marking action = some snapshotId →
      findById state.db snapshotId = some row →
      isOpen state.executions row.workflowId = false ∧
        isOpen state.executions (snapshotWorkflowId snapshotId) = false) ∧
    (∀ snapshotId ∈ state.marked,
      isOpen state.executions (snapshotWorkflowId snapshotId) = false) := by
  have sound := LaunchSound.of_reachable reachable
  refine ⟨?_, sound.marked⟩
  intro action snapshotId row marks found
  rcases Option.map_eq_some_iff.mp found with ⟨entity, stored, rfl⟩
  rcases Table.find?_eq_some_iff.mp stored with ⟨member, owner⟩
  exact sound.closed_of_marking marks member owner

section Sample

private def emptyLaunch : LaunchState Rat :=
  ⟨0, .empty, fun _ => none, [], [], []⟩

private theorem reachable_from_empty {permitted : LaunchState Rat → LaunchAction Rat → Prop}
    {actions : List (LaunchAction Rat)}
    (along : System.AllAlong (LaunchState.perform {}) (fun before action =>
      permitted before action ∧ action.Admissible before) emptyLaunch actions) :
    (launchSystem Rat {}).Reachable permitted
      (System.performAll (LaunchState.perform {}) emptyLaunch actions) := by
  have start : (launchSystem Rat {}).Reachable permitted emptyLaunch :=
    .start ⟨rfl, fun _ => rfl, rfl, rfl, rfl⟩
  exact System.reachable_performAll start along

/-- The start of a new snapshot does not get through, which the creation finds out and
records. -/
private def failedStart : List (LaunchAction Rat) :=
  [.create "s7" ⟨"voting_engagement", "1.0.0", []⟩ none none, .persistWorkflowId 0,
    .start 0 .requestLost "unavailable", .describe 0 true, .markFailed 0]

theorem launch_neverSettlesLive_sample :
    "s7" ∈ (System.performAll (LaunchState.perform {}) emptyLaunch failedStart).marked ∧
      isOpen (System.performAll (LaunchState.perform {}) emptyLaunch failedStart).executions
        "snapshot-s7" = false := by
  have marked : "s7" ∈
      (System.performAll (LaunchState.perform {}) emptyLaunch failedStart).marked := by
    decide +kernel
  have reachable : (launchSystem Rat {}).Reachable (LaunchAction.Permitted {})
      (System.performAll (LaunchState.perform {}) emptyLaunch failedStart) := by
    apply reachable_from_empty
    refine ⟨⟨trivial, ?_, ?_, ?_⟩, ⟨trivial, trivial⟩, ⟨?_, trivial⟩, ⟨trivial, trivial⟩,
      ⟨trivial, trivial⟩, trivial⟩
    · exact fun _ member => nomatch member
    · exact fun _ member => nomatch member
    · exact fun _ member => nomatch member
    · exact fun _ _ sent => absurd rfl sent
  exact ⟨marked, (launch_neverSettlesLive {} reachable).2 "s7" marked⟩

/-- The start is lost and Temporal is down when the creation asks; ten minutes later
the reconciler starts the workflow, but does not hear of it. -/
private def lostResponse : List (LaunchAction Rat) :=
  [.create "s8" ⟨"voting_engagement", "1.0.0", []⟩ none none, .persistWorkflowId 0,
    .start 0 .requestLost "unavailable", .describe 0 false, .tick 700000, .beginPass,
    .describeRow 0 true, .startRow 0 .responseLost]

/-- The reconciler then marks the row while its workflow runs. -/
theorem reconciler_marks_live :
    ¬ ∀ (config : ReconcilerConfig) (state : LaunchState Rat),
      (launchSystem Rat config).Reachable (fun _ _ => True) state →
      ∀ action snapshotId row, state.marking action = some snapshotId →
        findById state.db snapshotId = some row →
        isOpen state.executions row.workflowId = false ∧
          isOpen state.executions (snapshotWorkflowId snapshotId) = false := by
  intro claimed
  have reachable : (launchSystem Rat {}).Reachable (fun _ _ => True)
      (System.performAll (LaunchState.perform {}) emptyLaunch lostResponse) := by
    apply reachable_from_empty
    refine ⟨⟨trivial, ?_, ?_, ?_⟩, ⟨trivial, trivial⟩, ⟨trivial, trivial⟩, ⟨trivial, trivial⟩,
      ⟨trivial, trivial⟩, ⟨trivial, trivial⟩, ⟨trivial, trivial⟩, ⟨trivial, trivial⟩, trivial⟩
    · exact fun _ member => nomatch member
    · exact fun _ member => nomatch member
    · exact fun _ member => nomatch member
  have marks : (System.performAll (LaunchState.perform {}) emptyLaunch lostResponse).marking
      (.settleRow 0) = some "s8" := by
    decide +kernel
  have present : (findById (System.performAll (LaunchState.perform {}) emptyLaunch
      lostResponse).db "s8").isSome = true := by
    decide +kernel
  have running : isOpen (System.performAll (LaunchState.perform {}) emptyLaunch
      lostResponse).executions (snapshotWorkflowId "s8") = true := by
    decide +kernel
  rcases Option.isSome_iff_exists.mp present with ⟨row, found⟩
  exact nomatch running.symm.trans (claimed {} _ reachable _ _ row marks found).2

end Sample

end Reputo.Snapshots

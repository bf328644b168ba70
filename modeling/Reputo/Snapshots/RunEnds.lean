import Reputo.Snapshots.RunSteps

/-!
# How runs end

A run that has marked its row as running ends with a terminal write, or without its row,
as long as it notices that mark: the wait for the first write is outside the failure
handler.  At most one terminal write of a run takes effect, and a run fails with the error
of its phases.
-/

namespace Reputo.Snapshots

open Reputo.Library

variable {ν : Type}

/-! ## Terminal writes -/

/-- The terminal status that a write asks for. -/
def terminalStatus (status : Option SnapshotStatus) : Option SnapshotStatus :=
  status.filter (· ∈ terminalSnapshotStatuses)

theorem terminalStatus_eq_some {status : Option SnapshotStatus} {terminal : SnapshotStatus} :
    terminalStatus status = some terminal ↔
      status = some terminal ∧ terminal ∈ terminalSnapshotStatuses := by
  simp [terminalStatus, Option.filter_eq_some_iff]

/-- The terminal statuses of the writes that a run has issued. -/
def OrchestratorRun.terminals (run : OrchestratorRun ν) : List SnapshotStatus :=
  run.inputs.filterMap fun input => terminalStatus input.status

/-- The run has written that its snapshot is running. -/
def OrchestratorRun.wroteRunning (run : OrchestratorRun ν) : Prop :=
  ∃ write ∈ run.issued, write.input.status = some .running ∧ write.applied = true

/-- The run has got past its first write. -/
def OrchestratorRun.begun (run : OrchestratorRun ν) : Prop :=
  run.wroteRunning ∨ run.terminals ≠ [] ∨ run.phaseError ≠ none

/-- At most one terminal write has taken effect. -/
def OrchestratorRun.SettlesOnce (run : OrchestratorRun ν) : Prop :=
  ∀ (first second : Nat) (one other : IssuedWrite ν),
    run.issued[first]? = some one → run.issued[second]? = some other →
      terminalStatus one.input.status ≠ none → terminalStatus other.input.status ≠ none →
        one.applied = true → other.applied = true → first = second

/-- What is asked of the end of a run, for the status of its row. -/
structure EndsInOrder (run : OrchestratorRun ν) (error : Option WorkflowFailure)
    (status : Option SnapshotStatus) : Prop where
  settled : run.wroteRunning → status = none ∨ run.terminals ≠ [] ∧
    (.cancelled ∈ run.terminals ↔ ∃ failure, run.phaseError = some failure ∧
      failure.isCancellation = true)
  original : run.begun → error = run.phaseError

/-- Every run settles its row once at most, and ends in order. -/
def RunsEndInOrder (state : OrchestratorState ν) : Prop :=
  ∀ run ∈ state.runs, run.SettlesOnce ∧ ∀ error, run.phase = .ended error →
    EndsInOrder run error (statusOf state.db run.snapshotId)

/-- A run does not fail in the wait for its first write once this write has taken
effect, and the write does not take effect after that. -/
def OrchestratorAction.NoticesRunning (state : OrchestratorState ν) : OrchestratorAction ν → Prop
  | .resume position (.error _) => ∀ run snapshot, state.runs[position]? = some run →
      run.phase = .marking snapshot → ¬ run.wroteRunning
  | .attempt position issued => ∀ run write error, state.runs[position]? = some run →
      run.issued[issued]? = some write → run.phase = .ended (some error) →
        run.phaseError = none → takesEffect state.db write.input = false
  | _ => True

section Decidability

def RunPhase.isMarking : RunPhase ν → Bool
  | .marking _ => true
  | _ => false

def RunPhase.hasFailed : RunPhase ν → Bool
  | .ended (some _) => true
  | _ => false

theorem RunPhase.isMarking_iff {phase : RunPhase ν} :
    phase.isMarking = true ↔ ∃ snapshot, phase = .marking snapshot := by
  cases phase <;> simp [RunPhase.isMarking]

theorem RunPhase.hasFailed_iff {phase : RunPhase ν} :
    phase.hasFailed = true ↔ ∃ error, phase = .ended (some error) := by
  cases phase with
  | ended error => cases error <;> simp [RunPhase.hasFailed]
  | _ => simp [RunPhase.hasFailed]

instance (run : OrchestratorRun ν) : Decidable run.wroteRunning :=
  inferInstanceAs (Decidable (∃ write ∈ run.issued,
    write.input.status = some .running ∧ write.applied = true))

instance OrchestratorAction.NoticesRunning.decidable (state : OrchestratorState ν) :
    (action : OrchestratorAction ν) → Decidable (action.NoticesRunning state)
  | .resume position (.error _) =>
      decidable_of_iff (∀ run ∈ state.runs[position]?, run.phase.isMarking = true →
          ¬ run.wroteRunning) (by
        simp only [RunPhase.isMarking_iff, OrchestratorAction.NoticesRunning, Option.mem_def,
          forall_exists_index]
        exact forall_congr' fun run => forall_comm)
  | .attempt position issued =>
      decidable_of_iff (∀ run ∈ state.runs[position]?, ∀ write ∈ run.issued[issued]?,
          run.phase.hasFailed = true → run.phaseError = none →
            takesEffect state.db write.input = false) (by
        simp only [RunPhase.hasFailed_iff, OrchestratorAction.NoticesRunning, Option.mem_def,
          forall_exists_index]
        exact ⟨fun each run write error found foundWrite => each run found write foundWrite error,
          fun each run found write foundWrite error => each run write error found foundWrite⟩)
  | .resume _ (.ok _) | .tick _ | .start .. | .read _ | .record _ | .update _ | .delete _ =>
      isTrue trivial

end Decidability

/-! ## The course of a run -/

/-- The phases have failed, and the terminal write that says so is issued. -/
def OrchestratorRun.FailedWith (run : OrchestratorRun ν) (error : WorkflowFailure) : Prop :=
  run.phaseError = some error ∧ ∃ before, (before = [] ∨ before = [.completed]) ∧
    run.terminals = before ++ [(failureUpdate error).1]

/-- What a run has issued in each phase. -/
def Course (run : OrchestratorRun ν) : Prop :=
  match run.phase with
  | .fetching _ => run.inputs = [] ∧ run.phaseError = none
  | .completing _ | .rereading _ | .recordingPending _ | .posting _ | .recordingResult _ =>
      run.terminals = [.completed] ∧ run.phaseError = none
  | .recordingFailure error => run.FailedWith error
  | .ended none => (run.terminals = [.completed] ∨ run.inputs = []) ∧ run.phaseError = none
  | .ended (some error) => run.FailedWith error ∨
      (isSnapshotNotFound error = true ∧ run.phaseError = some error ∧
        (run.terminals = [] ∨ run.terminals = [.completed])) ∨
      (run.phaseError = none ∧ ∀ input ∈ run.inputs, input.status = some .running)
  | .marking _ => (∀ input ∈ run.inputs, input.status = some .running) ∧ run.phaseError = none
  | _ => run.terminals = [] ∧ run.phaseError = none

/-- The row is gone wherever a run fails because of that, and a run that has failed in
its first write has not written. -/
def RowGone (run : OrchestratorRun ν) (status : Option SnapshotStatus) : Prop :=
  match run.phase with
  | .probing error | .recordingFailure error => isSnapshotNotFound error = true → status = none
  | .ended (some error) =>
      (isSnapshotNotFound error = true → run.phaseError = some error → status = none) ∧
      (run.phaseError = none → ¬ run.wroteRunning)
  | _ => True

structure RunSound (run : OrchestratorRun ν) (status : Option SnapshotStatus) : Prop where
  issued : IssuedSound run
  course : Course run
  gone : RowGone run status
  /-- A terminal write that has taken effect has settled the row. -/
  settles : ∀ write ∈ run.issued, write.applied = true → ∀ terminal,
    terminalStatus write.input.status = some terminal → status = none ∨ status = some terminal
  once : run.SettlesOnce

theorem failureUpdate_terminal (error : WorkflowFailure) :
    (failureUpdate error).1 ≠ .completed ∧
      terminalStatus (some (failureUpdate error).1) = some (failureUpdate error).1 ∧
      ((failureUpdate error).1 = .cancelled ↔ error.isCancellation = true) := by
  rw [failureUpdate]
  split
  · rename_i cancelled
    exact ⟨nofun, rfl, fun _ => cancelled, fun _ => rfl⟩
  · rename_i other
    exact ⟨nofun, rfl, nofun, fun cancelled => absurd cancelled other⟩

theorem terminals_of_running {run : OrchestratorRun ν}
    (running : ∀ input ∈ run.inputs, input.status = some .running) : run.terminals = [] := by
  apply List.filterMap_eq_nil_iff.mpr
  intro input member
  rw [running input member]
  rfl

/-- A run asks for no terminal status twice. -/
theorem Course.nodup {run : OrchestratorRun ν} (course : Course run) : run.terminals.Nodup := by
  have failed : ∀ error, run.FailedWith error → run.terminals.Nodup := by
    intro error ⟨_, before, cases, terminals⟩
    rw [terminals]
    rcases cases with none | completed
    · rw [none]
      exact List.nodup_singleton _
    · rw [completed]
      have different := (failureUpdate_terminal error).1
      simp only [List.singleton_append, List.nodup_cons, List.mem_singleton, List.not_mem_nil,
        not_false_eq_true, List.nodup_nil, and_true]
      exact different.symm
  have none : run.terminals = [] → run.terminals.Nodup := fun empty => empty ▸ List.nodup_nil
  have one : run.terminals = [.completed] → run.terminals.Nodup :=
    fun single => single ▸ List.nodup_singleton _
  have unissued : run.inputs = [] → run.terminals.Nodup := by
    intro empty
    rw [OrchestratorRun.terminals, empty]
    exact List.nodup_nil
  rw [Course] at course
  cases phase : run.phase with
  | fetching read => exact unissued (phase ▸ course).1
  | marking snapshot => exact none (terminals_of_running (phase ▸ course).1)
  | recordingFailure error =>
      rw [phase] at course
      exact failed error course
  | completing | rereading | recordingPending | posting | recordingResult =>
      rw [phase] at course
      exact one course.1
  | ended error =>
      rw [phase] at course
      cases error with
      | none => exact course.1.elim one unissued
      | some error =>
          rcases course with written | ⟨_, _, cases⟩ | ⟨_, running⟩
          · exact failed error written
          · exact cases.elim none one
          · exact none (terminals_of_running running)
  | _ =>
      rw [phase] at course
      exact none course.1

/-- Inside the phases nothing terminal is issued but the completing write. -/
theorem Course.inside {run : OrchestratorRun ν} (course : Course run)
    (inside : run.phase.inPhases = true) :
    run.phaseError = none ∧ (run.terminals = [] ∨ run.terminals = [.completed]) ∧
      ((∀ outputs, run.phase ≠ .completing outputs) → run.terminals = []) := by
  rw [Course] at course
  cases phase : run.phase with
  | completing outputs =>
      rw [phase] at course
      exact ⟨course.2, Or.inr course.1, fun other => absurd rfl (other outputs)⟩
  | fetching | marking | recordingFailure | rereading | recordingPending | posting
  | recordingResult | ended => exact nomatch phase ▸ inside
  | _ =>
      rw [phase] at course
      exact ⟨course.2, Or.inl course.1, fun _ => course.1⟩

/-- The terminal writes of a resumed run. -/
theorem terminals_resume {run next : OrchestratorRun ν} {now : Nat} {outcome : Outcome}
    (resumed : run.resume now outcome = some next) :
    next.terminals = run.terminals ++ (next.phase.awaited.bind terminalStatus).toList := by
  rcases inputs_resume resumed with ⟨inputs, silent⟩ | ⟨input, inputs, _, awaited⟩
  · rw [OrchestratorRun.terminals, inputs, silent, Option.bind_none, Option.toList_none,
      List.append_nil, OrchestratorRun.terminals]
  · rw [OrchestratorRun.terminals, inputs, awaited, List.filterMap_append, Option.bind_some,
      OrchestratorRun.terminals]
    cases asked : terminalStatus input.status <;> simp [asked]

theorem terminals_resume_of_silent {run next : OrchestratorRun ν} {now : Nat} {outcome : Outcome}
    (resumed : run.resume now outcome = some next)
    (silent : next.phase.awaited.bind terminalStatus = none) : next.terminals = run.terminals := by
  rw [terminals_resume resumed, silent, Option.toList_none, List.append_nil]

/-- Every step of a run follows its course. -/
theorem Course.resume {run next : OrchestratorRun ν} {now : Nat} {outcome : Outcome}
    (course : Course run) (resumed : run.resume now outcome = some next) : Course next := by
  have terminals := terminals_resume resumed
  have silently := terminals_resume_of_silent resumed
  have inputs := inputs_resume resumed
  rcases resume_eq_some resumed with ⟨stepped, _, _, phaseError⟩
  generalize before : run.phase = phase at stepped
  generalize after : next.phase = later at stepped
  cases stepped with
  | skipped =>
      rw [Course, before] at course
      rw [before, course.2] at phaseError
      rw [after, course.1] at inputs
      rw [Course, after]
      rcases inputs with ⟨none, _⟩ | ⟨_, _, _, waits⟩
      · exact ⟨Or.inr none, phaseError⟩
      · exact nomatch waits
  | fetched =>
      rw [Course, before] at course
      rw [before, course.2] at phaseError
      rw [after, course.1] at inputs
      rw [Course, after]
      refine ⟨?_, phaseError⟩
      rcases inputs with ⟨_, silent⟩ | ⟨input, inputs, _, waits⟩
      · exact nomatch silent
      · intro other member
        rw [inputs] at member
        rw [List.mem_singleton.mp member]
        exact (Option.some.inj waits).symm
  | unfetched =>
      rw [Course, before] at course
      rw [before, course.2] at phaseError
      rw [after, course.1] at inputs
      rw [Course, after]
      refine Or.inr (Or.inr ⟨phaseError, ?_⟩)
      rcases inputs with ⟨none, _⟩ | ⟨_, _, _, waits⟩
      · intro input member
        exact nomatch none ▸ member
      · exact nomatch waits
  | marked =>
      rw [Course, before] at course
      rw [before, course.2] at phaseError
      rw [Course, after]
      exact ⟨(silently (by rw [after]; rfl)).trans (terminals_of_running course.1), phaseError⟩
  | unmarked =>
      rw [Course, before] at course
      rw [before, course.2] at phaseError
      rw [after] at inputs
      rw [Course, after]
      refine Or.inr (Or.inr ⟨phaseError, ?_⟩)
      rcases inputs with ⟨same, _⟩ | ⟨_, _, _, waits⟩
      · exact same ▸ course.1
      · exact nomatch waits
  | within inside onward incomplete =>
      have none := (course.inside (before ▸ inside)).2.2 (before ▸ incomplete)
      rw [before, inside, if_pos rfl] at phaseError
      rw [none, List.nil_append] at terminals
      rw [after] at phaseError terminals
      rw [Course, after]
      cases later with
      | fetching | marking | recordingFailure | rereading | recordingPending | posting
      | recordingResult | ended => exact nomatch onward
      | _ => exact ⟨terminals, phaseError⟩
  | failed inside source =>
      rename_i error
      rw [before, inside, if_pos rfl] at phaseError
      have few := (course.inside (before ▸ inside)).2.1
      rw [failPhases] at after
      split at after
      · rename_i missing
        rw [after] at phaseError
        rw [Course, after]
        refine Or.inr (Or.inl ⟨missing, phaseError, ?_⟩)
        rw [silently (by rw [after]; rfl)]
        exact few
      · rw [after] at phaseError terminals
        rw [Course, after]
        have asked := (failureUpdate_terminal error).2.1
        rw [RunPhase.awaited, Option.bind_some, asked, Option.toList_some] at terminals
        exact ⟨phaseError, run.terminals, few, terminals⟩
  | completed =>
      rw [Course, before] at course
      rw [before] at phaseError
      split at after
      · rw [after] at phaseError
        rw [Course, after]
        exact ⟨Or.inl ((silently (by rw [after]; rfl)).trans course.1), phaseError⟩
      · rw [after] at phaseError
        rw [Course, after]
        exact ⟨(silently (by rw [after]; rfl)).trans course.1, phaseError⟩
  | recorded =>
      rw [Course, before] at course
      rw [before] at phaseError
      rw [Course, after]
      rcases course with ⟨failed, earlier, few, written⟩
      exact Or.inl ⟨phaseError.trans failed, earlier, few,
        (silently (by rw [after]; rfl)).trans written⟩
  | finished =>
      rw [Course, before] at course
      rw [before] at phaseError
      rw [Course, after]
      exact ⟨Or.inl ((silently (by rw [after]; rfl)).trans course.1), phaseError.trans course.2⟩
  | _ =>
      rw [Course, before] at course
      rw [before] at phaseError
      rw [Course, after]
      exact ⟨(silently (by rw [after]; rfl)).trans course.1, phaseError.trans course.2⟩

/-! ## What keeps a run sound -/

section Sound

variable {run : OrchestratorRun ν} {status : Option SnapshotStatus}

theorem RunSound.moves {after : Option SnapshotStatus} {careful : Bool}
    (sound : RunSound run status) (moves : Moves careful status after) : RunSound run after := by
  have gone : status = none → after = none := by
    intro missing
    rcases moves with same | gone | ⟨current, _, present, _⟩
    · exact same.trans missing
    · exact gone
    · exact nomatch missing.symm.trans present
  refine ⟨sound.issued, sound.course, ?_, ?_, sound.once⟩
  · have before := sound.gone
    rw [RowGone] at before ⊢
    cases phase : run.phase with
    | probing error | recordingFailure error =>
        rw [phase] at before
        exact fun missing => gone (before missing)
    | ended error =>
        rw [phase] at before
        cases error with
        | none => trivial
        | some error =>
            exact ⟨fun missing failed => gone (before.1 missing failed), before.2⟩
    | _ => trivial
  · intro write member applied terminal asked
    rcases sound.settles write member applied terminal asked with missing | settled
    · exact Or.inl (gone missing)
    · rcases moves with same | gone | ⟨current, next, present, changed, allowed, _⟩
      · exact Or.inr (same.trans settled)
      · exact Or.inl gone
      · cases present.symm.trans settled
        have final := (terminalStatus_eq_some.mp asked).2
        rw [(canTransition_of_terminal final).mp allowed] at changed
        exact Or.inr changed

/-- Writes of the row, by whomever, keep a run sound. -/
theorem RunSound.update {db : SnapshotDatabase ν} (clock : ClockReadings)
    (input : UpdateSnapshotInput ν) (sound : RunSound run (statusOf db run.snapshotId)) :
    RunSound run (statusOf (serviceApplyExternalUpdate db clock input).1 run.snapshotId) := by
  have moves : Moves false (statusOf db run.snapshotId)
      (statusOf (serviceApplyExternalUpdate db clock input).1 run.snapshotId) :=
    moves_of_update clock fun _ _ _ _ _ => rfl
  exact sound.moves moves

/-- A run that receives its row stays sound. -/
theorem RunSound.receive {row : SnapshotRow ν} {phase : RunPhase ν} (sound : RunSound run status)
    (received : run.phase.receive row = some phase) : RunSound { run with phase } status := by
  rcases sound with ⟨issued, course, gone, settles, once⟩
  rw [Course] at course
  cases before : run.phase with
  | fetching | rereading =>
      rw [before] at received course
      cases received
      exact ⟨⟨issued.owner, fun _ waits => nomatch waits⟩, course, trivial, settles, once⟩
  | _ =>
      rw [before] at received
      exact nomatch received

/-- Writes of one run that ask for the same terminal status are one write. -/
theorem terminal_index {first second : Nat} {one other : IssuedWrite ν}
    {terminal : SnapshotStatus} (nodup : run.terminals.Nodup)
    (atFirst : run.issued[first]? = some one) (atSecond : run.issued[second]? = some other)
    (asks : terminalStatus one.input.status = some terminal)
    (asksToo : terminalStatus other.input.status = some terminal) : first = second := by
  have apart := List.pairwise_iff_getElem.mp (List.pairwise_filterMap.mp nodup)
  have input : ∀ {position : Nat} {write : IssuedWrite ν}, run.issued[position]? = some write →
      ∃ inside : position < run.inputs.length, run.inputs[position] = write.input := by
    intro position write found
    apply List.getElem?_eq_some_iff.mp
    rw [OrchestratorRun.inputs, List.getElem?_map, found]
    rfl
  rcases input atFirst with ⟨firstInside, sameFirst⟩
  rcases input atSecond with ⟨secondInside, sameSecond⟩
  rcases Nat.lt_trichotomy first second with before | same | behind
  · exact absurd rfl (apart first second firstInside secondInside before terminal
      (by rw [sameFirst, asks]) terminal (by rw [sameSecond, asksToo]))
  · exact same
  · exact absurd rfl (apart second first secondInside firstInside behind terminal
      (by rw [sameSecond, asksToo]) terminal (by rw [sameFirst, asks]))

/-- No terminal write takes effect after another one of the same run. -/
theorem RunSound.alone {db : SnapshotDatabase ν} {first second : Nat} {one other : IssuedWrite ν}
    (sound : RunSound run (statusOf db run.snapshotId))
    (atFirst : run.issued[first]? = some one) (atSecond : run.issued[second]? = some other)
    (terminal : terminalStatus one.input.status ≠ none)
    (terminalToo : terminalStatus other.input.status ≠ none)
    (effect : takesEffect db one.input = true) (applied : other.applied = true) :
    first = second := by
  rcases Option.ne_none_iff_exists'.mp terminal with ⟨asked, asks⟩
  rcases Option.ne_none_iff_exists'.mp terminalToo with ⟨settled, asksToo⟩
  have owner : one.input.snapshotId = run.snapshotId :=
    sound.issued.owner _ (List.mem_map_of_mem (List.mem_of_getElem? atFirst))
  rcases canTransition_of_takesEffect effect (terminalStatus_eq_some.mp asks).1 with
    ⟨current, present, allowed⟩
  rw [owner] at present
  rcases sound.settles other (List.mem_of_getElem? atSecond) applied settled asksToo with
    missing | same
  · exact nomatch missing.symm.trans present
  · cases present.symm.trans same
    rw [(canTransition_of_terminal (terminalStatus_eq_some.mp asksToo).2).mp allowed] at asks
    exact terminal_index sound.course.nodup atFirst atSecond asks asksToo

theorem Course.congr {other : OrchestratorRun ν} (course : Course run)
    (phase : other.phase = run.phase) (inputs : other.inputs = run.inputs)
    (phaseError : other.phaseError = run.phaseError) : Course other := by
  have terminals : other.terminals = run.terminals := by
    rw [OrchestratorRun.terminals, inputs, OrchestratorRun.terminals]
  simpa only [Course, OrchestratorRun.FailedWith, phase, inputs, phaseError, terminals] using course

/-- An attempt of one of its writes keeps a run sound, unless it is the late one of a
run that has failed in its first write. -/
theorem RunSound.attempt {db : SnapshotDatabase ν} {position : Nat} {write : IssuedWrite ν}
    (clock : ClockReadings) (sound : RunSound run (statusOf db run.snapshotId))
    (found : run.issued[position]? = some write)
    (noticed : ∀ error, run.phase = .ended (some error) → run.phaseError = none →
      takesEffect db write.input = false) :
    RunSound { run with issued := run.issued.set position (write.attempt db) }
      (statusOf (serviceApplyExternalUpdate db clock write.input).1 run.snapshotId) := by
  have inputs := inputs_set found db
  have member := List.mem_of_getElem? found
  have owner : write.input.snapshotId = run.snapshotId :=
    sound.issued.owner _ (List.mem_map_of_mem member)
  have moved := sound.update clock write.input
  refine ⟨⟨?_, ?_⟩, sound.course.congr rfl inputs rfl, ?_, ?_, ?_⟩
  · rw [OrchestratorRun.inputs, inputs]
    exact sound.issued.owner
  · rw [OrchestratorRun.inputs, inputs]
    exact sound.issued.awaited
  · have gone := moved.gone
    rw [RowGone] at gone ⊢
    cases phase : run.phase with
    | ended error =>
        rw [phase] at gone
        cases error with
        | none => trivial
        | some error =>
            refine ⟨gone.1, ?_⟩
            intro unfailed wrote
            apply gone.2 unfailed
            rcases wrote with ⟨other, among, running, applied⟩
            rcases List.mem_or_eq_of_mem_set among with old | new
            · exact ⟨other, old, running, applied⟩
            · rw [new, IssuedWrite.attempt, noticed error phase unfailed, Bool.or_false] at applied
              rw [new] at running
              exact ⟨write, member, running, applied⟩
    | probing | recordingFailure =>
        rw [phase] at gone
        exact gone
    | _ => trivial
  · intro other among applied terminal asked
    rcases List.mem_or_eq_of_mem_set among with old | new
    · exact moved.settles other old applied terminal asked
    · rw [new] at applied asked
      rcases Bool.or_eq_true_iff.mp applied with earlier | effect
      · exact moved.settles write member earlier terminal asked
      · rw [statusOf_service, if_pos ⟨owner.symm, effect⟩]
        have requested : write.input.status = some terminal := (terminalStatus_eq_some.mp asked).1
        rw [requested]
        exact Or.inr rfl
  · intro first second one other atFirst atSecond terminal terminalToo applied appliedToo
    have split : ∀ {index : Nat} {stored : IssuedWrite ν},
        (run.issued.set position (write.attempt db))[index]? = some stored →
          run.issued[index]? = some stored ∨ position = index ∧ stored = write.attempt db := by
      intro index stored located
      rw [List.getElem?_set] at located
      split at located
      · split at located
        · exact Or.inr ⟨‹_›, (Option.some.inj located).symm⟩
        · cases located
      · exact Or.inl located
    rcases split atFirst with oldFirst | ⟨hereFirst, newFirst⟩
    · rcases split atSecond with oldSecond | ⟨hereSecond, newSecond⟩
      · exact sound.once first second one other oldFirst oldSecond terminal terminalToo applied
          appliedToo
      · subst hereSecond newSecond
        rcases Bool.or_eq_true_iff.mp appliedToo with earlier | effect
        · exact sound.once first position one write oldFirst found terminal terminalToo applied
            earlier
        · exact (sound.alone found oldFirst terminalToo terminal effect applied).symm
    · subst hereFirst newFirst
      rcases split atSecond with oldSecond | ⟨hereSecond, _⟩
      · rcases Bool.or_eq_true_iff.mp applied with earlier | effect
        · exact sound.once position second write other found oldSecond terminal terminalToo earlier
            appliedToo
        · exact sound.alone found oldSecond terminal terminalToo effect appliedToo
      · exact hereSecond

/-- What has been written is still written after a step of the run, and nothing more. -/
theorem mem_issued_resume {next : OrchestratorRun ν} {now : Nat} {outcome : Outcome}
    (resumed : run.resume now outcome = some next) {write : IssuedWrite ν}
    (member : write ∈ next.issued) (applied : write.applied = true) : write ∈ run.issued := by
  rw [(resume_eq_some resumed).2.2.1] at member
  rcases List.mem_append.mp member with old | new
  · exact old
  · rcases Option.map_eq_some_iff.mp (Option.mem_toList.mp new) with ⟨_, _, same⟩
    rw [← same] at applied
    exact nomatch applied

theorem wroteRunning_of_resume {next : OrchestratorRun ν} {now : Nat} {outcome : Outcome}
    (resumed : run.resume now outcome = some next) (wrote : next.wroteRunning) :
    run.wroteRunning := by
  rcases wrote with ⟨write, member, running, applied⟩
  exact ⟨write, mem_issued_resume resumed member applied, running, applied⟩

theorem not_wroteRunning_of_unissued (unissued : run.inputs = []) : ¬ run.wroteRunning := by
  intro ⟨write, member, _⟩
  rw [List.map_eq_nil_iff.mp unissued] at member
  exact nomatch member

/-- A row is gone where a run now fails because of that. -/
theorem RunSound.gone_resume {next : OrchestratorRun ν} {now : Nat} {outcome : Outcome}
    (sound : RunSound run status) (resumed : run.resume now outcome = some next)
    (missing : ∀ error, outcome = .error error → isSnapshotNotFound error = true → status = none)
    (noticed : ∀ error snapshot, outcome = .error error → run.phase = .marking snapshot →
      ¬ run.wroteRunning) : RowGone next status := by
  have wrote := wroteRunning_of_resume resumed
  have course := sound.course
  have gone := sound.gone
  rcases resume_eq_some resumed with ⟨stepped, _, _, phaseError⟩
  generalize before : run.phase = phase at stepped
  generalize after : next.phase = later at stepped
  cases stepped with
  | unfetched =>
      rw [Course, before] at course
      rw [before, course.2] at phaseError
      rw [RowGone, after]
      refine ⟨fun _ failed => (nomatch phaseError.symm.trans failed), ?_⟩
      intro _ wroteNext
      exact not_wroteRunning_of_unissued course.1 (wrote wroteNext)
  | unmarked =>
      rw [Course, before] at course
      rw [before, course.2] at phaseError
      rw [RowGone, after]
      exact ⟨fun _ failed => (nomatch phaseError.symm.trans failed),
        fun _ wroteNext => noticed _ _ rfl before (wrote wroteNext)⟩
  | within _ onward _ probes =>
      rw [RowGone, after]
      cases later with
      | probing error => exact missing error (probes error rfl)
      | recordingFailure | ended => exact nomatch onward
      | _ => trivial
  | failed inside source =>
      rename_i error
      rw [before, inside, if_pos rfl] at phaseError
      rw [failPhases] at after
      split at after
      · rename_i notFound
        rw [after] at phaseError
        rw [RowGone, after]
        refine ⟨?_, fun unfailed => nomatch unfailed.symm.trans phaseError⟩
        intro _ _
        rcases source notFound with raised | probing
        · exact missing error raised notFound
        · rw [RowGone, before, probing] at gone
          exact gone notFound
      · rename_i present
        rw [RowGone, after]
        exact fun notFound => absurd notFound present
  | recorded =>
      rw [Course, before] at course
      rw [RowGone, before] at gone
      rw [before] at phaseError
      rw [RowGone, after]
      exact ⟨fun notFound _ => gone notFound,
        fun unfailed => nomatch (phaseError.trans course.1).symm.trans unfailed⟩
  | completed =>
      split at after
      all_goals
        rw [RowGone, after]
        trivial
  | _ =>
      rw [RowGone, after]
      trivial

/-- A run that goes on stays sound. -/
theorem RunSound.resume {next : OrchestratorRun ν} {now : Nat} {outcome : Outcome}
    (sound : RunSound run status) (resumed : run.resume now outcome = some next)
    (missing : ∀ error, outcome = .error error → isSnapshotNotFound error = true → status = none)
    (noticed : ∀ error snapshot, outcome = .error error → run.phase = .marking snapshot →
      ¬ run.wroteRunning) : RunSound next status := by
  refine ⟨sound.issued.resume resumed, sound.course.resume resumed,
    sound.gone_resume resumed missing noticed, ?_, ?_⟩
  · intro write member applied
    exact sound.settles write (mem_issued_resume resumed member applied) applied
  · have old : ∀ {index : Nat} {write : IssuedWrite ν}, next.issued[index]? = some write →
        write.applied = true → run.issued[index]? = some write := by
      intro index write found applied
      rw [(resume_eq_some resumed).2.2.1, List.getElem?_append] at found
      split at found
      · exact found
      · rcases Option.map_eq_some_iff.mp (Option.mem_toList.mp (List.mem_of_getElem? found)) with
          ⟨_, _, same⟩
        rw [← same] at applied
        exact nomatch applied
    intro first second one other atFirst atSecond terminal terminalToo applied appliedToo
    exact sound.once first second one other (old atFirst applied) (old atSecond appliedToo)
      terminal terminalToo applied appliedToo

/-- A sound run ends in order. -/
theorem RunSound.endsInOrder {error : Option WorkflowFailure} (sound : RunSound run status)
    (ended : run.phase = .ended error) : EndsInOrder run error status := by
  have course := sound.course
  have gone := sound.gone
  rw [Course, ended] at course
  rw [RowGone, ended] at gone
  cases error with
  | none =>
      refine ⟨?_, fun _ => course.2.symm⟩
      intro wrote
      rcases course.1 with completed | unissued
      · rw [completed, course.2]
        exact Or.inr ⟨nofun, by simp⟩
      · exact absurd wrote (not_wroteRunning_of_unissued unissued)
  | some error =>
      rcases course with ⟨failed, before, few, terminals⟩ | ⟨notFound, failed, _⟩ |
        ⟨unfailed, running⟩
      · refine ⟨fun _ => Or.inr ?_, fun _ => failed.symm⟩
        have cancelled := (failureUpdate_terminal error).2.2
        have asked : .cancelled ∈ run.terminals ↔ (failureUpdate error).1 = .cancelled := by
          rw [terminals]
          rcases few with none | completed
          · rw [none]
            simp [eq_comm]
          · rw [completed]
            simp [eq_comm]
        rw [asked, cancelled, failed, terminals]
        refine ⟨by simp, fun cancelled => ⟨error, rfl, cancelled⟩, ?_⟩
        intro ⟨failure, same, cancelled⟩
        exact Option.some.inj same ▸ cancelled
      · exact ⟨fun _ => Or.inl (gone.1 notFound failed), fun _ => failed.symm⟩
      · refine ⟨fun wrote => absurd wrote (gone.2 unfailed), ?_⟩
        intro begun
        rcases begun with wrote | settled | failed
        · exact absurd wrote (gone.2 unfailed)
        · exact absurd (terminals_of_running running) settled
        · exact absurd unfailed failed

end Sound

/-! ## Runs of the system -/

def RunsSound (state : OrchestratorState ν) : Prop :=
  ∀ run ∈ state.runs, RunSound run (statusOf state.db run.snapshotId)

section System

variable {state after : OrchestratorState ν} {action : OrchestratorAction ν}

theorem RunsSound.endInOrder (sound : RunsSound state) : RunsEndInOrder state :=
  fun run member => ⟨(sound run member).once, fun _ ended => (sound run member).endsInOrder ended⟩

/-- Every step in which first writes are noticed keeps all runs sound. -/
theorem RunsSound.step (sound : RunsSound state) (noticed : action.NoticesRunning state)
    (admissible : action.Admissible state) (performed : state.perform action = some after) :
    RunsSound after := by
  cases action with
  | tick elapsed =>
      cases performed
      exact sound
  | start snapshotId workflowInfo =>
      cases performed
      intro run member
      rcases List.mem_append.mp member with old | new
      · exact sound run old
      · rw [List.mem_singleton.mp new]
        refine ⟨⟨fun _ member => (nomatch member), fun _ waits => (nomatch waits)⟩, ⟨rfl, rfl⟩,
          trivial, fun _ member => (nomatch member), ?_⟩
        intro first second one other atFirst
        exact nomatch atFirst
  | read position =>
      rcases Option.bind_eq_some_iff.mp performed with ⟨run, found, performed⟩
      rcases Option.bind_eq_some_iff.mp performed with ⟨row, stored, performed⟩
      rcases Option.bind_eq_some_iff.mp performed with ⟨phase, received, performed⟩
      cases performed
      intro other member
      rcases List.mem_or_eq_of_mem_set member with old | same
      · exact sound other old
      · rw [same]
        exact (sound run (List.mem_of_getElem? found)).receive received
  | attempt position issued =>
      rcases Option.bind_eq_some_iff.mp performed with ⟨run, found, performed⟩
      rcases Option.bind_eq_some_iff.mp performed with ⟨write, foundWrite, performed⟩
      cases performed
      intro other member
      rcases List.mem_or_eq_of_mem_set member with old | same
      · exact (sound other old).update (.instant state.clock) write.input
      · rw [same]
        apply (sound run (List.mem_of_getElem? found)).attempt (.instant state.clock) foundWrite
        exact fun error ended unfailed => noticed run write error found foundWrite ended unfailed
  | record position =>
      rcases Option.bind_eq_some_iff.mp performed with ⟨run, found, performed⟩
      rcases Option.bind_eq_some_iff.mp performed with ⟨record, pending, performed⟩
      cases performed
      intro other member
      rw [statusOf_upsertPublication]
      exact sound other member
  | resume position outcome =>
      rcases Option.bind_eq_some_iff.mp performed with ⟨run, found, performed⟩
      rcases Option.bind_eq_some_iff.mp performed with ⟨next, resumed, performed⟩
      cases performed
      intro other member
      rcases List.mem_or_eq_of_mem_set member with old | same
      · exact sound other old
      · rw [same, (resume_eq_some resumed).2.1]
        apply (sound run (List.mem_of_getElem? found)).resume resumed
        · intro error failed
          subst failed
          exact admissible run found
        · intro error snapshot failed marking
          subst failed
          exact noticed run snapshot found marking
  | update input =>
      cases performed
      intro run member
      exact (sound run member).update (.instant state.clock) input
  | delete snapshotId =>
      cases performed
      intro run member
      rw [statusOf_deleteById]
      have moves : Moves false (statusOf state.db run.snapshotId)
          (if run.snapshotId = snapshotId then none else statusOf state.db run.snapshotId) := by
        split
        · exact Or.inr (Or.inl rfl)
        · exact Or.inl rfl
      exact (sound run member).moves moves

/-- A step after which all runs end in order has noticed the first write. -/
theorem noticesRunning_of_endInOrder (sound : RunsSound state)
    (performed : state.perform action = some after) (ordered : RunsEndInOrder after) :
    action.NoticesRunning state := by
  cases action with
  | resume position outcome =>
      cases outcome with
      | ok => trivial
      | error error =>
          intro run snapshot found marking wrote
          have course := (sound run (List.mem_of_getElem? found)).course
          rw [Course, marking] at course
          rcases Option.bind_eq_some_iff.mp performed with ⟨other, same, performed⟩
          rcases Option.bind_eq_some_iff.mp performed with ⟨next, resumed, performed⟩
          cases found.symm.trans same
          cases performed
          rw [OrchestratorRun.resume, marking] at resumed
          cases resumed
          have inside := (List.getElem?_eq_some_iff.mp found).1
          have ended := (ordered _ (List.mem_set inside _)).2 (some error) rfl
          rcases wrote with ⟨write, member, running, applied⟩
          have failed := ended.original (Or.inl
            ⟨write, List.mem_append_left _ member, running, applied⟩)
          exact nomatch failed.trans course.2
  | attempt position issued =>
      intro run write error found foundWrite ended unfailed
      rcases Option.bind_eq_some_iff.mp performed with ⟨other, same, performed⟩
      rcases Option.bind_eq_some_iff.mp performed with ⟨note, sameWrite, performed⟩
      cases found.symm.trans same
      cases foundWrite.symm.trans sameWrite
      cases performed
      have course := (sound run (List.mem_of_getElem? found)).course
      rw [Course, ended] at course
      have running : write.input.status = some .running := by
        rcases course with failed | failed | running
        · exact nomatch failed.1.symm.trans unfailed
        · exact nomatch failed.2.1.symm.trans unfailed
        · exact running.2 _ (List.mem_map_of_mem (List.mem_of_getElem? foundWrite))
      cases effect : takesEffect state.db write.input with
      | false => rfl
      | true =>
          have inside := (List.getElem?_eq_some_iff.mp found).1
          have insideWrite := (List.getElem?_eq_some_iff.mp foundWrite).1
          have ending := (ordered _ (List.mem_set inside _)).2 (some error) ended
          have failed := ending.original (Or.inl ⟨write.attempt state.db,
            List.mem_set insideWrite _, running, by simp [IssuedWrite.attempt, effect]⟩)
          exact nomatch failed.trans unfailed
  | _ => trivial

end System

theorem runsSound_of_initial {state : OrchestratorState ν} (initial : state.Initial) :
    RunsSound state := by
  intro run member
  exact nomatch initial.1 ▸ member

/-- In every run of the system in which first writes are noticed, no snapshot is
stranded, none is settled twice by one run, and runs fail with the errors of their
phases; the first step that does not notice such a write is the first after which this
does not hold. -/
theorem runs_endInOrder_iff {state : OrchestratorState ν}
    (reachable : (orchestratorSystem ν).Reachable OrchestratorAction.NoticesRunning state) :
    RunsEndInOrder state ∧ ∀ action after, (orchestratorSystem ν).step state action after →
      (RunsEndInOrder after ↔ action.NoticesRunning state) := by
  have sound : RunsSound state :=
    reachable.invariant (fun _ initial => runsSound_of_initial initial)
      (fun state action after sound noticed (stepped : action.Admissible state ∧
        state.perform action = some after) => RunsSound.step sound noticed stepped.1 stepped.2)
  refine ⟨sound.endInOrder, ?_⟩
  intro action after stepped
  exact ⟨noticesRunning_of_endInOrder sound stepped.2,
    fun noticed => (sound.step noticed stepped.1 stepped.2).endInOrder⟩

section Sample

private def queuedRow (id : String) : OrchestratorState Rat :=
  ⟨0, create .empty 0 id
    { status := some .queued, algorithmPresetFrozen := ⟨"voting_engagement", "1.0.0", []⟩ }, [], []⟩

private def cancellation : WorkflowFailure where
  message := "Workflow cancelled"
  isCancellation := true

/-- The run is cancelled while it waits for its algorithm. -/
private def cancelledInPhases (id : String) : List (OrchestratorAction Rat) :=
  [.start id ⟨"snapshot-" ++ id, "run", "orchestrator"⟩, .read 0, .resume 0 (.ok .done),
    .attempt 0 0, .resume 0 (.ok .done),
    .resume 0 (.ok (.definition { key := "voting_engagement", version := "1.0.0" })),
    .resume 0 (.error cancellation), .attempt 0 1, .resume 0 (.ok .done)]

theorem runs_endInOrder_sample :
    statusOf (System.performAll OrchestratorState.perform (queuedRow "s5")
        (cancelledInPhases "s5")).db "s5" = some .cancelled ∧
      RunsEndInOrder (System.performAll OrchestratorState.perform (queuedRow "s5")
        (cancelledInPhases "s5")) := by
  have start : (orchestratorSystem Rat).Reachable OrchestratorAction.NoticesRunning
      (queuedRow "s5") :=
    .start ⟨rfl, rfl⟩
  have along : System.AllAlong OrchestratorState.perform (fun before action =>
      action.NoticesRunning before ∧ action.Admissible before) (queuedRow "s5")
      (cancelledInPhases "s5") := by
    decide +kernel
  constructor
  · decide +kernel
  · exact (runs_endInOrder_iff (System.reachable_performAll start along)).1

/-- The run is cancelled while it waits for its first write, which an attempt has made. -/
private def cancelledInFirstWrite (id : String) : List (OrchestratorAction Rat) :=
  [.start id ⟨"snapshot-" ++ id, "run", "orchestrator"⟩, .read 0, .resume 0 (.ok .done),
    .attempt 0 0, .resume 0 (.error cancellation)]

/-- It then leaves a running row behind, and issues nothing. -/
theorem cancelled_run_strands :
    ¬ ∀ state : OrchestratorState Rat,
      (orchestratorSystem Rat).Reachable (fun _ _ => True) state → RunsEndInOrder state := by
  intro claimed
  have start : (orchestratorSystem Rat).Reachable (fun _ _ => True) (queuedRow "s6") :=
    .start ⟨rfl, rfl⟩
  have along : System.AllAlong OrchestratorState.perform (fun before action =>
      True ∧ action.Admissible before) (queuedRow "s6") (cancelledInFirstWrite "s6") := by
    decide +kernel
  have ordered := claimed _ (System.reachable_performAll start along)
  have stranded : ∃ run ∈ (System.performAll OrchestratorState.perform (queuedRow "s6")
      (cancelledInFirstWrite "s6")).runs,
      run.phase.hasFailed = true ∧ run.wroteRunning ∧ run.terminals = [] ∧
        statusOf (System.performAll OrchestratorState.perform (queuedRow "s6")
          (cancelledInFirstWrite "s6")).db run.snapshotId = some .running := by
    decide +kernel
  rcases stranded with ⟨run, member, failed, wrote, unsettled, running⟩
  rcases RunPhase.hasFailed_iff.mp failed with ⟨error, ended⟩
  rcases ((ordered run member).2 _ ended).settled wrote with gone | ⟨settled, _⟩
  · exact nomatch gone.symm.trans running
  · exact settled unsettled

end Sample

end Reputo.Snapshots

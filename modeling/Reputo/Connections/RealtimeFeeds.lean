import Mathlib.Data.List.Nodup
import Reputo.Connections.Repository
import Reputo.Library.Distinct

/-!
# The set of live feeds

Passes bring the open feeds in line with the connections table, one pass at a time.  A
change of the table is followed by a notification, and a notification that arrives during
a pass is answered with that pass.
-/

namespace Reputo.Connections

open Reputo.Library

/-- What supervision reads of a connection. -/
structure FollowedConnection where
  platform : CommunityPlatform
  externalId : String
  status : CommunityConnectionStatus
  deriving DecidableEq, Repr

/-! ## Passes -/

def followedRows (rows : List FollowedConnection) : List FollowedConnection :=
  rows.filter fun row => row.status ≠ .disconnected

def wantsDiscord (followed : List FollowedConnection) : Bool :=
  followed.any fun row => row.platform = .discord

def wantedMattermost (followed : List FollowedConnection) : List String :=
  distinctBy id
    ((followed.filter fun row => row.platform = .mattermost).map FollowedConnection.externalId)

/-- Where a pass is; after it has read the table it keeps the rows that are followed. -/
inductive ReconcileStage where
  | reading
  | discord (followed : List FollowedConnection)
  | stopping (followed : List FollowedConnection) (rest : List String)
  | starting (followed : List FollowedConnection) (rest : List String)
  | settling (followed : List FollowedConnection)
  deriving DecidableEq, Repr

/-- The table, how many notifications are under way, the open feeds, and the running pass. -/
structure RealtimeState where
  table : List FollowedConnection
  undelivered : Nat
  discord : Bool
  mattermost : List String
  reconciling : Option ReconcileStage
  deriving DecidableEq, Repr

namespace RealtimeState

/-- A pass is begun unless one is running. -/
def reconcile (state : RealtimeState) : RealtimeState :=
  match state.reconciling with
  | some _ => state
  | none => { state with reconciling := some .reading }

/-- One step of a pass: the table is read, or one feed is stopped or started. -/
def runReconciliation (state : RealtimeState) : ReconcileStage → RealtimeState
  | .reading => { state with reconciling := some (.discord (followedRows state.table)) }
  | .discord followed =>
      { state with
        discord := wantsDiscord followed
        reconciling := some (.stopping followed state.mattermost) }
  | .stopping followed [] =>
      { state with reconciling := some (.starting followed (wantedMattermost followed)) }
  | .stopping followed (externalId :: rest) =>
      { state with
        mattermost := if externalId ∈ wantedMattermost followed then state.mattermost
          else state.mattermost.erase externalId
        reconciling := some (.stopping followed rest) }
  | .starting followed [] => { state with reconciling := some (.settling followed) }
  | .starting followed (externalId :: rest) =>
      { state with
        mattermost := if externalId ∈ state.mattermost then state.mattermost
          else state.mattermost ++ [externalId]
        reconciling := some (.starting followed rest) }
  | .settling _ => { state with reconciling := none }

end RealtimeState

/-- The table is changed, a notification is delivered, or the pass goes on. -/
inductive RealtimeAction where
  | change (table : List FollowedConnection)
  | notification
  | proceed
  deriving DecidableEq, Repr

def RealtimeState.perform (state : RealtimeState) : RealtimeAction → Option RealtimeState
  | .change table => some { state with table, undelivered := state.undelivered + 1 }
  | .notification =>
      if state.undelivered = 0 then none
      else some (reconcile { state with undelivered := state.undelivered - 1 })
  | .proceed => state.reconciling.map state.runReconciliation

/-- Nothing is open at boot, when the first pass is begun. -/
def RealtimeState.booted (table : List FollowedConnection) : RealtimeState :=
  ⟨table, 0, false, [], some .reading⟩

def realtimeSystem : System RealtimeState RealtimeAction :=
  .ofPerform (fun state => ∃ table, state = .booted table) (fun _ _ => True) RealtimeState.perform

/-! ## Feeds of a table -/

/-- Two sets of followed rows want the same feeds. -/
def SameFeeds (left right : List FollowedConnection) : Prop :=
  wantsDiscord left = wantsDiscord right ∧
    (∀ externalId ∈ wantedMattermost left, externalId ∈ wantedMattermost right) ∧
    ∀ externalId ∈ wantedMattermost right, externalId ∈ wantedMattermost left

instance (left right : List FollowedConnection) : Decidable (SameFeeds left right) :=
  inferInstanceAs (Decidable (_ ∧ _ ∧ _))

/-- The open feeds are the ones that the rows want, each open once. -/
structure RealtimeState.Follows (state : RealtimeState) (followed : List FollowedConnection) :
    Prop where
  discord : state.discord = wantsDiscord followed
  nodup : state.mattermost.Nodup
  mattermost : ∀ externalId, externalId ∈ state.mattermost ↔
    externalId ∈ wantedMattermost followed

/-- The rows that a pass has read. -/
def ReconcileStage.followed? : ReconcileStage → Option (List FollowedConnection)
  | reading => none
  | discord followed | stopping followed _ | starting followed _ | settling followed =>
      some followed

/-- The last notification under way is not answered with a pass that has read a table which
wants other feeds than the current one. -/
def RealtimeState.AnswersLast (state : RealtimeState) : RealtimeAction → Prop
  | .notification => state.undelivered = 1 → ∀ stage ∈ state.reconciling,
      ∀ followed ∈ stage.followed?, SameFeeds followed (followedRows state.table)
  | _ => True

instance (state : RealtimeState) : (action : RealtimeAction) → Decidable (state.AnswersLast action)
  | .notification => inferInstanceAs (Decidable (_ → _))
  | .change _ | .proceed => isTrue trivial

/-- Where no notification is under way and no pass runs, the feeds are those of the table. -/
def RealtimeState.Converged (state : RealtimeState) : Prop :=
  state.undelivered = 0 → state.reconciling = none → state.Follows (followedRows state.table)

/-! ## Passes reach the feeds that they read -/

/-- How far a pass has come. -/
def RealtimeState.Reached (state : RealtimeState) : ReconcileStage → Prop
  | .reading | .discord _ => True
  | .stopping followed rest => state.discord = wantsDiscord followed ∧
      ∀ externalId ∈ state.mattermost, externalId ∈ wantedMattermost followed ∨ externalId ∈ rest
  | .starting followed rest => state.discord = wantsDiscord followed ∧
      (∀ externalId ∈ state.mattermost, externalId ∈ wantedMattermost followed) ∧
      (∀ externalId ∈ rest, externalId ∈ wantedMattermost followed) ∧
      ∀ externalId ∈ wantedMattermost followed, externalId ∈ state.mattermost ∨ externalId ∈ rest
  | .settling followed => state.Follows followed

/-- What holds throughout a run. -/
structure RealtimeState.Sound (state : RealtimeState) : Prop where
  nodup : state.mattermost.Nodup
  reached : ∀ stage ∈ state.reconciling, state.Reached stage
  fresh : state.undelivered = 0 → ∀ stage ∈ state.reconciling, ∀ followed ∈ stage.followed?,
    SameFeeds followed (followedRows state.table)
  converged : state.Converged

theorem RealtimeState.Follows.congr {state : RealtimeState}
    {followed others : List FollowedConnection} (follows : state.Follows followed)
    (same : SameFeeds followed others) : state.Follows others := by
  constructor
  · exact follows.discord.trans same.1
  · exact follows.nodup
  · intro externalId
    rw [follows.mattermost]
    exact ⟨same.2.1 externalId, same.2.2 externalId⟩

namespace RealtimeState

variable {state : RealtimeState}

theorem sound_booted (table : List FollowedConnection) : (booted table).Sound := by
  constructor
  · exact List.nodup_nil
  · intro stage running
    cases running
    trivial
  · intro _ stage running followed read
    cases running
    cases read
  · intro _ idle
    cases idle

theorem sound_change (sound : state.Sound) (table : List FollowedConnection) :
    ({ state with table, undelivered := state.undelivered + 1 } : RealtimeState).Sound := by
  constructor
  · exact sound.nodup
  · intro stage running
    have reached := sound.reached stage running
    cases stage with
    | reading | discord followed => trivial
    | stopping followed rest | starting followed rest => exact reached
    | settling followed => exact ⟨reached.discord, reached.nodup, reached.mattermost⟩
  · exact fun none => absurd none (Nat.succ_ne_zero _)
  · exact fun none => absurd none (Nat.succ_ne_zero _)

theorem sound_notification (sound : state.Sound) (answers : state.AnswersLast .notification)
    (underWay : state.undelivered ≠ 0) :
    (reconcile { state with undelivered := state.undelivered - 1 }).Sound := by
  rw [reconcile]
  cases running : state.reconciling with
  | none =>
      constructor
      · exact sound.nodup
      · intro stage begun
        cases begun
        trivial
      · intro _ stage begun followed read
        cases begun
        cases read
      · intro _ idle
        cases idle
  | some stage =>
      have reached := sound.reached stage running
      constructor
      · exact sound.nodup
      · intro other same
        cases same
        cases stage with
        | reading | discord followed => trivial
        | stopping followed rest | starting followed rest => exact reached
        | settling followed => exact ⟨reached.discord, reached.nodup, reached.mattermost⟩
      · intro last other same followed read
        cases same
        have last : state.undelivered - 1 = 0 := last
        exact answers (by omega) stage running followed read
      · intro _ idle
        cases idle

/-- A step of a pass. -/
theorem sound_proceed (sound : state.Sound) {stage : ReconcileStage}
    (running : state.reconciling = some stage) : (state.runReconciliation stage).Sound := by
  have reached := sound.reached stage running
  have fresh : state.undelivered = 0 → ∀ followed ∈ stage.followed?,
      SameFeeds followed (followedRows state.table) := fun none => sound.fresh none stage running
  cases stage with
  | reading =>
      constructor
      · exact sound.nodup
      · intro other same
        cases same
        trivial
      · intro _ other same followed read
        cases same
        cases read
        exact ⟨rfl, fun _ wanted => wanted, fun _ wanted => wanted⟩
      · intro _ idle
        cases idle
  | discord followed =>
      constructor
      · exact sound.nodup
      · intro other same
        cases same
        exact ⟨rfl, fun _ opened => Or.inr opened⟩
      · intro none other same others read
        cases same
        cases read
        exact fresh none followed rfl
      · intro _ idle
        cases idle
  | stopping followed rest =>
      cases rest with
      | nil =>
          constructor
          · exact sound.nodup
          · intro other same
            cases same
            refine ⟨reached.1, ?_, fun _ wanted => wanted, fun _ wanted => Or.inr wanted⟩
            intro externalId opened
            exact (reached.2 externalId opened).resolve_right List.not_mem_nil
          · intro none other same others read
            cases same
            cases read
            exact fresh none followed rfl
          · intro _ idle
            cases idle
      | cons externalId rest =>
          constructor
          · rw [runReconciliation]
            split
            · exact sound.nodup
            · exact sound.nodup.erase externalId
          · intro other same
            cases same
            refine ⟨reached.1, ?_⟩
            intro opened member
            rw [runReconciliation] at member
            split at member
            · rename_i wanted
              rcases reached.2 opened member with kept | listed
              · exact Or.inl kept
              · rcases List.mem_cons.mp listed with same | later
                · rw [same]
                  exact Or.inl wanted
                · exact Or.inr later
            · rcases (sound.nodup.mem_erase_iff).mp member with ⟨different, member⟩
              rcases reached.2 opened member with kept | listed
              · exact Or.inl kept
              · exact Or.inr ((List.mem_cons.mp listed).resolve_left different)
          · intro none other same others read
            cases same
            cases read
            exact fresh none followed rfl
          · intro _ idle
            cases idle
  | starting followed rest =>
      cases rest with
      | nil =>
          constructor
          · exact sound.nodup
          · intro other same
            cases same
            refine ⟨reached.1, sound.nodup, fun externalId => ⟨reached.2.1 externalId, ?_⟩⟩
            intro wanted
            exact (reached.2.2.2 externalId wanted).resolve_right List.not_mem_nil
          · intro none other same others read
            cases same
            cases read
            exact fresh none followed rfl
          · intro _ idle
            cases idle
      | cons externalId rest =>
          have wanted := reached.2.2.1 externalId List.mem_cons_self
          constructor
          · rw [runReconciliation]
            split
            · exact sound.nodup
            · rename_i closed
              exact List.nodup_append.mpr ⟨sound.nodup, List.nodup_singleton externalId,
                fun opened member other last same => closed (by
                  rw [← List.mem_singleton.mp last, ← same]
                  exact member)⟩
          · intro other same
            cases same
            refine ⟨reached.1, ?_, fun other member =>
              reached.2.2.1 other (List.mem_cons_of_mem _ member), ?_⟩
            · intro opened member
              rw [runReconciliation] at member
              split at member
              · exact reached.2.1 opened member
              · rcases List.mem_append.mp member with earlier | last
                · exact reached.2.1 opened earlier
                · rw [List.mem_singleton.mp last]
                  exact wanted
            · intro other member
              rw [runReconciliation]
              rcases reached.2.2.2 other member with opened | listed
              · split
                · exact Or.inl opened
                · exact Or.inl (List.mem_append_left _ opened)
              · rcases List.mem_cons.mp listed with same | later
                · rw [same]
                  split
                  · rename_i opened
                    exact Or.inl opened
                  · exact Or.inl (List.mem_append_right _ (List.mem_singleton_self _))
                · exact Or.inr later
          · intro none other same others read
            cases same
            cases read
            exact fresh none followed rfl
          · intro _ idle
            cases idle
  | settling followed =>
      constructor
      · exact sound.nodup
      · intro other same
        cases same
      · intro _ other same
        cases same
      · intro none _
        have follows := reached.congr (fresh none followed rfl)
        exact ⟨follows.discord, follows.nodup, follows.mattermost⟩

end RealtimeState

/-- Where the last notification is answered in every step, the feeds converge. -/
theorem feeds_converge {state : RealtimeState}
    (reachable : realtimeSystem.Reachable RealtimeState.AnswersLast state) : state.Converged := by
  have sound : state.Sound := by
    apply reachable.invariant
    · rintro first ⟨table, rfl⟩
      exact RealtimeState.sound_booted table
    · intro before action after sound answers stepped
      cases action with
      | change table =>
          cases stepped.2
          exact RealtimeState.sound_change sound table
      | notification =>
          rcases Option.ite_none_left_eq_some.mp stepped.2 with ⟨underWay, delivered⟩
          cases delivered
          exact RealtimeState.sound_notification sound answers underWay
      | proceed =>
          rcases Option.map_eq_some_iff.mp stepped.2 with ⟨stage, running, proceeded⟩
          rw [← proceeded]
          exact RealtimeState.sound_proceed sound running
  exact sound.converged

private def connected : FollowedConnection := ⟨.discord, "1", .active⟩

/-- A pass over the empty table, and one after a community was connected. -/
private def answered : List RealtimeAction :=
  [.proceed, .proceed, .proceed, .proceed, .proceed, .change [connected], .notification, .proceed,
    .proceed, .proceed, .proceed, .proceed]

/-- The feeds converge where the notification is answered with a new pass. -/
theorem feeds_converge_sample :
    (System.performAll RealtimeState.perform (.booted []) answered).Converged := by
  have along : System.AllAlong RealtimeState.perform (fun before action =>
      before.AnswersLast action ∧ True) (.booted []) answered := by
    decide +kernel
  exact feeds_converge (System.reachable_performAll (.start ⟨[], rfl⟩) along)

/-- A notification that is answered with a pass which has read the table before. -/
private def absorbed : List RealtimeAction :=
  [.proceed, .change [connected], .notification, .proceed, .proceed, .proceed, .proceed]

/-- A community that is connected while the first pass runs is not followed. -/
theorem absorbed_notification_lost :
    ¬∀ state, realtimeSystem.Reachable (fun _ _ => True) state → state.Converged := by
  intro converges
  have along : System.AllAlong RealtimeState.perform (fun _ _ => True ∧ True) (.booted []) absorbed :=
    by decide +kernel
  have lost := converges _ (System.reachable_performAll (.start ⟨[], rfl⟩) along) (by decide +kernel)
    (by decide +kernel)
  exact absurd lost.discord (by decide +kernel)

end Reputo.Connections

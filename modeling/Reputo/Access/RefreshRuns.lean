import Reputo.Access.RefreshTokens

/-!
# Refreshes in flight

A replica registers at most one refresh of a session at a time, and sessions stay healthy
as long as whoever is refused sees the refresh that was accepted.
-/

namespace Reputo.Access

open Reputo.Library

/-! ## Requests in flight -/

/-- The refresh that a replica has registered and that a request at a stage is in. -/
def RefreshStage.flight : RefreshStage → Option (Nat × String)
  | .ask replica session | .reread replica session | .revoke replica session
  | .accept replica session _ | .find replica session _ _ | .save replica session _ _ _ =>
      some (replica, session.sessionId)
  | .settle replica sessionId _ _ => some (replica, sessionId)
  | _ => none

/-- Each refresh in flight is registered, and only one request is in it. -/
structure FlightsSound (inFlight : List (Nat × String)) (stages : List RefreshStage) : Prop where
  registered : ∀ position flight, labelAt RefreshStage.flight stages position = some flight →
    flight ∈ inFlight
  unique : ∀ first second flight, labelAt RefreshStage.flight stages first = some flight →
    labelAt RefreshStage.flight stages second = some flight → first = second

section Flights

variable {config : AuthConfig} {rotation : TokenRotation} {store after : RefreshStore}
  {inFlight : List (Nat × String)} {stages : List RefreshStage} {stage later : RefreshStage}
  {position : Nat}

theorem FlightsSound.stay {others : List RefreshStage} (sound : FlightsSound inFlight stages)
    (same : ∀ other, labelAt RefreshStage.flight others other =
      labelAt RefreshStage.flight stages other) :
    FlightsSound inFlight others := by
  constructor
  · intro spot flight held
    rw [same] at held
    exact sound.registered spot flight held
  · intro first second flight atFirst atSecond
    rw [same] at atFirst atSecond
    exact sound.unique first second flight atFirst atSecond

/-- A replica registers a refresh that is not in flight. -/
theorem FlightsSound.register {flight : Nat × String} (sound : FlightsSound inFlight stages)
    (located : stages[position]? = some stage) (free : flight ∉ inFlight)
    (taken : later.flight = some flight) :
    FlightsSound (flight :: inFlight) (stages.set position later) := by
  constructor
  · intro spot other held
    rw [labelAt_set located, taken] at held
    split at held
    · cases held
      exact List.mem_cons_self
    · exact List.mem_cons_of_mem _ (sound.registered spot other held)
  · intro first second other atFirst atSecond
    rw [labelAt_set located, taken] at atFirst atSecond
    split at atFirst
    · rename_i here
      split at atSecond
      · rename_i there
        rw [here, there]
      · cases atFirst
        exact absurd (sound.registered second _ atSecond) free
    · split at atSecond
      · cases atSecond
        exact absurd (sound.registered first _ atFirst) free
      · exact sound.unique first second other atFirst atSecond

/-- A refresh is over. -/
theorem FlightsSound.leave {flight : Nat × String} (sound : FlightsSound inFlight stages)
    (located : stages[position]? = some stage) (held : stage.flight = some flight)
    (free : later.flight = none) :
    FlightsSound (inFlight.filter (· ≠ flight)) (stages.set position later) := by
  have here : labelAt RefreshStage.flight stages position = some flight := by
    rw [labelAt_self located, held]
  constructor
  · intro spot other atSpot
    rw [labelAt_set located, free] at atSpot
    split at atSpot
    · cases atSpot
    · rename_i elsewhere
      refine List.mem_filter.mpr ⟨sound.registered spot other atSpot, ?_⟩
      rw [decide_eq_true_iff]
      intro same
      rw [same] at atSpot
      exact elsewhere (sound.unique spot position flight atSpot here)
  · intro first second other atFirst atSecond
    rw [labelAt_set located, free] at atFirst atSecond
    split at atFirst
    · cases atFirst
    · split at atSecond
      · cases atSecond
      · exact sound.unique first second other atFirst atSecond

/-- A move registers a refresh, ends one, or leaves all in flight as they are. -/
theorem RefreshMove.flights (moves : RefreshMove config rotation store stage later after)
    (sound : FlightsSound store.inFlight stages) (located : stages[position]? = some stage) :
    FlightsSound after.inFlight (stages.set position later) := by
  cases moves with
  | registered free => exact sound.register located free rfl
  | undecryptable | left => exact sound.leave located rfl rfl
  | settling _ _ _ sameFlights _ =>
      rw [sameFlights]
      exact sound.stay (labelAt_set_same located rfl)
  | _ => exact sound.stay (labelAt_set_same located rfl)

/-- A request that is not in a refresh leaves it in flight. -/
theorem RefreshMove.keepsFlight {flight : Nat × String}
    (moves : RefreshMove config rotation store stage later after)
    (other : stage.flight ≠ some flight) (held : flight ∈ store.inFlight) :
    later.flight ≠ some flight ∧ flight ∈ after.inFlight := by
  cases moves with
  | registered free =>
      refine ⟨?_, List.mem_cons_of_mem _ held⟩
      intro same
      cases same
      exact free held
  | undecryptable | left =>
      refine ⟨nofun, List.mem_filter.mpr ⟨held, ?_⟩⟩
      rw [decide_eq_true_iff]
      exact fun same => other (congrArg some same.symm)
  | settling _ _ _ sameFlights _ =>
      rw [sameFlights]
      exact ⟨other, held⟩
  | _ => exact ⟨other, held⟩

/-- A request that runs alone leaves all refreshes in flight but its own. -/
theorem mem_inFlight_run {flight : Nat × String} {rest : AuthProgram (Option AuthSessionEntity)}
    (denoted : stage.program config = rest) (other : stage.flight ≠ some flight)
    (held : flight ∈ store.inFlight) :
    flight ∈ (rest.run (handleRefresh rotation) store).2.inFlight := by
  induction rest generalizing stage store with
  | done result => exact held
  | call operation next ih =>
      rcases stage.move rotation store denoted with ⟨later, reached, moves⟩
      rcases moves.keepsFlight other held with ⟨stillOther, stillHeld⟩
      exact ih _ reached stillOther stillHeld

theorem not_mem_inFlight_run (rotation : TokenRotation) (store : RefreshStore) (replica : Nat)
    (sessionId : String) (rest : AuthProgram (Option AuthSessionEntity)) :
    (replica, sessionId) ∉
      ((inRefresh replica sessionId rest).run (handleRefresh rotation) store).2.inFlight := by
  rw [inRefresh, Program.run_bind]
  intro held
  exact absurd rfl (of_decide_eq_true (List.mem_filter.mp held).2)

/-- A request that is in a refresh is at a stage that says so. -/
theorem flight_of_inRefresh {replica : Nat} {sessionId : String}
    {rest : AuthProgram (Option AuthSessionEntity)} (rotation : TokenRotation)
    (store : RefreshStore) (denoted : stage.program config = inRefresh replica sessionId rest) :
    stage.flight = some (replica, sessionId) := by
  by_contra other
  exact not_mem_inFlight_run rotation { store with inFlight := [(replica, sessionId)] } replica
    sessionId rest (mem_inFlight_run denoted other List.mem_cons_self)

end Flights

/-! ## Runs -/

section Runs

variable {config : AuthConfig} {rotation : TokenRotation} {store : RefreshStore}
  {stages : List RefreshStage}

/-- After a refresh was stored, the sessions stay as they are. -/
theorem sessions_run {ρ : Type} {program : AuthProgram ρ} (rotation : TokenRotation)
    (store : RefreshStore) (uses : program.Uses AuthOperation.KeepsSessions) :
    (program.run (handleRefresh rotation) store).2.db.auth_sessions = store.db.auth_sessions := by
  refine Program.run_invariant
    (fun other : RefreshStore => other.db.auth_sessions = store.db.auth_sessions) ?_ uses rfl
  intro α operation other harmless same
  cases operation with
  | upsertUserBySub => exact same
  | fetchUserInfo => exact same
  | _ => exact harmless.elim

/-- A request that is about to save its refresh stores the newest token. -/
theorem run_save {replica now : Nat} {session entity : AuthSessionEntity}
    {tokenResponse : OAuthTokenResponse}
    (facts : (RefreshStage.save replica session tokenResponse now entity).Sound rotation store) :
    ∃ row, (((RefreshStage.save replica session tokenResponse now entity).program config).run
        (handleRefresh rotation) store).2.db.auth_sessions.find? session.sessionId = some row ∧
      HoldsNewest config rotation store row := by
  rcases facts with ⟨issued, sameSession, _⟩
  refine ⟨(refreshUpdate config now session tokenResponse).assign entity, ?_, ?_⟩
  · rw [RefreshStage.program, inRefresh, Program.run_bind]
    have settled := sessions_run rotation (handleRefresh rotation (.query (.saveSession
        ((refreshUpdate config now session tokenResponse).assign entity))) store).2
      (uses_afterFind session tokenResponse
        ((refreshUpdate config now session tokenResponse).assign entity))
    refine (congrArg (Table.find? · session.sessionId) settled).trans ?_
    exact (findSession_saveSession _).trans (if_pos sameSession.symm)
  · rw [HoldsNewest, decrypt_refreshUpdate _ issued (rotation.issue_ne_empty _ _)]
    exact congrArg (fun key => some (rotation.issue key (store.generation key))) sameSession.symm

/-- A request that is about to store the newest token of a session does so alone. -/
theorem run_storing {stage : RefreshStage} {sessionId : String}
    (storing : stage.storing = some sessionId) (facts : stage.Sound rotation store)
    {row : AuthSessionEntity} (found : findActiveSession store.db sessionId = some row) :
    ∃ later, ((stage.program config).run (handleRefresh rotation)
        store).2.db.auth_sessions.find? sessionId = some later ∧
      HoldsNewest config rotation store later := by
  rcases Option.filter_eq_some_iff.mp found with ⟨stored, active⟩
  rw [AuthSessionEntity.isActive, Bool.and_eq_true] at active
  have loaded : row.sessionId = sessionId ∧ row.revokedAt = none :=
    ⟨(Table.find?_eq_some_iff.mp stored).2, Option.isNone_iff_eq_none.mp active.1⟩
  have fromFind : ∀ {replica now : Nat} {session : AuthSessionEntity}
      {tokenResponse : OAuthTokenResponse} (other : RefreshStore),
      findActiveSession other.db session.sessionId = some row →
      ((RefreshStage.find replica session tokenResponse now).program config).run
          (handleRefresh rotation) other =
        ((RefreshStage.save replica session tokenResponse now row).program config).run
          (handleRefresh rotation) other.noteExpired := by
    intro replica now session tokenResponse other found
    simp only [RefreshStage.program, inRefresh, AuthSessionRepository.updateAfterRefresh,
      Program.perform, bind, Program.bind, query, Program.run, handleRefresh, handleRotating,
      AccessQuery.handle, found]
    rfl
  cases stage with
  | save replica session tokenResponse now entity =>
      cases storing
      exact run_save facts
  | find replica session tokenResponse now =>
      cases storing
      rw [fromFind store found]
      have known : (RefreshStage.save replica session tokenResponse now row).Sound rotation
        store.noteExpired := ⟨facts, loaded⟩
      exact run_save known
  | accept replica session tokenResponse =>
      cases storing
      have timed : ((RefreshStage.accept replica session tokenResponse).program config).run
            (handleRefresh rotation) store =
          ((RefreshStage.find replica session tokenResponse store.db.clock).program config).run
            (handleRefresh rotation) store.noteExpired := rfl
      rw [timed, fromFind store.noteExpired found]
      have known : (RefreshStage.save replica session tokenResponse store.db.clock row).Sound
        rotation store.noteExpired.noteExpired := ⟨facts, loaded⟩
      exact run_save known
  | _ => cases storing

/-- What holds of the store and the stages of the requests throughout. -/
structure RefreshSound (config : AuthConfig) (rotation : TokenRotation) (store : RefreshStore)
    (stages : List RefreshStage) : Prop where
  steady : RefreshSteady config rotation store stages
  noted : store.Noted
  flights : FlightsSound store.inFlight stages

theorem RefreshStore.Initial.steady (initially : store.Initial config rotation) :
    RefreshSteady config rotation store [] := by
  have nothing : ∀ sessionId, ¬ Pending [] sessionId := by
    intro sessionId ⟨position, storing⟩
    rw [labelAt_nil] at storing
    cases storing
  constructor
  · intro sessionId row found
    rcases Table.find?_eq_some_iff.mp found with ⟨member, same⟩
    have newest := initially.newest row member
    refine ⟨⟨?_, ?_, ?_⟩, fun _ => initially.expires row member, fun goingOn => ⟨?_, Or.inl newest⟩⟩
    · rw [same, found]
      rfl
    · intro number decrypted
      have number_eq := rotation.issue_injective _ _ _
        (Option.some.inj (newest.symm.trans decrypted))
      exact le_of_eq number_eq.symm
    · exact fun pending => absurd pending (nothing _)
    · by_contra revoked
      apply goingOn
      apply initially.ended row member
      rw [AuthSessionEntity.isActive, Option.isNone_eq_false_iff.mpr, Bool.false_and]
      exact Option.ne_none_iff_isSome.mp revoked
  · intro stage member
    cases member
  · intro stage member
    cases member
  · intro first second sessionId atFirst
    rw [labelAt_nil] at atFirst
    cases atFirst
  · intro sessionId accepted
    rw [initially.generation] at accepted
    exact absurd accepted (Nat.lt_irrefl 0)

theorem RefreshStore.Initial.noted (initially : store.Initial config rotation) :
    store.Noted := by
  intro sessionId row found going expired
  rcases Table.find?_eq_some_iff.mp found with ⟨member, same⟩
  rw [← same]
  apply initially.ended row member
  rw [AuthSessionEntity.isActive, decide_eq_false (Nat.not_lt_of_le expired), Bool.and_false]

theorem RefreshStore.Initial.sound (initially : store.Initial config rotation) :
    RefreshSound config rotation store [] := by
  refine ⟨initially.steady, initially.noted, ?_, ?_⟩
  · intro position flight held
    rw [labelAt_nil] at held
    cases held
  · intro first second flight held
    rw [labelAt_nil] at held
    cases held

/-- A request carries out an operation. -/
theorem RefreshSound.proceed {α : Type} {operation : AuthOperation α}
    {next : α → AuthProgram (Option AuthSessionEntity)} {stage : RefreshStage} {position : Nat}
    (sound : RefreshSound config rotation store stages) (located : stages[position]? = some stage)
    (calls : stage.program config = .call operation next) (sees : operation.SeesRefresh store) :
    ∃ later, RefreshStage.program config later =
        next (handleRefresh rotation operation store).1 ∧
      RefreshSound config rotation (handleRefresh rotation operation store).2
        (stages.set position later) := by
  rcases stage.move rotation store calls with ⟨later, reached, moves⟩
  refine ⟨later, reached, ?_, noted_noteExpired, moves.flights sound.flights located⟩
  exact (moves.steady (RefreshStage.sees calls sees) sound.steady sound.noted located).onlyEnds
    onlyEnds_noteExpired

theorem RefreshSound.happen (sound : RefreshSound config rotation store stages)
    (event : RefreshEvent) : RefreshSound config rotation (event.happen store) stages := by
  cases event with
  | tick elapsed =>
      refine ⟨?_, noted_noteExpired, sound.flights⟩
      refine RefreshSteady.onlyEnds onlyEnds_noteExpired (RefreshSteady.onlyEnds ?_ sound.steady)
      exact onlyEnds_of_same rfl rfl rfl
  | answers replies =>
      have ends : store.OnlyEnds ((RefreshEvent.answers replies).happen store) :=
        onlyEnds_of_same rfl rfl rfl
      exact ⟨sound.steady.onlyEnds ends, sound.noted.onlyEnds ends rfl, sound.flights⟩
  | logout sessionId =>
      have ends : store.OnlyEnds ((RefreshEvent.logout sessionId).happen store) :=
        onlyEnds_revokeSession rfl rfl (fun _ => List.mem_append_left _)
          fun _ _ => List.mem_append_right _ (List.mem_singleton.mpr rfl)
      exact ⟨sound.steady.onlyEnds ends, sound.noted.onlyEnds ends rfl, sound.flights⟩
  | removeUser userId =>
      have ends : store.OnlyEnds ((RefreshEvent.removeUser userId).happen store) :=
        onlyEnds_revokeUser rfl rfl rfl
      exact ⟨sound.steady.onlyEnds ends, sound.noted.onlyEnds ends rfl, sound.flights⟩

theorem RefreshSound.healthy {state : RefreshState}
    (sound : RefreshSound config rotation state.store stages)
    (running : state.running = stages.map (RefreshStage.program config)) :
    SessionsHealthy config rotation state := by
  intro sessionId accepted goingOn
  rcases Option.isSome_iff_exists.mp (sound.steady.rotated sessionId accepted) with ⟨row, stored⟩
  have same : row.sessionId = sessionId := (Table.find?_eq_some_iff.mp stored).2
  rcases (sound.steady.rows sessionId row stored).alive (by rw [same]; exact goingOn) with
    ⟨unrevoked, newest⟩
  have found : findActiveSession state.store.db sessionId = some row := by
    rw [findActiveSession, stored, Option.filter_some, if_pos]
    rw [AuthSessionEntity.isActive, unrevoked, Option.isNone_none, Bool.true_and,
      decide_eq_true_iff]
    exact Nat.lt_of_not_le fun expired =>
      goingOn (sound.noted sessionId row stored unrevoked expired)
  refine ⟨row, found, ?_⟩
  rcases newest with holds | ⟨position, storing⟩
  · exact Or.inl holds
  · rw [same] at storing
    rcases Option.bind_eq_some_iff.mp storing with ⟨stage, located, stores⟩
    have member := List.mem_of_getElem? located
    refine Or.inr ⟨stage.program config, ?_,
      run_storing stores (sound.steady.facts stage member) found⟩
    rw [running]
    exact List.mem_map_of_mem member

theorem RefreshSound.singleFlight {state : RefreshState}
    (sound : RefreshSound config rotation state.store stages)
    (running : state.running = stages.map (RefreshStage.program config)) :
    SingleFlight state := by
  have inFlight : ∀ {position replica sessionId rest},
      state.running[position]? = some (inRefresh replica sessionId rest) →
      labelAt RefreshStage.flight stages position = some (replica, sessionId) := by
    intro position replica sessionId rest located
    rw [running, List.getElem?_map, Option.map_eq_some_iff] at located
    rcases located with ⟨stage, there, denoted⟩
    rw [labelAt_self there]
    exact flight_of_inRefresh rotation state.store denoted
  intro replica sessionId first second one other atFirst atSecond
  exact sound.flights.unique first second _ (inFlight atFirst) (inFlight atSecond)

end Runs

section Sample

/-- Tokens stored behind a mark. -/
private def markConfig : AuthConfig where
  sessionTtlSeconds := 1000
  refreshLeewaySeconds := 60
  scopes _ := []
  cipher :=
    { encryptValue token := String.ofList ('#' :: token.toList)
      decryptValue text := some (String.ofList text.toList.tail)
      decrypt_encrypt token := by
        rw [String.toList_ofList, List.tail_cons, String.ofList_toList] }
  rules := ⟨id, fun email => email.toList.contains '@'⟩

/-- Longer and longer tokens. -/
private def longerTokens : TokenRotation where
  issue _ number := String.ofList (List.replicate (number + 1) 'r')
  issue_injective _ first second same := by
    have lengths := congrArg List.length (String.ofList_injective same)
    rw [List.length_replicate, List.length_replicate] at lengths
    exact Nat.succ.inj lengths
  issue_ne_empty _ number same := by
    have lengths := congrArg (List.length ∘ String.toList) same
    simp at lengths

private def dueSession (sessionId : String) : AuthSessionEntity :=
  ⟨sessionId, .deepId, "u", "#a", "#r", 0, 1000000, [], "", "", none, none, 900000⟩

/-- A session whose access token has expired. -/
private def dueStore (sessionId : String) : RefreshStore where
  db := ⟨5, .empty, .empty, Table.empty.insertOrIgnore (dueSession sessionId)⟩
  replies := ⟨true, "t", 30, none, none, .error .unavailable, "n", none⟩
  generation _ := 0
  inFlight := []
  ended := []

private theorem reachable_dueStore (sessionId : String)
    (permitted : RefreshState → PoolAction (Nat × String) RefreshEvent → Prop) :
    (refreshSystem markConfig longerTokens).Reachable permitted ⟨dueStore sessionId, []⟩ := by
  have only : ∀ row ∈ (dueStore sessionId).db.auth_sessions, row = dueSession sessionId := by
    intro row member
    rcases Table.mem_insertOrIgnore.mp member with old | ⟨same, _⟩
    · cases old
    · exact same
  refine .start ⟨⟨rfl, rfl, ?_, ?_, ?_⟩, rfl⟩
  · intro row member
    rw [only row member]
    exact (by decide +kernel : markConfig.cipher.decryptValue "#r" = some (longerTokens.issue "" 0))
  · intro row member
    rw [only row member]
    exact (by decide : 900000 ≤ 1000000)
  · intro row member inactive
    rw [only row member] at inactive
    exact Bool.noConfusion inactive

private instance (state : RefreshState) (action : PoolAction (Nat × String) RefreshEvent) :
    Decidable (SeesRefresh state action) :=
  have (store : RefreshStore) {α : Type} (operation : AuthOperation α) :
      Decidable (operation.SeesRefresh store) :=
    match operation with
    | .reread ours => inferInstanceAs (Decidable (ours.sessionId ∈ store.ended ∨
        (findActiveSession store.db ours.sessionId).any
          (fun latest => ours.lastRefreshedAt.getD 0 < latest.lastRefreshedAt.getD 0) = true))
    | .revokeExpired ours => inferInstanceAs (Decidable (ours.sessionId ∈ store.ended ∨
        (store.db.auth_sessions.find? ours.sessionId).all
          (fun row => row.refreshTokenExpiresAt ≤ store.db.clock) = true))
    | .query _ | .upsertUserBySub .. | .createSession _ | .createRandomToken
    | .exchangeCodeForTokens .. | .refreshTokens .. | .fetchUserInfo .. | .joinRefresh ..
    | .leaveRefresh .. => isTrue trivial
  inferInstanceAs (Decidable (state.Meets (fun operation store => operation.SeesRefresh store)
    action))

/-- Two replicas read a session, and each asks for new tokens. -/
private def twoReplicas (sessionId : String) : List (PoolAction (Nat × String) RefreshEvent) :=
  [.start (0, sessionId), .start (1, sessionId), .proceed 0, .proceed 1,
    .environment (.tick 5), .proceed 0, .proceed 0, .proceed 0]

/-- The first one stores its tokens before the other one is refused. -/
private def storedFirst (sessionId : String) : List (PoolAction (Nat × String) RefreshEvent) :=
  twoReplicas sessionId ++ [.proceed 0, .proceed 0, .proceed 0, .proceed 1, .proceed 1,
    .proceed 1, .proceed 1, .proceed 1]

/-- The other one is refused, and reads the session before the first one has stored its
tokens. -/
private def refusedFirst (sessionId : String) : List (PoolAction (Nat × String) RefreshEvent) :=
  twoReplicas sessionId ++ [.proceed 1, .proceed 1, .proceed 1, .proceed 1, .proceed 1]

end Sample

end Reputo.Access

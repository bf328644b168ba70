import Reputo.Access.Refresh

/-!
# Stages of a refresh

A request that refreshes goes through a few stages, each with what it has read and what
is left of it; every operation moves it to a next stage.
-/

namespace Reputo.Access

open Reputo.Library

/-! ## Stages -/

/-- Operations after a refresh was stored: they concern no session. -/
def AuthOperation.KeepsSessions : {α : Type} → AuthOperation α → Prop
  | _, .upsertUserBySub _ _ _ | _, .fetchUserInfo _ _ => True
  | _, _ => False

/-- Where a request is, with the copy of the row that it refreshes. -/
inductive RefreshStage where
  | load (replica : Nat) (sessionId : String)
  | check (replica : Nat) (session : AuthSessionEntity)
  | expire (session : AuthSessionEntity)
  | join (replica : Nat) (session : AuthSessionEntity)
  | ask (replica : Nat) (session : AuthSessionEntity)
  | reread (replica : Nat) (session : AuthSessionEntity)
  | revoke (replica : Nat) (session : AuthSessionEntity)
  | accept (replica : Nat) (session : AuthSessionEntity) (tokenResponse : OAuthTokenResponse)
  | find (replica : Nat) (session : AuthSessionEntity) (tokenResponse : OAuthTokenResponse)
      (now : Nat)
  | save (replica : Nat) (session : AuthSessionEntity) (tokenResponse : OAuthTokenResponse)
      (now : Nat) (entity : AuthSessionEntity)
  | settle (replica : Nat) (sessionId : String) (rest : AuthProgram (Option AuthSessionEntity))
      (harmless : rest.Uses AuthOperation.KeepsSessions)
  | done (result : Option AuthSessionEntity)

section

variable (config : AuthConfig)

/-- What follows when the stored row was looked for. -/
def afterFind (session : AuthSessionEntity) (tokenResponse : OAuthTokenResponse) :
    Option AuthSessionEntity → AuthProgram (Option AuthSessionEntity)
  | none => pure none
  | some updatedSession => do
      syncAfterRefresh session.provider tokenResponse.access_token
      return some updatedSession

/-- The rest of the program at a stage. -/
def RefreshStage.program : RefreshStage → AuthProgram (Option AuthSessionEntity)
  | .load replica sessionId => requestRefresh config (replica, sessionId)
  | .check replica session => refreshSessionIfNeeded config replica session
  | .expire session => do
      let _ ← .perform (.revokeExpired session)
      return none
  | .join replica session => do
      match ← .perform (.joinRefresh replica session.sessionId) with
      | some existing => return existing
      | none => inRefresh replica session.sessionId (performRefresh config session)
  | .ask replica session => inRefresh replica session.sessionId (performRefresh config session)
  | .reread replica session =>
      inRefresh replica session.sessionId (handleRefreshFailure session .unauthorized)
  | .revoke replica session => inRefresh replica session.sessionId do
      let _ ← .perform (.query (.revokeSession session.sessionId))
      return none
  | .accept replica session tokenResponse =>
      inRefresh replica session.sessionId (storeRefreshed config session tokenResponse)
  | .find replica session tokenResponse now => inRefresh replica session.sessionId do
      afterFind session tokenResponse (← query (AuthSessionRepository.updateAfterRefresh
        session.sessionId (refreshUpdate config now session tokenResponse)))
  | .save replica session tokenResponse now entity => inRefresh replica session.sessionId do
      let updated := (refreshUpdate config now session tokenResponse).assign entity
      let _ ← .perform (.query (.saveSession updated))
      afterFind session tokenResponse (some updated)
  | .settle replica sessionId rest _ => inRefresh replica sessionId rest
  | .done result => .done result

end

/-! ## Moves -/

/-- How a request moves from one stage to the next, and what becomes of the store. -/
inductive RefreshMove (config : AuthConfig) (rotation : TokenRotation) (store : RefreshStore) :
    RefreshStage → RefreshStage → RefreshStore → Prop
  | loaded {replica : Nat} {sessionId : String} {session : AuthSessionEntity}
      (found : findActiveSession store.db sessionId = some session) :
      RefreshMove config rotation store (.load replica sessionId) (.check replica session) store
  | unknown {replica : Nat} {sessionId : String} :
      RefreshMove config rotation store (.load replica sessionId) (.done none) store
  | fresh {replica : Nat} {session : AuthSessionEntity} :
      RefreshMove config rotation store (.check replica session) (.done (some session)) store
  | outdated {replica : Nat} {session : AuthSessionEntity} :
      RefreshMove config rotation store (.check replica session) (.expire session) store
  | due {replica : Nat} {session : AuthSessionEntity} :
      RefreshMove config rotation store (.check replica session) (.join replica session) store
  | expired {session : AuthSessionEntity} :
      RefreshMove config rotation store (.expire session) (.done none)
        { store with db := revokeSession store.db session.sessionId }
  | joined {replica : Nat} {session : AuthSessionEntity} :
      RefreshMove config rotation store (.join replica session) (.done store.replies.joined) store
  | registered {replica : Nat} {session : AuthSessionEntity}
      (free : (replica, session.sessionId) ∉ store.inFlight) :
      RefreshMove config rotation store (.join replica session) (.ask replica session)
        { store with inFlight := (replica, session.sessionId) :: store.inFlight }
  | undecryptable {replica : Nat} {session : AuthSessionEntity} :
      RefreshMove config rotation store (.ask replica session) (.done (some session))
        { store with inFlight := store.inFlight.filter (· ≠ (replica, session.sessionId)) }
  | unavailable {replica : Nat} {session : AuthSessionEntity} :
      RefreshMove config rotation store (.ask replica session)
        (.settle replica session.sessionId (pure (some session)) trivial) store
  | refused {replica : Nat} {session : AuthSessionEntity} :
      RefreshMove config rotation store (.ask replica session) (.reread replica session) store
  | accepted {replica : Nat} {session : AuthSessionEntity} {tokenResponse : OAuthTokenResponse}
      (newest : HoldsNewest config rotation store session)
      (issued : tokenResponse.refresh_token =
        some (rotation.issue session.sessionId (store.generation session.sessionId + 1))) :
      RefreshMove config rotation store (.ask replica session)
        (.accept replica session tokenResponse) (store.accept session.sessionId)
  | adopted {replica : Nat} {session latest : AuthSessionEntity} :
      RefreshMove config rotation store (.reread replica session)
        (.settle replica session.sessionId (pure (some latest)) trivial) store
  | unseen {replica : Nat} {session : AuthSessionEntity}
      (missed : ¬ (findActiveSession store.db session.sessionId).any
        (fun latest => session.lastRefreshedAt.getD 0 < latest.lastRefreshedAt.getD 0) = true) :
      RefreshMove config rotation store (.reread replica session) (.revoke replica session) store
  | revoked {replica : Nat} {session : AuthSessionEntity} :
      RefreshMove config rotation store (.revoke replica session)
        (.settle replica session.sessionId (pure none) trivial)
        { store with db := revokeSession store.db session.sessionId }
  | timed {replica : Nat} {session : AuthSessionEntity} {tokenResponse : OAuthTokenResponse} :
      RefreshMove config rotation store (.accept replica session tokenResponse)
        (.find replica session tokenResponse store.db.clock) store
  | gone {replica : Nat} {session : AuthSessionEntity} {tokenResponse : OAuthTokenResponse}
      {now : Nat} (missing : findActiveSession store.db session.sessionId = none) :
      RefreshMove config rotation store (.find replica session tokenResponse now)
        (.settle replica session.sessionId (pure none) trivial) store
  | found {replica : Nat} {session entity : AuthSessionEntity}
      {tokenResponse : OAuthTokenResponse} {now : Nat}
      (stored : findActiveSession store.db session.sessionId = some entity) :
      RefreshMove config rotation store (.find replica session tokenResponse now)
        (.save replica session tokenResponse now entity) store
  | saved {replica : Nat} {session entity : AuthSessionEntity}
      {tokenResponse : OAuthTokenResponse} {now : Nat}
      (rest : AuthProgram (Option AuthSessionEntity))
      (harmless : rest.Uses AuthOperation.KeepsSessions) :
      RefreshMove config rotation store (.save replica session tokenResponse now entity)
        (.settle replica session.sessionId rest harmless)
        { store with
          db := saveSession store.db
            ((refreshUpdate config now session tokenResponse).assign entity) }
  | settling {replica : Nat} {sessionId : String}
      {rest later : AuthProgram (Option AuthSessionEntity)}
      {harmless : rest.Uses AuthOperation.KeepsSessions}
      {stillHarmless : later.Uses AuthOperation.KeepsSessions} {after : RefreshStore}
      (sameSessions : after.db.auth_sessions = store.db.auth_sessions)
      (sameClock : after.db.clock = store.db.clock)
      (sameTokens : after.generation = store.generation)
      (sameFlights : after.inFlight = store.inFlight) (sameEnds : after.ended = store.ended) :
      RefreshMove config rotation store (.settle replica sessionId rest harmless)
        (.settle replica sessionId later stillHarmless) after
  | left {replica : Nat} {sessionId : String} {result : Option AuthSessionEntity}
      {rest : AuthProgram (Option AuthSessionEntity)}
      {harmless : rest.Uses AuthOperation.KeepsSessions} :
      RefreshMove config rotation store (.settle replica sessionId rest harmless) (.done result)
        { store with inFlight := store.inFlight.filter (· ≠ (replica, sessionId)) }

section Move

variable {config : AuthConfig} (rotation : TokenRotation) (store : RefreshStore)

theorem uses_afterFind (session : AuthSessionEntity) (tokenResponse : OAuthTokenResponse)
    (updated : AuthSessionEntity) :
    (afterFind session tokenResponse (some updated)).Uses AuthOperation.KeepsSessions := by
  refine Program.uses_bind (Program.uses_bind ⟨trivial, fun _ => trivial⟩ ?_) fun _ => trivial
  intro reply
  cases reply with
  | error failure => trivial
  | ok userInfo =>
      refine Program.uses_bind ?_ fun _ => trivial
      unfold syncUserFromUserInfo
      split
      · trivial
      · exact ⟨trivial, fun _ => trivial⟩

/-- Each operation of a request moves it to a next stage. -/
theorem RefreshStage.move {α : Type} {operation : AuthOperation α}
    {next : α → AuthProgram (Option AuthSessionEntity)} (stage : RefreshStage)
    (calls : stage.program config = .call operation next) :
    ∃ later : RefreshStage,
      later.program config = next (handleRotating rotation operation store).1 ∧
        RefreshMove config rotation store stage later
          (handleRotating rotation operation store).2 := by
  cases stage with
  | load replica sessionId =>
      cases calls
      cases found : findActiveSession store.db sessionId with
      | none =>
          refine ⟨.done none, ?_, .unknown⟩
          simp only [handleRotating, AccessQuery.handle, found]
          rfl
      | some session =>
          refine ⟨.check replica session, ?_, .loaded found⟩
          simp only [handleRotating, AccessQuery.handle, found]
          rfl
  | check replica session =>
      cases calls
      by_cases later : store.db.clock + config.refreshLeewaySeconds * 1000 <
          session.accessTokenExpiresAt
      · exact ⟨.done (some session), (if_pos later).symm, .fresh⟩
      · by_cases ended : session.refreshTokenExpiresAt ≤ store.db.clock
        · exact ⟨.expire session, ((if_neg later).trans (if_pos ended)).symm, .outdated⟩
        · exact ⟨.join replica session, ((if_neg later).trans (if_neg ended)).symm, .due⟩
  | expire session =>
      cases calls
      exact ⟨.done none, rfl, .expired⟩
  | join replica session =>
      cases calls
      by_cases inFlight : (replica, session.sessionId) ∈ store.inFlight
      · rw [handleRotating, if_pos inFlight]
        exact ⟨.done store.replies.joined, rfl, .joined⟩
      · rw [handleRotating, if_neg inFlight]
        exact ⟨.ask replica session, rfl, .registered inFlight⟩
  | ask replica session =>
      rw [RefreshStage.program, performRefresh] at calls
      cases decrypted : config.cipher.decryptValue session.refreshTokenCiphertext with
      | none =>
          rw [decrypted] at calls
          cases calls
          exact ⟨.done (some session), rfl, .undecryptable⟩
      | some refreshToken =>
          rw [decrypted] at calls
          cases calls
          rw [handleRotating, rotate]
          split
          · exact ⟨_, rfl, .unavailable⟩
          · split
            · rename_i newest
              rw [newest] at decrypted
              exact ⟨.accept replica session _, rfl, .accepted decrypted rfl⟩
            · exact ⟨.reread replica session, rfl, .refused⟩
  | reread replica session =>
      cases calls
      cases seen : (findActiveSession store.db session.sessionId).filter fun latest =>
          session.lastRefreshedAt.getD 0 < latest.lastRefreshedAt.getD 0 with
      | none =>
          refine ⟨.revoke replica session, ?_, .unseen ?_⟩
          · simp only [handleRotating, Program.bind, seen]
            rfl
          · rw [Option.any_eq_true]
            intro ⟨latest, found, later⟩
            exact Option.filter_eq_none_iff.mp seen latest found later
      | some latest =>
          refine ⟨.settle replica session.sessionId (pure (some latest)) trivial, ?_, .adopted⟩
          simp only [handleRotating, Program.bind, seen]
          rfl
  | revoke replica session =>
      cases calls
      exact ⟨_, rfl, .revoked⟩
  | accept replica session tokenResponse =>
      cases calls
      exact ⟨.find replica session tokenResponse store.db.clock, rfl, .timed⟩
  | find replica session tokenResponse now =>
      cases calls
      cases found : findActiveSession store.db session.sessionId with
      | none =>
          refine ⟨.settle replica session.sessionId (pure none) trivial, ?_, .gone found⟩
          simp only [handleRotating, AccessQuery.handle, found]
          rfl
      | some entity =>
          refine ⟨.save replica session tokenResponse now entity, ?_, .found found⟩
          simp only [handleRotating, AccessQuery.handle, found]
          rfl
  | save replica session tokenResponse now entity =>
      cases calls
      exact ⟨.settle replica session.sessionId _ (uses_afterFind session tokenResponse
        ((refreshUpdate config now session tokenResponse).assign entity)), rfl, .saved _ _⟩
  | settle replica sessionId rest harmless =>
      cases rest with
      | done result =>
          cases calls
          exact ⟨_, rfl, .left⟩
      | call operation next =>
          cases calls
          refine ⟨.settle replica sessionId _ (harmless.2 _), rfl, ?_⟩
          cases operation with
          | upsertUserBySub => exact .settling rfl rfl rfl rfl rfl
          | fetchUserInfo => exact .settling rfl rfl rfl rfl rfl
          | _ => exact harmless.1.elim
  | done result => cases calls

end Move

end Reputo.Access

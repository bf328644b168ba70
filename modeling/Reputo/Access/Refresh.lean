import Reputo.Access.Auth

/-!
# Concurrent refreshes

Requests on any replicas refresh the tokens of their sessions against a provider that
takes each refresh token once.  A request whose token is refused reads its session again
and revokes it, unless the session says that another refresh was stored meanwhile.
-/

namespace Reputo.Access

open Reputo.Library

/-! ## The provider -/

/-- The refresh tokens of a session, one after another. -/
structure TokenRotation where
  issue : String → Nat → String
  issue_injective : ∀ sessionId first second,
    issue sessionId first = issue sessionId second → first = second
  issue_ne_empty : ∀ sessionId number, issue sessionId number ≠ ""

/-- What the provider answers, whether it can be reached, and what a refresh in flight
comes to for those that join it. -/
structure RefreshReplies where
  available : Bool
  access_token : String
  expires_in : Int
  refresh_token_expires_in : Option Int
  scope : Option String
  userInfo : Except OAuthFailure OAuthUserInfo
  newUserId : String
  joined : Option AuthSessionEntity

/-- The map `generation` counts the refreshes of a session that the provider accepted;
`inFlight` has those that a replica has registered, and `ended` the sessions that were
logged out, removed or expired. -/
structure RefreshStore where
  db : AccessDatabase
  replies : RefreshReplies
  generation : String → Nat
  inFlight : List (Nat × String)
  ended : List String

/-- The sessions that have expired and are not revoked. -/
def expiredSessions (db : AccessDatabase) : List String :=
  (db.auth_sessions.rows.filter fun row =>
    row.revokedAt.isNone && decide (row.expiresAt ≤ db.clock)).map (·.sessionId)

def RefreshStore.noteExpired (store : RefreshStore) : RefreshStore :=
  { store with ended := store.ended ++ expiredSessions store.db }

section

variable (rotation : TokenRotation)

/-- One more refresh of a session is accepted. -/
def RefreshStore.accept (sessionId : String) (store : RefreshStore) : RefreshStore :=
  { store with
    generation := Function.update store.generation sessionId (store.generation sessionId + 1) }

@[simp] theorem RefreshStore.accept_generation_self (store : RefreshStore) (sessionId : String) :
    (store.accept sessionId).generation sessionId = store.generation sessionId + 1 :=
  Function.update_self ..

theorem RefreshStore.accept_generation_of_ne (store : RefreshStore) {sessionId other : String}
    (different : other ≠ sessionId) :
    (store.accept sessionId).generation other = store.generation other :=
  Function.update_of_ne different ..

/-- The provider takes the newest token of a session, and then issues the next one. -/
def rotate (sessionId refreshToken : String) (store : RefreshStore) :
    Except OAuthFailure OAuthTokenResponse × RefreshStore :=
  if store.replies.available = false then (.error .unavailable, store)
  else if refreshToken = rotation.issue sessionId (store.generation sessionId) then
    (.ok
      { access_token := store.replies.access_token
        expires_in := store.replies.expires_in
        refresh_token := some (rotation.issue sessionId (store.generation sessionId + 1))
        refresh_token_expires_in := store.replies.refresh_token_expires_in
        scope := store.replies.scope },
      store.accept sessionId)
  else (.error .unauthorized, store)

/-- One operation; logins are not part of this system. -/
def handleRotating : Handler AuthOperation RefreshStore := fun operation store =>
  match operation with
  | .query query => ((query.handle store.db).1, { store with db := (query.handle store.db).2 })
  | .upsertUserBySub provider sub update =>
      ((upsertUserBySub store.db store.replies.newUserId provider sub update).1,
        { store with
          db := (upsertUserBySub store.db store.replies.newUserId provider sub update).2 })
  | .createSession _ => ((), store)
  | .createRandomToken => ("", store)
  | .exchangeCodeForTokens _ _ _ => (.error .unavailable, store)
  | .refreshTokens sessionId _ refreshToken => rotate rotation sessionId refreshToken store
  | .fetchUserInfo _ _ => (store.replies.userInfo, store)
  | .joinRefresh replica sessionId =>
      if (replica, sessionId) ∈ store.inFlight then (some store.replies.joined, store)
      else (none, { store with inFlight := (replica, sessionId) :: store.inFlight })
  | .leaveRefresh replica sessionId =>
      ((), { store with inFlight := store.inFlight.filter (· ≠ (replica, sessionId)) })
  | .reread ours => (findActiveSession store.db ours.sessionId, store)
  | .revokeExpired ours => ((), { store with db := revokeSession store.db ours.sessionId })

/-- One operation, after which the sessions that have expired are noted. -/
def handleRefresh : Handler AuthOperation RefreshStore := fun operation store =>
  ((handleRotating rotation operation store).1,
    (handleRotating rotation operation store).2.noteExpired)

end

/-! ## The system -/

/-- What happens besides: time, other answers of the provider, logouts and removals. -/
inductive RefreshEvent where
  | tick (elapsed : Nat)
  | answers (replies : RefreshReplies)
  | logout (sessionId : String)
  | removeUser (userId : String)

/-- The sessions of a user. -/
def sessionsOf (db : AccessDatabase) (userId : String) : List String :=
  (db.auth_sessions.rows.filter (·.userId = userId)).map (·.sessionId)

def RefreshEvent.happen (event : RefreshEvent) (store : RefreshStore) : RefreshStore :=
  match event with
  | .tick elapsed =>
      { store with db := { store.db with clock := store.db.clock + elapsed } }.noteExpired
  | .answers replies => { store with replies }
  | .logout sessionId =>
      { store with
        db := revokeSession store.db sessionId
        ended := store.ended ++ [sessionId] }
  | .removeUser userId =>
      { store with
        db := (revokeUserSessions store.db userId).2
        ended := store.ended ++ sessionsOf store.db userId }

section

variable (config : AuthConfig) (rotation : TokenRotation)

/-- What a request does before it asks for its role: the row that it reads is the copy
that it refreshes, at any time later. -/
def requestRefresh (request : Nat × String) : AuthProgram (Option AuthSessionEntity) := do
  match ← .perform (.query (.findActiveSession request.2)) with
  | none => return none
  | some session => refreshSessionIfNeeded config request.1 session

abbrev RefreshState := Pool RefreshStore AuthOperation (Option AuthSessionEntity)

def performRefreshes : RefreshState → PoolAction (Nat × String) RefreshEvent →
    Option RefreshState :=
  Pool.perform (handleRefresh rotation) (requestRefresh config) RefreshEvent.happen

/-- The refresh token of the row is the newest one of its session. -/
def HoldsNewest (store : RefreshStore) (row : AuthSessionEntity) : Prop :=
  config.cipher.decryptValue row.refreshTokenCiphertext =
    some (rotation.issue row.sessionId (store.generation row.sessionId))

/-- Any sessions with their first refresh tokens; those that are not active have ended. -/
structure RefreshStore.Initial (store : RefreshStore) : Prop where
  generation : store.generation = fun _ => 0
  inFlight : store.inFlight = []
  newest : ∀ row ∈ store.db.auth_sessions, HoldsNewest config rotation store row
  expires : ∀ row ∈ store.db.auth_sessions, row.expiresAt ≤ row.refreshTokenExpiresAt
  ended : ∀ row ∈ store.db.auth_sessions, row.isActive store.db.clock = false →
    row.sessionId ∈ store.ended

/-- Any requests at once, on any replicas and sessions. -/
def refreshSystem : System RefreshState (PoolAction (Nat × String) RefreshEvent) :=
  Pool.system (handleRefresh rotation) (requestRefresh config) RefreshEvent.happen
    (RefreshStore.Initial config rotation)

/-! ## Healthy sessions -/

/-- A session with an accepted refresh that has not ended is active, and its newest refresh
token is stored, or will be when one of the requests goes on. -/
def SessionsHealthy (state : RefreshState) : Prop :=
  ∀ sessionId, 0 < state.store.generation sessionId → sessionId ∉ state.store.ended →
    ∃ row, findActiveSession state.store.db sessionId = some row ∧
      (HoldsNewest config rotation state.store row ∨ ∃ program ∈ state.running, ∃ later,
        (program.run (handleRefresh rotation) state.store).2.db.auth_sessions.find? sessionId =
            some later ∧
          HoldsNewest config rotation state.store later)

/-- The rest of a refresh that a replica has registered. -/
def inRefresh (replica : Nat) (sessionId : String)
    (rest : AuthProgram (Option AuthSessionEntity)) : AuthProgram (Option AuthSessionEntity) := do
  let refreshed ← rest
  let _ ← .perform (.leaveRefresh replica sessionId)
  return refreshed

/-- A replica refreshes a session at most once at a time. -/
def SingleFlight (state : RefreshState) : Prop :=
  ∀ (replica : Nat) (sessionId : String) (first second : Nat)
    (one other : AuthProgram (Option AuthSessionEntity)),
    state.running[first]? = some (inRefresh replica sessionId one) →
    state.running[second]? = some (inRefresh replica sessionId other) → first = second

end

/-- A refused refresh finds the other refresh stored, with a later time than its copy has;
a request that finds the refresh token of its copy expired finds the stored one expired. -/
def AuthOperation.SeesRefresh {α : Type} (store : RefreshStore) : AuthOperation α → Prop
  | .reread ours => ours.sessionId ∈ store.ended ∨
      (findActiveSession store.db ours.sessionId).any
        (fun latest => ours.lastRefreshedAt.getD 0 < latest.lastRefreshedAt.getD 0) = true
  | .revokeExpired ours => ours.sessionId ∈ store.ended ∨
      (store.db.auth_sessions.find? ours.sessionId).all
        (fun row => row.refreshTokenExpiresAt ≤ store.db.clock) = true
  | _ => True

def SeesRefresh (state : RefreshState) : PoolAction (Nat × String) RefreshEvent → Prop :=
  state.Meets fun operation store => operation.SeesRefresh store

end Reputo.Access

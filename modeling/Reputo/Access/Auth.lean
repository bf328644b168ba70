import Reputo.Access.Admin
import Reputo.Access.Sessions

/-!
# Logins, refreshes and roles

The service behind logins and requests, operation by operation, in the mode in which the
provider is asked.  A request first refreshes the tokens of its session if they are about
to expire; the email of the user is whatever the provider says then, and the role is that
of the email on the allowlist.
-/

namespace Reputo.Access

open Reputo.Library

/-! ## The provider -/

structure OAuthTokenResponse where
  access_token : String
  expires_in : Int
  refresh_token : Option String
  refresh_token_expires_in : Option Int
  scope : Option String
  deriving DecidableEq, Repr

/-- Fields of a userinfo answer; one that is missing or of another type is `none`. -/
structure OAuthUserInfo where
  sub : Option String
  email : Option String
  email_verified : Option Bool
  deriving DecidableEq, Repr

/-- How a request to the provider fails: `invalid_grant`, or anything else. -/
inductive OAuthFailure where
  | unauthorized
  | unavailable
  deriving DecidableEq, Repr

/-- How tokens are stored. -/
structure TokenCipher where
  encryptValue : String → String
  decryptValue : String → Option String
  decrypt_encrypt : ∀ token, decryptValue (encryptValue token) = some token

structure AuthConfig where
  sessionTtlSeconds : Nat
  refreshLeewaySeconds : Nat
  scopes : OAuthProvider → List String
  cipher : TokenCipher
  rules : EmailRules

/-! ## Operations -/

structure AuthFlowState where
  provider : OAuthProvider
  state : String
  codeVerifier : String
  deriving DecidableEq, Repr

/-- What the service waits for.  `reread` and `revokeExpired` are a query and an update of
a session that carry the row on which they rest; `joinRefresh` looks up the refresh of a
session that is in flight on a replica, and registers one if there is none. -/
inductive AuthOperation : Type → Type 1 where
  | query {α : Type} (query : AccessQuery α) : AuthOperation α
  | upsertUserBySub (provider : OAuthProvider) (sub : String) (update : OAuthUserUpsertInput) :
      AuthOperation OAuthUserEntity
  | createSession (entity : AuthSessionEntity) : AuthOperation Unit
  | createRandomToken : AuthOperation String
  | exchangeCodeForTokens (provider : OAuthProvider) (code codeVerifier : String) :
      AuthOperation (Except OAuthFailure OAuthTokenResponse)
  | refreshTokens (sessionId : String) (provider : OAuthProvider) (refreshToken : String) :
      AuthOperation (Except OAuthFailure OAuthTokenResponse)
  | fetchUserInfo (provider : OAuthProvider) (accessToken : String) :
      AuthOperation (Except OAuthFailure OAuthUserInfo)
  | joinRefresh (replica : Nat) (sessionId : String) :
      AuthOperation (Option (Option AuthSessionEntity))
  | leaveRefresh (replica : Nat) (sessionId : String) : AuthOperation Unit
  | reread (ours : AuthSessionEntity) : AuthOperation (Option AuthSessionEntity)
  | revokeExpired (ours : AuthSessionEntity) : AuthOperation Unit

abbrev AuthProgram := Program AuthOperation

/-- The operations of a program on the database, as operations of the service. -/
def query {ρ : Type} : AccessProgram ρ → AuthProgram ρ
  | .done result => .done result
  | .call operation next => .call (.query operation) fun reply => query (next reply)

/-! ## Small functions -/

/-- The parts of a text between commas and white space. -/
def splitScope (characters : List Char) : List String :=
  ((characters.splitOnP fun character => character = ',' || JsText.isWhitespace character).filter
    (· ≠ [])).map String.ofList

def scopeToArray (scope : Option String) (fallback : List String) : List String :=
  match scope.filter (· ≠ "") with
  | none => fallback
  | some scope => splitScope scope.toList

/-- `toDateFromNow`, in milliseconds. -/
def toDateFromNow (now : Nat) (seconds : Option Int) (fallbackSeconds : Nat) : Nat :=
  now + ((seconds.filter (0 < ·)).map Int.toNat).getD fallbackSeconds * 1000

section

variable (config : AuthConfig)

/-! ## Users -/

inductive AuthError where
  | unauthorized
  | badGateway
  | forbidden (reason : String)
  deriving DecidableEq, Repr

def syncUserFromUserInfo (provider : OAuthProvider) (userInfo : OAuthUserInfo) :
    AuthProgram (Except AuthError OAuthUserEntity) :=
  match userInfo.sub.filter fun sub => JsText.trim sub ≠ "" with
  | none => pure (.error .badGateway)
  | some sub => do
      let user ← .perform (.upsertUserBySub provider sub ⟨userInfo.email, userInfo.email_verified⟩)
      return .ok user

/-! ## Logins -/

/-- Why the callback denies access, if it does. -/
def callbackDenial (provider : OAuthProvider) (userInfo : OAuthUserInfo) :
    AuthProgram (Option String) :=
  match (userInfo.email.map config.rules.normalizeEmail).filter (· ≠ "") with
  | none => pure (some "email_unverified")
  | some email =>
      if userInfo.email_verified ≠ some true then pure (some "email_unverified")
      else do
        let row ← query
          (AdminAllowlistRepository.findActiveByProviderEmail config.rules provider email)
        return if row.isNone then some "not_allowlisted" else none

def createApplicationSession (user : OAuthUserEntity) (tokenResponse : OAuthTokenResponse)
    (authFlow : AuthFlowState) : AuthProgram (Except AuthError AuthSessionEntity) :=
  match tokenResponse.refresh_token.filter (· ≠ "") with
  | none => pure (.error .badGateway)
  | some refreshToken => do
      let now ← .perform (.query .now)
      let sessionId ← .perform .createRandomToken
      let refreshTokenExpiresAt :=
        toDateFromNow now tokenResponse.refresh_token_expires_in config.sessionTtlSeconds
      let entity : AuthSessionEntity :=
        { sessionId
          provider := authFlow.provider
          userId := user.id
          accessTokenCiphertext := config.cipher.encryptValue tokenResponse.access_token
          refreshTokenCiphertext := config.cipher.encryptValue refreshToken
          accessTokenExpiresAt :=
            toDateFromNow now (some tokenResponse.expires_in) config.refreshLeewaySeconds
          refreshTokenExpiresAt
          scope := scopeToArray tokenResponse.scope (config.scopes authFlow.provider)
          state := authFlow.state
          codeVerifier := authFlow.codeVerifier
          lastRefreshedAt := none
          revokedAt := none
          expiresAt := min refreshTokenExpiresAt (now + config.sessionTtlSeconds * 1000) }
      let _ ← .perform (.createSession entity)
      return .ok entity

structure OAuthCallbackQuery where
  code : Option String
  state : Option String
  error : Option String
  deriving DecidableEq, Repr

/-- The checks of a callback before the provider is asked. -/
def checkCallback (provider : OAuthProvider) (callback : OAuthCallbackQuery)
    (authFlow : Option AuthFlowState) : Except AuthError (String × AuthFlowState) :=
  match callback.error.filter (· ≠ "") with
  | some error =>
      .error (if error = "access_denied" then .forbidden "consent_denied" else .unauthorized)
  | none => match authFlow.filter fun flow => flow.state ≠ "" && flow.codeVerifier ≠ "" with
      | none => .error .unauthorized
      | some flow =>
          if flow.provider ≠ provider then .error .unauthorized
          else if callback.state ≠ some flow.state then .error .unauthorized
          else match callback.code.filter (· ≠ "") with
            | none => .error .unauthorized
            | some code => .ok (code, flow)

def handleCallback (provider : OAuthProvider) (callback : OAuthCallbackQuery)
    (authFlow : Option AuthFlowState) : AuthProgram (Except AuthError AuthSessionEntity) :=
  match checkCallback provider callback authFlow with
  | .error error => pure (.error error)
  | .ok (code, flow) => do
    match ← .perform (.exchangeCodeForTokens provider code flow.codeVerifier) with
    | .error .unauthorized => return .error .unauthorized
    | .error .unavailable => return .error .badGateway
    | .ok tokenResponse =>
      match ← .perform (.fetchUserInfo provider tokenResponse.access_token) with
      | .error _ => return .error .badGateway
      | .ok userInfo =>
        match ← callbackDenial config provider userInfo with
        | some reason => return .error (.forbidden reason)
        | none =>
          match ← syncUserFromUserInfo provider userInfo with
          | .error error => return .error error
          | .ok user => createApplicationSession config user tokenResponse flow

/-! ## Refreshes -/

def handleRefreshFailure (session : AuthSessionEntity) (failure : OAuthFailure) :
    AuthProgram (Option AuthSessionEntity) :=
  match failure with
  | .unavailable => pure (some session)
  | .unauthorized => do
      let latest ← .perform (.reread session)
      match latest.filter fun latest =>
          session.lastRefreshedAt.getD 0 < latest.lastRefreshedAt.getD 0 with
      | some latest => return some latest
      | none =>
          let _ ← .perform (.query (.revokeSession session.sessionId))
          return none

/-- The columns that a refresh writes. -/
def refreshUpdate (now : Nat) (session : AuthSessionEntity) (tokenResponse : OAuthTokenResponse) :
    AuthSessionUpdateAfterRefreshInput :=
  let nextRefreshToken := match tokenResponse.refresh_token.filter (· ≠ "") with
    | some refreshToken => config.cipher.encryptValue refreshToken
    | none => session.refreshTokenCiphertext
  let nextRefreshTokenExpiresAt := match tokenResponse.refresh_token_expires_in with
    | some seconds => toDateFromNow now (some seconds) config.sessionTtlSeconds
    | none => session.refreshTokenExpiresAt
  { accessTokenCiphertext := some (config.cipher.encryptValue tokenResponse.access_token)
    refreshTokenCiphertext := some nextRefreshToken
    accessTokenExpiresAt :=
      some (toDateFromNow now (some tokenResponse.expires_in) config.refreshLeewaySeconds)
    refreshTokenExpiresAt := some nextRefreshTokenExpiresAt
    scope := some (scopeToArray tokenResponse.scope session.scope)
    lastRefreshedAt := some now
    expiresAt := some (min nextRefreshTokenExpiresAt session.expiresAt) }

/-- The user is synchronized after a refresh; a failure is ignored. -/
def syncAfterRefresh (provider : OAuthProvider) (accessToken : String) : AuthProgram Unit := do
  match ← .perform (.fetchUserInfo provider accessToken) with
  | .error _ => return ()
  | .ok userInfo =>
      let _ ← syncUserFromUserInfo provider userInfo
      return ()

/-- What follows a refresh that the provider has accepted. -/
def storeRefreshed (session : AuthSessionEntity) (tokenResponse : OAuthTokenResponse) :
    AuthProgram (Option AuthSessionEntity) := do
  let now ← .perform (.query .now)
  match ← query (AuthSessionRepository.updateAfterRefresh session.sessionId
      (refreshUpdate config now session tokenResponse)) with
  | none => return none
  | some updatedSession =>
      syncAfterRefresh session.provider tokenResponse.access_token
      return some updatedSession

def performRefresh (session : AuthSessionEntity) : AuthProgram (Option AuthSessionEntity) :=
  match config.cipher.decryptValue session.refreshTokenCiphertext with
  | none => handleRefreshFailure session .unavailable
  | some refreshToken => do
    match ← .perform (.refreshTokens session.sessionId session.provider refreshToken) with
    | .error failure => handleRefreshFailure session failure
    | .ok tokenResponse => storeRefreshed config session tokenResponse

def refreshSessionIfNeeded (replica : Nat) (session : AuthSessionEntity) :
    AuthProgram (Option AuthSessionEntity) := do
  let now ← .perform (.query .now)
  if now + config.refreshLeewaySeconds * 1000 < session.accessTokenExpiresAt then
    return some session
  else if session.refreshTokenExpiresAt ≤ now then
    let _ ← .perform (.revokeExpired session)
    return none
  else
    match ← .perform (.joinRefresh replica session.sessionId) with
    | some existing => return existing
    | none =>
        let refreshed ← performRefresh config session
        let _ ← .perform (.leaveRefresh replica session.sessionId)
        return refreshed

/-! ## Requests -/

structure AuthRequestContext where
  role : AccessRole
  session : AuthSessionEntity
  user : OAuthUserEntity
  deriving DecidableEq, Repr

def resolveSessionRole (provider : OAuthProvider) (user : OAuthUserEntity) :
    AuthProgram (Option AccessRole) :=
  match user.email.filter (· ≠ "") with
  | none => pure none
  | some email => do
      let row ← query
        (AdminAllowlistRepository.findActiveByProviderEmail config.rules provider email)
      return row.map (·.role)

/-- What follows in `requireSession` when the session is active and refreshed. -/
def resolveContext (activeSession : AuthSessionEntity) :
    AuthProgram (Except AuthError AuthRequestContext) := do
  match ← .perform (.query (.findUserById activeSession.userId)) with
  | none =>
      let _ ← .perform (.query (.revokeSession activeSession.sessionId))
      return .error .unauthorized
  | some user =>
    match ← resolveSessionRole config activeSession.provider user with
    | none =>
        let _ ← .perform (.query (.revokeSession activeSession.sessionId))
        return .error .unauthorized
    | some role => return .ok ⟨role, activeSession, user⟩

def requireSession (replica : Nat) (sessionId : String) :
    AuthProgram (Except AuthError AuthRequestContext) := do
  match ← .perform (.query (.findActiveSession sessionId)) with
  | none => return .error .unauthorized
  | some session =>
    match ← refreshSessionIfNeeded config replica session with
    | none => return .error .unauthorized
    | some activeSession => resolveContext config activeSession

end

end Reputo.Access

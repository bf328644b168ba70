import Reputo.Library.Program
import Reputo.Library.Query
import Reputo.Library.Table

/-!
# The database of the access control

Users, the allowlist and sessions, and the single queries that the services make.
Every query is carried out at once; what happens between two of them is up to the
others.
-/

namespace Reputo.Access

open Reputo.Library

inductive OAuthProvider where
  | deepId
  deriving DecidableEq, Repr

inductive AccessRole where
  | owner
  | admin
  deriving DecidableEq, Repr

/-! ## Rows -/

structure OAuthUserEntity where
  id : String
  provider : OAuthProvider
  sub : String
  email : Option String
  emailVerified : Option Bool
  updatedAt : Nat
  deriving DecidableEq, Repr

structure AccessAllowlistEntity where
  provider : OAuthProvider
  email : String
  role : AccessRole
  invitedByUserId : Option String
  invitedAt : Nat
  revokedAt : Option Nat
  revokedByUserId : Option String
  deriving DecidableEq, Repr

structure AuthSessionEntity where
  sessionId : String
  provider : OAuthProvider
  userId : String
  accessTokenCiphertext : String
  refreshTokenCiphertext : String
  accessTokenExpiresAt : Nat
  refreshTokenExpiresAt : Nat
  scope : List String
  state : String
  codeVerifier : String
  lastRefreshedAt : Option Nat
  revokedAt : Option Nat
  expiresAt : Nat
  deriving DecidableEq, Repr

abbrev OAuthUsers := Table OAuthUserEntity OAuthUserEntity.id

abbrev AccessAllowlist := Table AccessAllowlistEntity fun row => (row.provider, row.email)

abbrev AuthSessions := Table AuthSessionEntity AuthSessionEntity.sessionId

/-- The tables, and the time. -/
structure AccessDatabase where
  clock : Nat
  oauth_users : OAuthUsers
  access_allowlist : AccessAllowlist
  auth_sessions : AuthSessions

/-! ## The allowlist -/

def AccessAllowlistEntity.isActiveOwner (provider : OAuthProvider)
    (row : AccessAllowlistEntity) : Bool :=
  row.provider = provider && row.role = .owner && row.revokedAt.isNone

def findAllowlist (db : AccessDatabase) (provider : OAuthProvider) (email : String) :
    Option AccessAllowlistEntity :=
  db.access_allowlist.find? (provider, email)

def findActiveAllowlist (db : AccessDatabase) (provider : OAuthProvider) (email : String) :
    Option AccessAllowlistEntity :=
  (findAllowlist db provider email).filter (·.revokedAt.isNone)

def countActiveOwnerRows (db : AccessDatabase) (provider : OAuthProvider) : Nat :=
  (db.access_allowlist.rows.filter (·.isActiveOwner provider)).length

/-- The columns that an update of the allowlist sets. -/
inductive AllowlistChange where
  | restored (invitedByUserId : Option String) (invitedAt : Nat) (role : AccessRole)
  | setRole (role : AccessRole)
  | revoked (revokedAt : Nat) (revokedByUserId : String)
  deriving DecidableEq, Repr

def AllowlistChange.assign (row : AccessAllowlistEntity) : AllowlistChange → AccessAllowlistEntity
  | .restored invitedByUserId invitedAt role =>
      { row with invitedByUserId, invitedAt, role, revokedAt := none, revokedByUserId := none }
  | .setRole role => { row with role }
  | .revoked revokedAt revokedByUserId =>
      { row with revokedAt := some revokedAt, revokedByUserId := some revokedByUserId }

theorem AllowlistChange.key_assign (change : AllowlistChange) (row : AccessAllowlistEntity) :
    ((change.assign row).provider, (change.assign row).email) = (row.provider, row.email) := by
  cases change <;> rfl

/-- The update concerns the row of an address, in the state that it asks for. -/
def isUpdated (provider : OAuthProvider) (email : String) (revoked : Bool)
    (row : AccessAllowlistEntity) : Bool :=
  row.provider = provider && row.email = email && row.revokedAt.isSome == revoked

def updateAllowlist (db : AccessDatabase) (provider : OAuthProvider) (email : String)
    (revoked : Bool) (change : AllowlistChange) : Nat × AccessDatabase :=
  ((db.access_allowlist.rows.filter (isUpdated provider email revoked)).length,
    { db with
      access_allowlist := db.access_allowlist.modify (isUpdated provider email revoked)
        change.assign change.key_assign })

/-- Inserts a row, unless there is one for the address. -/
def insertAllowlist (db : AccessDatabase) (row : AccessAllowlistEntity) : Bool × AccessDatabase :=
  ((findAllowlist db row.provider row.email).isNone,
    { db with access_allowlist := db.access_allowlist.insertOrIgnore row })

/-! ## Users -/

def findUserById (db : AccessDatabase) (id : String) : Option OAuthUserEntity :=
  db.oauth_users.find? id

/-- Of the users with an address, the one written last. -/
def findUserByProviderEmail (db : AccessDatabase) (provider : OAuthProvider) (email : String) :
    Option OAuthUserEntity :=
  ((RowOrder.byKey fun user : OAuthUserEntity => OrderDual.toDual user.updatedAt).orderBy
    (db.oauth_users.rows.filter fun user =>
      user.provider = provider && user.email = some email)).head?

def findUserBySub (db : AccessDatabase) (provider : OAuthProvider) (sub : String) :
    Option OAuthUserEntity :=
  db.oauth_users.rows.find? fun user => user.provider = provider && user.sub = sub

structure OAuthUserUpsertInput where
  email : Option String
  emailVerified : Option Bool
  deriving DecidableEq, Repr

/-- One transaction: the user with a subject identifier gets the columns of the input,
or is stored under an identifier that is not in use. -/
def upsertUserBySub (db : AccessDatabase) (newId : String) (provider : OAuthProvider)
    (sub : String) (update : OAuthUserUpsertInput) : OAuthUserEntity × AccessDatabase :=
  let user := match findUserBySub db provider sub with
    | some existing =>
        { existing with
          email := update.email, emailVerified := update.emailVerified, updatedAt := db.clock }
    | none => ⟨newId, provider, sub, update.email, update.emailVerified, db.clock⟩
  (user, { db with oauth_users := db.oauth_users.upsert user })

/-! ## Sessions -/

def AuthSessionEntity.isActive (now : Nat) (row : AuthSessionEntity) : Bool :=
  row.revokedAt.isNone && now < row.expiresAt

/-- `findActiveBySessionId`. -/
def findActiveSession (db : AccessDatabase) (sessionId : String) : Option AuthSessionEntity :=
  (db.auth_sessions.find? sessionId).filter (·.isActive db.clock)

def AuthSessionEntity.revoke (revokedAt : Nat) (row : AuthSessionEntity) : AuthSessionEntity :=
  { row with revokedAt := some revokedAt, expiresAt := revokedAt }

/-- `revokeBySessionId`: only a session that is not revoked yet is. -/
def revokeSession (db : AccessDatabase) (sessionId : String) : AccessDatabase :=
  { db with
    auth_sessions := db.auth_sessions.modify
      (fun row => row.sessionId = sessionId && row.revokedAt.isNone)
      (·.revoke db.clock) fun _ => rfl }

/-- `revokeAllByUserId`, with the number of sessions revoked. -/
def revokeUserSessions (db : AccessDatabase) (userId : String) : Nat × AccessDatabase :=
  ((db.auth_sessions.rows.filter fun row => row.userId = userId && row.isActive db.clock).length,
    { db with
      auth_sessions := db.auth_sessions.modify
        (fun row => row.userId = userId && row.isActive db.clock)
        (·.revoke db.clock) fun _ => rfl })

/-- `save` of a loaded row writes every column that differs from the stored row. -/
def saveSession (db : AccessDatabase) (entity : AuthSessionEntity) : AccessDatabase :=
  { db with auth_sessions := db.auth_sessions.upsert entity }

/-! ## Queries -/

/-- The single queries, and the reading of the clock. -/
inductive AccessQuery : Type → Type where
  | now : AccessQuery Nat
  | findAllowlist (provider : OAuthProvider) (email : String) :
      AccessQuery (Option AccessAllowlistEntity)
  | findActiveAllowlist (provider : OAuthProvider) (email : String) :
      AccessQuery (Option AccessAllowlistEntity)
  | countActiveOwners (provider : OAuthProvider) : AccessQuery Nat
  | insertAllowlist (row : AccessAllowlistEntity) : AccessQuery Bool
  | updateAllowlist (provider : OAuthProvider) (email : String) (revoked : Bool)
      (change : AllowlistChange) : AccessQuery Nat
  | findUserById (id : String) : AccessQuery (Option OAuthUserEntity)
  | findUserByProviderEmail (provider : OAuthProvider) (email : String) :
      AccessQuery (Option OAuthUserEntity)
  | findActiveSession (sessionId : String) : AccessQuery (Option AuthSessionEntity)
  | saveSession (entity : AuthSessionEntity) : AccessQuery Unit
  | revokeSession (sessionId : String) : AccessQuery Unit
  | revokeUserSessions (userId : String) : AccessQuery Nat

def AccessQuery.handle : {α : Type} → AccessQuery α → AccessDatabase → α × AccessDatabase
  | _, .now, db => (db.clock, db)
  | _, .findAllowlist provider email, db => (Access.findAllowlist db provider email, db)
  | _, .findActiveAllowlist provider email, db => (Access.findActiveAllowlist db provider email, db)
  | _, .countActiveOwners provider, db => (countActiveOwnerRows db provider, db)
  | _, .insertAllowlist row, db => Access.insertAllowlist db row
  | _, .updateAllowlist provider email revoked change, db =>
      Access.updateAllowlist db provider email revoked change
  | _, .findUserById id, db => (Access.findUserById db id, db)
  | _, .findUserByProviderEmail provider email, db =>
      (Access.findUserByProviderEmail db provider email, db)
  | _, .findActiveSession sessionId, db => (Access.findActiveSession db sessionId, db)
  | _, .saveSession entity, db => ((), Access.saveSession db entity)
  | _, .revokeSession sessionId, db => ((), Access.revokeSession db sessionId)
  | _, .revokeUserSessions userId, db => Access.revokeUserSessions db userId

end Reputo.Access

import Reputo.Access.Database
import Reputo.Library.JsText

/-!
# The administration of the allowlist

The operations of the admin service, query by query.  Owners may neither be demoted nor
removed when no other owner is left; each operation checks that in one query and writes
in a later one.
-/

namespace Reputo.Access

open Reputo.Library

/-- How addresses are lowered, and which texts are addresses. -/
structure EmailRules where
  toLowerCase : String → String
  isEmail : String → Bool

/-- `email.trim().toLowerCase()`. -/
def EmailRules.normalizeEmail (rules : EmailRules) (email : String) : String :=
  rules.toLowerCase (JsText.trim email)

inductive HttpStatus where
  | badRequest
  | forbidden
  | notFound
  | conflict
  deriving DecidableEq, Repr

inductive AdminError where
  | http (status : HttpStatus) (message : String)
  | ownerEmailConflict (provider : OAuthProvider) (configuredOwnerEmail conflictingEmail : String)
  | duplicateKey
  deriving DecidableEq, Repr

structure AdminView where
  provider : OAuthProvider
  email : String
  role : AccessRole
  invitedAt : Nat
  invitedByEmail : Option String
  revokedAt : Option Nat
  revokedByEmail : Option String
  deriving DecidableEq, Repr

abbrev AccessProgram := Program AccessQuery

abbrev AdminResult := Except AdminError (Option AdminView)

section

variable (rules : EmailRules)

/-! ## The repository -/

namespace AdminAllowlistRepository

def findActiveByProviderEmail (provider : OAuthProvider) (email : String) :
    AccessProgram (Option AccessAllowlistEntity) :=
  if rules.normalizeEmail email = "" then pure none
  else .perform (.findActiveAllowlist provider (rules.normalizeEmail email))

def findByProviderEmail (provider : OAuthProvider) (email : String) :
    AccessProgram (Option AccessAllowlistEntity) :=
  if rules.normalizeEmail email = "" then pure none
  else .perform (.findAllowlist provider (rules.normalizeEmail email))

/-- The new row, or none where the address is taken. -/
def createAdmin (provider : OAuthProvider) (email : String) (role : AccessRole)
    (actorId : Option String) : AccessProgram (Option AccessAllowlistEntity) := do
  let invitedAt ← .perform .now
  let entity : AccessAllowlistEntity :=
    { provider, email := rules.normalizeEmail email, role, invitedByUserId := actorId, invitedAt
      revokedAt := none, revokedByUserId := none }
  let inserted ← .perform (.insertAllowlist entity)
  return if inserted then some entity else none

/-- An update of one row, which is read back if there was one. -/
def update (provider : OAuthProvider) (email : String) (revoked : Bool)
    (change : AllowlistChange) : AccessProgram (Option AccessAllowlistEntity) := do
  let affected ← .perform (.updateAllowlist provider email revoked change)
  if affected = 0 then return none else .perform (.findAllowlist provider email)

def restore (provider : OAuthProvider) (email : String) (actorId : Option String)
    (role : AccessRole := .admin) : AccessProgram (Option AccessAllowlistEntity) :=
  if rules.normalizeEmail email = "" then pure none
  else do
    let invitedAt ← .perform .now
    update provider (rules.normalizeEmail email) true (.restored actorId invitedAt role)

def updateRole (provider : OAuthProvider) (email : String) (role : AccessRole) :
    AccessProgram (Option AccessAllowlistEntity) :=
  if rules.normalizeEmail email = "" then pure none
  else update provider (rules.normalizeEmail email) false (.setRole role)

def softRevoke (provider : OAuthProvider) (email : String) (actorId : String) :
    AccessProgram (Option AccessAllowlistEntity) :=
  if rules.normalizeEmail email = "" then pure none
  else do
    let revokedAt ← .perform .now
    update provider (rules.normalizeEmail email) false (.revoked revokedAt actorId)

end AdminAllowlistRepository

/-! ## The service -/

open AdminAllowlistRepository

/-- Who asks for a change. -/
structure Actor where
  id : String
  email : Option String
  deriving DecidableEq, Repr

def Actor.normalizedEmail (actor : Actor) : Option String :=
  (actor.email.filter (· ≠ "")).map rules.normalizeEmail

def normalizeEmailOrThrow (email : String) : Except AdminError String :=
  if rules.normalizeEmail email = "" || !rules.isEmail (rules.normalizeEmail email)
    then .error (.http .badRequest "A valid email address is required.")
    else .ok (rules.normalizeEmail email)

/-- Addresses of users, by their identifiers. -/
abbrev EmailByUserId := String → Option String

def actorEmailMap (actor : Actor) : EmailByUserId := fun id =>
  if id = actor.id then actor.normalizedEmail rules else none

def toAdminView (row : AccessAllowlistEntity) (emailByUserId : EmailByUserId) : AdminView where
  provider := row.provider
  email := row.email
  role := row.role
  invitedAt := row.invitedAt
  invitedByEmail := row.invitedByUserId.bind emailByUserId
  revokedAt := row.revokedAt
  revokedByEmail := row.revokedByUserId.bind emailByUserId

/-- Adds the address of a user to the map, unless it has it. -/
def withUserEmail (known : EmailByUserId) : Option String → AccessProgram EmailByUserId
  | none => pure known
  | some id =>
      if (known id).isSome then pure known
      else do
        let user ← .perform (.findUserById id)
        return fun other => if other = id
          then ((user.bind (·.email)).filter (· ≠ "")).map rules.normalizeEmail
          else known other

def resolveActorEmailMap (actor : Actor) (row : AccessAllowlistEntity) :
    AccessProgram EmailByUserId := do
  let inviter ← withUserEmail rules (actorEmailMap rules actor) row.invitedByUserId
  withUserEmail rules inviter row.revokedByUserId

def noActiveAdmin : AdminError := .http .notFound "No active admin was found with this email."

def addAdmin (actor : Actor) (provider : OAuthProvider) (email : String)
    (role : Option AccessRole) : AccessProgram AdminResult :=
  match normalizeEmailOrThrow rules email with
  | .error error => pure (.error error)
  | .ok targetEmail => do
    match ← findByProviderEmail rules provider targetEmail with
    | some existing =>
        if existing.revokedAt.isNone
          then return .error (.http .conflict "An admin with this email already has access.")
          else return .error (.http .conflict
            "This admin was removed before. Restore their access instead.")
    | none =>
        match ← createAdmin rules provider targetEmail (role.getD .admin) (some actor.id) with
        | some created => return .ok (some (toAdminView created (actorEmailMap rules actor)))
        | none => return .error (.http .conflict
            "This admin already exists. Refresh the page and try again.")

def restoreAdmin (actor : Actor) (provider : OAuthProvider) (email : String) :
    AccessProgram AdminResult :=
  match normalizeEmailOrThrow rules email with
  | .error error => pure (.error error)
  | .ok targetEmail => do
    match ← restore rules provider targetEmail (some actor.id) with
    | some restored => return .ok (some (toAdminView restored (actorEmailMap rules actor)))
    | none => return .error (.http .notFound "No removed admin was found with this email.")

/-- The write of a change of role, after the checks. -/
def writeRole (actor : Actor) (provider : OAuthProvider) (targetEmail : String)
    (role : AccessRole) : AccessProgram AdminResult := do
  match ← AdminAllowlistRepository.updateRole rules provider targetEmail role with
  | some updated =>
      let emails ← resolveActorEmailMap rules actor updated
      return .ok (some (toAdminView updated emails))
  | none => return .error noActiveAdmin

def updateRole (actor : Actor) (provider : OAuthProvider) (email : String) (role : AccessRole) :
    AccessProgram AdminResult :=
  match normalizeEmailOrThrow rules email with
  | .error error => pure (.error error)
  | .ok targetEmail => do
    match ← findActiveByProviderEmail rules provider targetEmail with
    | none => return .error noActiveAdmin
    | some existing =>
        if existing.role = role then
          let emails ← resolveActorEmailMap rules actor existing
          return .ok (some (toAdminView existing emails))
        else if existing.role = .owner then
          if actor.normalizedEmail rules = some targetEmail then
            return .error (.http .forbidden "Owners cannot change their own role.")
          else
            let owners ← .perform (.countActiveOwners provider)
            if owners ≤ 1 then
              return .error (.http .forbidden "The last owner must remain an owner.")
            else writeRole rules actor provider targetEmail role
        else writeRole rules actor provider targetEmail role

/-- The revocation of a row and of the sessions of its user, after the checks. -/
def writeRemoval (actor : Actor) (provider : OAuthProvider) (targetEmail : String) :
    AccessProgram AdminResult := do
  match ← softRevoke rules provider targetEmail actor.id with
  | none => return .error noActiveAdmin
  | some _ =>
      if rules.normalizeEmail targetEmail = "" then return .ok none
      else
        match ← .perform (.findUserByProviderEmail provider (rules.normalizeEmail targetEmail)) with
        | none => return .ok none
        | some targetUser =>
            let _ ← .perform (.revokeUserSessions targetUser.id)
            return .ok none

def removeAdmin (actor : Actor) (provider : OAuthProvider) (email : String) :
    AccessProgram AdminResult :=
  match normalizeEmailOrThrow rules email with
  | .error error => pure (.error error)
  | .ok targetEmail =>
      if actor.normalizedEmail rules = some targetEmail then
        pure (.error (.http .forbidden "You cannot remove yourself."))
      else do
        match ← findActiveByProviderEmail rules provider targetEmail with
        | none => return .error noActiveAdmin
        | some existing =>
            if existing.role = .owner then
              let owners ← .perform (.countActiveOwners provider)
              if owners ≤ 1 then
                return .error (.http .forbidden "The last owner cannot be removed.")
              else writeRemoval rules actor provider targetEmail
            else writeRemoval rules actor provider targetEmail

/-- The owner of the configuration, with a lowered and trimmed address. -/
structure OwnerConfig where
  ownerEmail : Option String
  ownerProvider : OAuthProvider

def seedOwner (config : OwnerConfig) : AccessProgram AdminResult :=
  match config.ownerEmail with
  | none => pure (.ok none)
  | some ownerEmail => do
    match ← findByProviderEmail rules config.ownerProvider ownerEmail with
    | some existing =>
        if existing.revokedAt.isNone then
          if existing.role = .owner then return .ok none
          else
            return .error (.ownerEmailConflict config.ownerProvider ownerEmail existing.email)
        else
          let _ ← restore rules config.ownerProvider ownerEmail none .owner
          return .ok none
    | none =>
        match ← createAdmin rules config.ownerProvider ownerEmail .owner none with
        | some _ => return .ok none
        | none => return .error .duplicateKey

/-! ## Calls -/

inductive AdminCall where
  | addAdmin (actor : Actor) (provider : OAuthProvider) (email : String)
      (role : Option AccessRole)
  | restoreAdmin (actor : Actor) (provider : OAuthProvider) (email : String)
  | updateRole (actor : Actor) (provider : OAuthProvider) (email : String) (role : AccessRole)
  | removeAdmin (actor : Actor) (provider : OAuthProvider) (email : String)
  | seedOwner (config : OwnerConfig)

def AdminCall.program : AdminCall → AccessProgram AdminResult
  | .addAdmin actor provider email role => Access.addAdmin rules actor provider email role
  | .restoreAdmin actor provider email => Access.restoreAdmin rules actor provider email
  | .updateRole actor provider email role => Access.updateRole rules actor provider email role
  | .removeAdmin actor provider email => Access.removeAdmin rules actor provider email
  | .seedOwner config => Access.seedOwner rules config

end

end Reputo.Access

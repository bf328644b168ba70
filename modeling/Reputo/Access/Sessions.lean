import Reputo.Access.Database

/-!
# The session repository

A refresh of a session loads the row in one query and saves it in a later one, with all
its columns; revocations are single updates of rows that are not revoked.
-/

namespace Reputo.Access

open Reputo.Library

structure AuthSessionUpdateAfterRefreshInput where
  accessTokenCiphertext : Option String := none
  refreshTokenCiphertext : Option String := none
  accessTokenExpiresAt : Option Nat := none
  refreshTokenExpiresAt : Option Nat := none
  scope : Option (List String) := none
  lastRefreshedAt : Option Nat := none
  expiresAt : Option Nat := none
  deriving DecidableEq, Repr

/-- The loaded row with the columns that the update provides. -/
def AuthSessionUpdateAfterRefreshInput.assign (update : AuthSessionUpdateAfterRefreshInput)
    (entity : AuthSessionEntity) : AuthSessionEntity :=
  { entity with
    accessTokenCiphertext := update.accessTokenCiphertext.getD entity.accessTokenCiphertext
    refreshTokenCiphertext := update.refreshTokenCiphertext.getD entity.refreshTokenCiphertext
    accessTokenExpiresAt := update.accessTokenExpiresAt.getD entity.accessTokenExpiresAt
    refreshTokenExpiresAt := update.refreshTokenExpiresAt.getD entity.refreshTokenExpiresAt
    scope := update.scope.getD entity.scope
    lastRefreshedAt := update.lastRefreshedAt.or entity.lastRefreshedAt
    expiresAt := update.expiresAt.getD entity.expiresAt }

namespace AuthSessionRepository

def findActiveBySessionId (sessionId : String) : Program AccessQuery (Option AuthSessionEntity) :=
  .perform (.findActiveSession sessionId)

def updateAfterRefresh (sessionId : String) (update : AuthSessionUpdateAfterRefreshInput) :
    Program AccessQuery (Option AuthSessionEntity) := do
  match ← .perform (.findActiveSession sessionId) with
  | none => return none
  | some entity =>
      let _ ← .perform (.saveSession (update.assign entity))
      return some (update.assign entity)

def revokeBySessionId (sessionId : String) : Program AccessQuery Unit :=
  .perform (.revokeSession sessionId)

def revokeAllByUserId (userId : String) : Program AccessQuery Nat :=
  .perform (.revokeUserSessions userId)

end AuthSessionRepository

/-! ## Rows after the writes -/

section Writes

variable {db : AccessDatabase} {sessionId : String}

theorem sessionId_revoke (revokedAt : Nat) (row : AuthSessionEntity) :
    (row.revoke revokedAt).sessionId = row.sessionId :=
  rfl

theorem findSession_revokeSession (other : String) :
    (revokeSession db other).auth_sessions.find? sessionId =
      (db.auth_sessions.find? sessionId).map fun row =>
        if row.sessionId = other && row.revokedAt.isNone then row.revoke db.clock else row := by
  rw [revokeSession]
  exact Table.find?_modify (sessionId_revoke db.clock)

theorem findSession_revokeUserSessions (userId : String) :
    (revokeUserSessions db userId).2.auth_sessions.find? sessionId =
      (db.auth_sessions.find? sessionId).map fun row =>
        if row.userId = userId && row.isActive db.clock then row.revoke db.clock else row := by
  rw [revokeUserSessions]
  exact Table.find?_modify (sessionId_revoke db.clock)

theorem findSession_saveSession (entity : AuthSessionEntity) :
    (saveSession db entity).auth_sessions.find? sessionId =
      if sessionId = entity.sessionId then some entity else db.auth_sessions.find? sessionId := by
  rw [saveSession]
  split
  · rename_i same
    rw [same]
    exact Table.find?_upsert_self _ _
  · rename_i different
    exact Table.find?_upsert_of_ne _ different

theorem not_isActive_revoke (now revokedAt : Nat) (row : AuthSessionEntity) :
    (row.revoke revokedAt).isActive now = false :=
  rfl

theorem findActiveSession_eq_none : findActiveSession db sessionId = none ↔
    ∀ row, db.auth_sessions.find? sessionId = some row → row.isActive db.clock = false := by
  rw [findActiveSession, Option.filter_eq_none_iff]
  simp only [Bool.not_eq_true]

end Writes

end Reputo.Access

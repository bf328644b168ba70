import Reputo.Access.Sessions

/-!
# Revoked sessions

A session that has been revoked is not found again, as long as no row of it that was
loaded before is saved while it has not expired: the save of a refresh writes back the
columns that say the session is not revoked.
-/

namespace Reputo.Access

open Reputo.Library

/-! ## The system -/

/-- The database, and the sessions that were ever revoked. -/
structure RevocationStore where
  db : AccessDatabase
  revoked : List String

/-- The sessions whose rows say that they are revoked. -/
def revokedSessions (db : AccessDatabase) : List String :=
  (db.auth_sessions.rows.filter (·.revokedAt.isSome)).map (·.sessionId)

/-- A query, after which all revocations are noted. -/
def handleNoting : Handler AccessQuery RevocationStore := fun query store =>
  ((query.handle store.db).1, { db := (query.handle store.db).2
                                revoked := store.revoked ++ revokedSessions (query.handle store.db).2 })

inductive SessionCall where
  | updateAfterRefresh (sessionId : String) (update : AuthSessionUpdateAfterRefreshInput)
  | revokeBySessionId (sessionId : String)
  | revokeAllByUserId (userId : String)
  | findActiveBySessionId (sessionId : String)

def SessionCall.program : SessionCall → Program AccessQuery Unit
  | .updateAfterRefresh sessionId update => do
      let _ ← AuthSessionRepository.updateAfterRefresh sessionId update
  | .revokeBySessionId sessionId => AuthSessionRepository.revokeBySessionId sessionId
  | .revokeAllByUserId userId => do
      let _ ← AuthSessionRepository.revokeAllByUserId userId
  | .findActiveBySessionId sessionId => do
      let _ ← AuthSessionRepository.findActiveBySessionId sessionId

/-- Time passes. -/
def RevocationStore.tick (elapsed : Nat) (store : RevocationStore) : RevocationStore :=
  { store with db := { store.db with clock := store.db.clock + elapsed } }

abbrev RevocationState := Pool RevocationStore AccessQuery Unit

def performSession : RevocationState → PoolAction SessionCall Nat → Option RevocationState :=
  Pool.perform handleNoting SessionCall.program RevocationStore.tick

/-- Any requests at once, on any sessions. -/
def sessionSystem : System RevocationState (PoolAction SessionCall Nat) :=
  Pool.system handleNoting SessionCall.program RevocationStore.tick fun store =>
    store.revoked = revokedSessions store.db

/-- No session that was revoked is found. -/
def RevocationFinal (store : RevocationStore) : Prop :=
  ∀ sessionId ∈ store.revoked, findActiveSession store.db sessionId = none

/-- A row of a session that was revoked is saved only if it has expired. -/
def AccessQuery.SavesNoRevoked {α : Type} (store : RevocationStore) : AccessQuery α → Prop
  | .saveSession entity => entity.sessionId ∈ store.revoked →
      entity.isActive store.db.clock = false
  | _ => True

def SavesNoRevoked (state : RevocationState) : PoolAction SessionCall Nat → Prop :=
  state.Meets fun query store => query.SavesNoRevoked store

/-! ## One query -/

section Query

variable {store : RevocationStore}

theorem mem_revokedSessions {db : AccessDatabase} {sessionId : String} :
    sessionId ∈ revokedSessions db ↔
      ∃ row, db.auth_sessions.find? sessionId = some row ∧ row.revokedAt.isSome = true := by
  rw [revokedSessions, List.mem_map]
  constructor
  · intro ⟨row, member, same⟩
    rcases List.mem_filter.mp member with ⟨stored, revoked⟩
    exact ⟨row, Table.find?_eq_some_iff.mpr ⟨stored, same⟩, revoked⟩
  · intro ⟨row, found, revoked⟩
    rcases Table.find?_eq_some_iff.mp found with ⟨stored, same⟩
    exact ⟨row, List.mem_filter.mpr ⟨stored, revoked⟩, same⟩

/-- A session whose row says so is not found. -/
theorem findActiveSession_of_revoked {db : AccessDatabase} {sessionId : String}
    (revoked : sessionId ∈ revokedSessions db) : findActiveSession db sessionId = none := by
  rcases mem_revokedSessions.mp revoked with ⟨row, found, isRevoked⟩
  apply findActiveSession_eq_none.mpr
  intro other same
  cases found.symm.trans same
  rcases Option.isSome_iff_exists.mp isRevoked with ⟨revokedAt, at_that_time⟩
  rw [AuthSessionEntity.isActive, at_that_time]
  rfl

theorem RevocationFinal.tick (final : RevocationFinal store) (elapsed : Nat) :
    RevocationFinal (store.tick elapsed) := by
  intro sessionId member
  apply findActiveSession_eq_none.mpr
  intro row found
  have inactive := findActiveSession_eq_none.mp (final sessionId member) row found
  rw [AuthSessionEntity.isActive, Bool.and_eq_false_iff, decide_eq_false_iff_not] at inactive ⊢
  rcases inactive with revoked | expired
  · exact Or.inl revoked
  · exact Or.inr fun later => expired (Nat.lt_of_le_of_lt (Nat.le_add_right _ elapsed) later)

/-- A query keeps the revocations final if those noted before it stay so. -/
theorem revocationFinal_handle {α : Type} {query : AccessQuery α} :
    RevocationFinal (handleNoting query store).2 ↔
      ∀ sessionId ∈ store.revoked, findActiveSession (query.handle store.db).2 sessionId = none := by
  constructor
  · exact fun final sessionId member => final sessionId (List.mem_append_left _ member)
  · intro kept sessionId member
    rcases List.mem_append.mp member with old | new
    · exact kept sessionId old
    · exact findActiveSession_of_revoked new

/-- A query keeps the revocations final exactly if it saves no revoked session. -/
theorem revocationFinal_iff {α : Type} (query : AccessQuery α) (final : RevocationFinal store) :
    RevocationFinal (handleNoting query store).2 ↔ query.SavesNoRevoked store := by
  rw [revocationFinal_handle]
  cases query with
  | saveSession entity =>
      constructor
      · intro kept member
        apply findActiveSession_eq_none.mp (kept _ member) entity
        rw [AccessQuery.handle, findSession_saveSession, if_pos rfl]
      · intro saves sessionId member
        apply findActiveSession_eq_none.mpr
        intro row found
        rw [AccessQuery.handle, findSession_saveSession] at found
        split at found
        · rename_i same
          cases found
          exact saves (same ▸ member)
        · exact findActiveSession_eq_none.mp (final sessionId member) row found
  | revokeSession other =>
      refine ⟨fun _ => trivial, ?_⟩
      intro _ sessionId member
      apply findActiveSession_eq_none.mpr
      intro row found
      rw [AccessQuery.handle, findSession_revokeSession] at found
      rcases Option.map_eq_some_iff.mp found with ⟨stored, before, rfl⟩
      split
      · rfl
      · exact findActiveSession_eq_none.mp (final sessionId member) stored before
  | revokeUserSessions userId =>
      refine ⟨fun _ => trivial, ?_⟩
      intro _ sessionId member
      apply findActiveSession_eq_none.mpr
      intro row found
      rw [AccessQuery.handle, findSession_revokeUserSessions] at found
      rcases Option.map_eq_some_iff.mp found with ⟨stored, before, rfl⟩
      split
      · rfl
      · exact findActiveSession_eq_none.mp (final sessionId member) stored before
  | _ => exact ⟨fun _ => trivial, fun _ => final⟩

end Query

section Sample

private def signedIn (sessionId : String) : RevocationStore where
  db :=
    { clock := 10
      oauth_users := .empty
      access_allowlist := .empty
      auth_sessions := Table.empty.insertOrIgnore
        { sessionId, provider := .deepId, userId := "u1", accessTokenCiphertext := "a1"
          refreshTokenCiphertext := "r1", accessTokenExpiresAt := 20, refreshTokenExpiresAt := 90
          scope := [], state := "st", codeVerifier := "cv", lastRefreshedAt := none
          revokedAt := none, expiresAt := 90 } }
  revoked := []

/-- A refresh, and a logout after its save. -/
private def refreshThenLogout (sessionId : String) : List (PoolAction SessionCall Nat) :=
  [.start (.updateAfterRefresh sessionId { refreshTokenCiphertext := some "r2" }), .proceed 0,
    .proceed 0, .environment 5, .start (.revokeBySessionId sessionId), .proceed 1]

private theorem signedIn_initial {sessionId : String}
    (none_revoked : revokedSessions (signedIn sessionId).db = []) :
    ∀ permitted, sessionSystem.Reachable permitted ⟨signedIn sessionId, []⟩ :=
  fun _ => .start ⟨none_revoked.symm, rfl⟩

instance (state : RevocationState) (action : PoolAction SessionCall Nat) :
    Decidable (SavesNoRevoked state action) :=
  have (store : RevocationStore) {α : Type} (query : AccessQuery α) :
      Decidable (query.SavesNoRevoked store) :=
    match query with
    | .saveSession entity => inferInstanceAs (Decidable (entity.sessionId ∈ store.revoked →
        entity.isActive store.db.clock = false))
    | .now | .findAllowlist .. | .findActiveAllowlist .. | .countActiveOwners _
    | .insertAllowlist _ | .updateAllowlist .. | .findUserById _ | .findUserByProviderEmail ..
    | .findActiveSession _ | .revokeSession _ | .revokeUserSessions _ => isTrue trivial
  inferInstanceAs (Decidable (state.Meets (fun query store => query.SavesNoRevoked store) action))

/-- The logout comes between the query and the save of the refresh. -/
private def logoutBetween (sessionId : String) : List (PoolAction SessionCall Nat) :=
  [.start (.updateAfterRefresh sessionId { refreshTokenCiphertext := some "r2" }), .proceed 0,
    .start (.revokeBySessionId sessionId), .proceed 1, .proceed 0]

end Sample

end Reputo.Access

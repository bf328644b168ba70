import Reputo.Access.RefreshStages

/-!
# Newest refresh tokens

The newest refresh token of a session is in its row, or with the one request that is about
to store it; no other copy has it then.  Every move between stages keeps this, if whoever
is refused or expired sees the refresh that was stored.
-/

namespace Reputo.Access

open Reputo.Library

/-! ## Tokens at the stages -/

/-- The copy with which a request may still ask for new tokens. -/
def RefreshStage.copy : RefreshStage → Option AuthSessionEntity
  | .check _ session | .join _ session | .ask _ session => some session
  | _ => none

/-- The session whose newest refresh token a request is about to store. -/
def RefreshStage.storing : RefreshStage → Option String
  | .accept _ session _ | .find _ session _ _ | .save _ session _ _ _ => some session.sessionId
  | _ => none

/-- Some request is about to store the newest refresh token of a session. -/
def Pending (stages : List RefreshStage) (sessionId : String) : Prop :=
  ∃ position, labelAt RefreshStage.storing stages position = some sessionId

/-- What a request at a stage knows. -/
def RefreshStage.Sound (rotation : TokenRotation) (store : RefreshStore) : RefreshStage → Prop
  | .accept _ session tokenResponse | .find _ session tokenResponse _ =>
      tokenResponse.refresh_token =
        some (rotation.issue session.sessionId (store.generation session.sessionId))
  | .save _ session tokenResponse _ entity =>
      tokenResponse.refresh_token =
          some (rotation.issue session.sessionId (store.generation session.sessionId)) ∧
        entity.sessionId = session.sessionId ∧ entity.revokedAt = none
  | .revoke _ session => session.sessionId ∈ store.ended
  | _ => True

section

variable (config : AuthConfig) (rotation : TokenRotation)

/-- A row with a token that was issued, which is not the newest one while a request is
about to store that. -/
structure TokenSound (store : RefreshStore) (pending : String → Prop)
    (row : AuthSessionEntity) : Prop where
  known : (store.db.auth_sessions.find? row.sessionId).isSome = true
  issued : ∀ number, config.cipher.decryptValue row.refreshTokenCiphertext =
    some (rotation.issue row.sessionId number) → number ≤ store.generation row.sessionId
  waiting : pending row.sessionId → ¬ HoldsNewest config rotation store row

/-- The stored row of a session. -/
structure RowSound (store : RefreshStore) (pending : String → Prop)
    (row : AuthSessionEntity) : Prop extends TokenSound config rotation store pending row where
  expires : row.revokedAt = none → row.expiresAt ≤ row.refreshTokenExpiresAt
  alive : row.sessionId ∉ store.ended →
    row.revokedAt = none ∧ (HoldsNewest config rotation store row ∨ pending row.sessionId)

/-- What holds of the sessions and the requests throughout. -/
structure RefreshSteady (store : RefreshStore) (stages : List RefreshStage) : Prop where
  rows : ∀ sessionId row, store.db.auth_sessions.find? sessionId = some row →
    RowSound config rotation store (Pending stages) row
  copies : ∀ stage ∈ stages, ∀ session ∈ stage.copy,
    TokenSound config rotation store (Pending stages) session
  facts : ∀ stage ∈ stages, stage.Sound rotation store
  unique : ∀ first second sessionId, labelAt RefreshStage.storing stages first = some sessionId →
    labelAt RefreshStage.storing stages second = some sessionId → first = second
  rotated : ∀ sessionId, 0 < store.generation sessionId →
    (store.db.auth_sessions.find? sessionId).isSome = true

end

/-- Sessions that have expired are noted. -/
def RefreshStore.Noted (store : RefreshStore) : Prop :=
  ∀ sessionId row, store.db.auth_sessions.find? sessionId = some row →
    row.revokedAt = none → row.expiresAt ≤ store.db.clock → sessionId ∈ store.ended

section Steady

variable {config : AuthConfig} {rotation : TokenRotation} {store after : RefreshStore}
  {stages : List RefreshStage} {stage later : RefreshStage} {position : Nat}

theorem pending_congr {others : List RefreshStage}
    (same : ∀ other, labelAt RefreshStage.storing others other =
      labelAt RefreshStage.storing stages other) :
    Pending others = Pending stages := by
  funext sessionId
  simp only [Pending, same]

/-- A request goes on and stores nothing else than before. -/
theorem RefreshSteady.set (steady : RefreshSteady config rotation store stages)
    (located : stages[position]? = some stage) (same : later.storing = stage.storing)
    (copies : ∀ session ∈ later.copy, TokenSound config rotation store (Pending stages) session)
    (facts : later.Sound rotation store) :
    RefreshSteady config rotation store (stages.set position later) := by
  have unchanged := labelAt_set_same located same
  constructor
  · rw [pending_congr unchanged]
    exact steady.rows
  · rw [pending_congr unchanged]
    intro other member
    rcases List.mem_or_eq_of_mem_set member with old | new
    · exact steady.copies other old
    · rw [new]
      exact copies
  · intro other member
    rcases List.mem_or_eq_of_mem_set member with old | new
    · exact steady.facts other old
    · rw [new]
      exact facts
  · intro first second sessionId atFirst atSecond
    rw [unchanged] at atFirst atSecond
    exact steady.unique first second sessionId atFirst atSecond
  · exact steady.rotated

/-- A request starts. -/
theorem RefreshSteady.append (steady : RefreshSteady config rotation store stages)
    (replica : Nat) (sessionId : String) :
    RefreshSteady config rotation store (stages ++ [.load replica sessionId]) := by
  have unchanged : ∀ other, labelAt RefreshStage.storing (stages ++ [.load replica sessionId])
      other = labelAt RefreshStage.storing stages other := labelAt_append rfl
  constructor
  · rw [pending_congr unchanged]
    exact steady.rows
  · rw [pending_congr unchanged]
    intro other member
    rcases List.mem_append.mp member with old | new
    · exact steady.copies other old
    · rw [List.mem_singleton.mp new]
      exact fun _ nothing => by cases nothing
  · intro other member
    rcases List.mem_append.mp member with old | new
    · exact steady.facts other old
    · rw [List.mem_singleton.mp new]
      trivial
  · intro first second sessionId atFirst atSecond
    rw [unchanged] at atFirst atSecond
    exact steady.unique first second sessionId atFirst atSecond
  · exact steady.rotated

/-- Rows are only revoked, and only those of sessions that have ended. -/
structure RefreshStore.OnlyEnds (store after : RefreshStore) : Prop where
  rows : ∀ sessionId row, after.db.auth_sessions.find? sessionId = some row →
    ∃ old, store.db.auth_sessions.find? sessionId = some old ∧
      (row = old ∨ ∃ revokedAt, row = old.revoke revokedAt ∧ old.sessionId ∈ after.ended)
  known : ∀ sessionId, (store.db.auth_sessions.find? sessionId).isSome = true →
    (after.db.auth_sessions.find? sessionId).isSome = true
  generation : after.generation = store.generation
  ended : ∀ sessionId ∈ store.ended, sessionId ∈ after.ended

theorem HoldsNewest.congr {row : AuthSessionEntity} (same : after.generation = store.generation) :
    HoldsNewest config rotation after row ↔ HoldsNewest config rotation store row := by
  rw [HoldsNewest, HoldsNewest, same]

theorem TokenSound.onlyEnds {pending : String → Prop} {row : AuthSessionEntity}
    (ends : store.OnlyEnds after) (sound : TokenSound config rotation store pending row) :
    TokenSound config rotation after pending row := by
  constructor
  · exact ends.known _ sound.known
  · rw [ends.generation]
    exact sound.issued
  · rw [HoldsNewest.congr ends.generation]
    exact sound.waiting

theorem RefreshSteady.onlyEnds (ends : store.OnlyEnds after)
    (steady : RefreshSteady config rotation store stages) :
    RefreshSteady config rotation after stages := by
  constructor
  · intro sessionId row found
    rcases ends.rows sessionId row found with ⟨old, before, same | ⟨revokedAt, revoked, hasEnded⟩⟩
    · have sound := steady.rows sessionId old before
      rw [same]
      refine ⟨sound.toTokenSound.onlyEnds ends, sound.expires, ?_⟩
      rw [HoldsNewest.congr ends.generation]
      exact fun goingOn => sound.alive fun already => goingOn (ends.ended _ already)
    · have sound := (steady.rows sessionId old before).toTokenSound.onlyEnds ends
      rw [revoked]
      exact ⟨⟨sound.known, sound.issued, sound.waiting⟩, nofun, fun goingOn => absurd hasEnded goingOn⟩
  · exact fun stage member session held => (steady.copies stage member session held).onlyEnds ends
  · intro stage member
    have sound := steady.facts stage member
    cases stage with
    | revoke replica session => exact ends.ended _ sound
    | accept | find | save =>
        rw [RefreshStage.Sound, ends.generation]
        exact sound
    | _ => trivial
  · exact steady.unique
  · intro sessionId accepted
    rw [ends.generation] at accepted
    exact ends.known _ (steady.rotated sessionId accepted)

theorem mem_expiredSessions {db : AccessDatabase} {sessionId : String} {row : AuthSessionEntity}
    (found : db.auth_sessions.find? sessionId = some row) (going : row.revokedAt = none)
    (expired : row.expiresAt ≤ db.clock) : sessionId ∈ expiredSessions db := by
  rcases Table.find?_eq_some_iff.mp found with ⟨member, same⟩
  rw [expiredSessions, List.mem_map]
  refine ⟨row, List.mem_filter.mpr ⟨member, ?_⟩, same⟩
  rw [going, decide_eq_true expired]
  rfl

theorem noted_noteExpired : store.noteExpired.Noted :=
  fun _ _ found going expired =>
    List.mem_append_right _ (mem_expiredSessions found going expired)

theorem onlyEnds_noteExpired : store.OnlyEnds store.noteExpired where
  rows _ row found := ⟨row, found, Or.inl rfl⟩
  known _ found := found
  generation := rfl
  ended _ := List.mem_append_left _

theorem RefreshStore.Noted.onlyEnds (ends : store.OnlyEnds after)
    (sameClock : after.db.clock = store.db.clock) (noted : store.Noted) : after.Noted := by
  intro sessionId row found going expired
  rcases ends.rows sessionId row found with ⟨old, before, same | ⟨revokedAt, revoked, _⟩⟩
  · rw [same] at going expired
    rw [sameClock] at expired
    exact ends.ended _ (noted sessionId old before going expired)
  · rw [revoked] at going
    cases going

theorem onlyEnds_of_same (sameSessions : after.db.auth_sessions = store.db.auth_sessions)
    (sameTokens : after.generation = store.generation) (sameEnds : after.ended = store.ended) :
    store.OnlyEnds after := by
  refine ⟨?_, ?_, sameTokens, ?_⟩
  · intro sessionId row found
    rw [sameSessions] at found
    exact ⟨row, found, Or.inl rfl⟩
  · intro sessionId known
    rw [sameSessions]
    exact known
  · rw [sameEnds]
    exact fun _ hasEnded => hasEnded

/-- A session that has ended is revoked. -/
theorem onlyEnds_revokeSession {sessionId : String}
    (revoked : after.db = revokeSession store.db sessionId)
    (sameTokens : after.generation = store.generation)
    (grown : ∀ other ∈ store.ended, other ∈ after.ended)
    (hasEnded : ∀ row, store.db.auth_sessions.find? sessionId = some row → sessionId ∈ after.ended) :
    store.OnlyEnds after := by
  refine ⟨?_, ?_, sameTokens, grown⟩
  · intro other row found
    rw [revoked, findSession_revokeSession, Option.map_eq_some_iff] at found
    rcases found with ⟨old, before, same⟩
    refine ⟨old, before, ?_⟩
    split at same
    · rename_i concerned
      rw [Bool.and_eq_true, decide_eq_true_iff] at concerned
      have key : old.sessionId = other := (Table.find?_eq_some_iff.mp before).2
      rw [concerned.1] at key
      rw [← key] at before
      refine Or.inr ⟨_, same.symm, ?_⟩
      rw [concerned.1]
      exact hasEnded old before
    · exact Or.inl same.symm
  · intro other known
    rw [revoked, findSession_revokeSession, Option.isSome_map]
    exact known

theorem onlyEnds_revokeUser {userId : String}
    (revoked : after.db = (revokeUserSessions store.db userId).2)
    (sameTokens : after.generation = store.generation)
    (ended : after.ended = store.ended ++ sessionsOf store.db userId) : store.OnlyEnds after := by
  refine ⟨?_, ?_, sameTokens, ?_⟩
  · intro other row found
    rw [revoked, findSession_revokeUserSessions, Option.map_eq_some_iff] at found
    rcases found with ⟨old, before, same⟩
    refine ⟨old, before, ?_⟩
    split at same
    · rename_i concerned
      rw [Bool.and_eq_true] at concerned
      refine Or.inr ⟨_, same.symm, ?_⟩
      rw [ended]
      apply List.mem_append_right
      exact List.mem_map_of_mem
        (List.mem_filter.mpr ⟨(Table.find?_eq_some_iff.mp before).1, concerned.1⟩)
    · exact Or.inl same.symm
  · intro other known
    rw [revoked, findSession_revokeUserSessions, Option.isSome_map]
    exact known
  · intro other hasEnded
    rw [ended]
    exact List.mem_append_left _ hasEnded

/-- One session fewer is about to be stored. -/
theorem pending_drop {sessionId : String} (steady : RefreshSteady config rotation store stages)
    (located : stages[position]? = some stage) (stored : stage.storing = some sessionId)
    (nothing : later.storing = none) (other : String) :
    Pending (stages.set position later) other ↔ Pending stages other ∧ other ≠ sessionId := by
  have here : labelAt RefreshStage.storing stages position = some sessionId := by
    rw [labelAt_self located, stored]
  constructor
  · intro ⟨spot, storing⟩
    rw [labelAt_set located, nothing] at storing
    split at storing
    · cases storing
    · rename_i elsewhere
      refine ⟨⟨spot, storing⟩, fun same => elsewhere ?_⟩
      rw [same] at storing
      exact steady.unique spot position sessionId storing here
  · intro ⟨⟨spot, storing⟩, different⟩
    refine ⟨spot, ?_⟩
    rw [labelAt_set located, if_neg]
    · exact storing
    · intro same
      rw [same, here] at storing
      exact different (Option.some.inj storing).symm

theorem unique_drop (steady : RefreshSteady config rotation store stages)
    (located : stages[position]? = some stage) (nothing : later.storing = none)
    (first second : Nat) (sessionId : String)
    (atFirst : labelAt RefreshStage.storing (stages.set position later) first = some sessionId)
    (atSecond : labelAt RefreshStage.storing (stages.set position later) second = some sessionId) :
    first = second := by
  rw [labelAt_set located, nothing] at atFirst atSecond
  split at atFirst
  · cases atFirst
  · split at atSecond
    · cases atSecond
    · exact steady.unique first second sessionId atFirst atSecond

/-- A request gives up on a session that has ended. -/
theorem RefreshSteady.drop {sessionId : String}
    (steady : RefreshSteady config rotation store stages)
    (located : stages[position]? = some stage) (stored : stage.storing = some sessionId)
    (nothing : later.storing = none) (noCopy : later.copy = none)
    (facts : later.Sound rotation store)
    (hasEnded : ∀ row, store.db.auth_sessions.find? sessionId = some row → sessionId ∈ store.ended) :
    RefreshSteady config rotation store (stages.set position later) := by
  have fewer := pending_drop steady located stored nothing
  have tokens : ∀ row, TokenSound config rotation store (Pending stages) row →
      TokenSound config rotation store (Pending (stages.set position later)) row :=
    fun _ sound => ⟨sound.known, sound.issued,
      fun pending => sound.waiting ((fewer _).mp pending).1⟩
  constructor
  · intro other row found
    have sound := steady.rows other row found
    have same : row.sessionId = other := (Table.find?_eq_some_iff.mp found).2
    refine ⟨tokens row sound.toTokenSound, sound.expires, fun goingOn => ?_⟩
    rcases sound.alive goingOn with ⟨unrevoked, newest | pending⟩
    · exact ⟨unrevoked, Or.inl newest⟩
    · refine ⟨unrevoked, Or.inr ((fewer _).mpr ⟨pending, fun concerned => ?_⟩)⟩
      rw [same] at concerned goingOn
      rw [concerned] at found goingOn
      exact goingOn (hasEnded row found)
  · intro other member session held
    rcases List.mem_or_eq_of_mem_set member with old | new
    · exact tokens session (steady.copies other old session held)
    · rw [new, noCopy] at held
      cases held
  · intro other member
    rcases List.mem_or_eq_of_mem_set member with old | new
    · exact steady.facts other old
    · rw [new]
      exact facts
  · exact unique_drop steady located nothing
  · exact steady.rotated

/-- The row that a refresh saves has the refresh token that was issued. -/
theorem decrypt_refreshUpdate {session entity : AuthSessionEntity}
    {tokenResponse : OAuthTokenResponse} {token : String} (now : Nat)
    (issued : tokenResponse.refresh_token = some token) (named : token ≠ "") :
    config.cipher.decryptValue
      ((refreshUpdate config now session tokenResponse).assign entity).refreshTokenCiphertext =
        some token := by
  simp only [refreshUpdate, AuthSessionUpdateAfterRefreshInput.assign, issued, Option.filter_some,
    named, ne_eq, not_false_eq_true, decide_true, if_true, Option.getD_some]
  exact config.cipher.decrypt_encrypt token

/-- A request stores the newest refresh token of its session. -/
theorem RefreshSteady.save {updated : AuthSessionEntity}
    (steady : RefreshSteady config rotation store stages)
    (located : stages[position]? = some stage) (stored : stage.storing = some updated.sessionId)
    (nothing : later.storing = none) (noCopy : later.copy = none)
    (facts : later.Sound rotation { store with db := saveSession store.db updated })
    (newest : HoldsNewest config rotation store updated) (unrevoked : updated.revokedAt = none)
    (expires : updated.expiresAt ≤ updated.refreshTokenExpiresAt) :
    RefreshSteady config rotation { store with db := saveSession store.db updated }
      (stages.set position later) := by
  have fewer := pending_drop steady located stored nothing
  have known : ∀ sessionId, (store.db.auth_sessions.find? sessionId).isSome = true →
      ((saveSession store.db updated).auth_sessions.find? sessionId).isSome = true := by
    intro sessionId before
    rw [findSession_saveSession]
    split
    · rfl
    · exact before
  have tokens : ∀ row, TokenSound config rotation store (Pending stages) row →
      TokenSound config rotation { store with db := saveSession store.db updated }
        (Pending (stages.set position later)) row :=
    fun _ sound => ⟨known _ sound.known, sound.issued,
      fun pending => sound.waiting ((fewer _).mp pending).1⟩
  constructor
  · intro sessionId row found
    rw [findSession_saveSession] at found
    split at found
    · cases found
      refine ⟨⟨?_, ?_, ?_⟩, fun _ => expires, fun _ => ⟨unrevoked, Or.inl newest⟩⟩
      · rw [findSession_saveSession, if_pos rfl]
        rfl
      · intro number decrypted
        have same := rotation.issue_injective _ _ _ (Option.some.inj (newest.symm.trans decrypted))
        exact le_of_eq same.symm
      · exact fun pending => absurd rfl ((fewer _).mp pending).2
    · rename_i different
      have sound := steady.rows sessionId row found
      have same : row.sessionId = sessionId := (Table.find?_eq_some_iff.mp found).2
      refine ⟨tokens row sound.toTokenSound, sound.expires, fun goingOn => ?_⟩
      rcases sound.alive goingOn with ⟨active, holds | pending⟩
      · exact ⟨active, Or.inl holds⟩
      · refine ⟨active, Or.inr ((fewer _).mpr ⟨pending, ?_⟩)⟩
        rw [same]
        exact different
  · intro other member session held
    rcases List.mem_or_eq_of_mem_set member with old | new
    · exact tokens session (steady.copies other old session held)
    · rw [new, noCopy] at held
      cases held
  · intro other member
    rcases List.mem_or_eq_of_mem_set member with old | new
    · exact steady.facts other old
    · rw [new]
      exact facts
  · exact unique_drop steady located nothing
  · exact fun sessionId accepted => known _ (steady.rotated sessionId accepted)

/-- A token that was issued stays so, and none is the newest once another is. -/
theorem TokenSound.accept {pending later : String → Prop} {row : AuthSessionEntity}
    {sessionId : String} (more : ∀ other, later other ↔ pending other ∨ other = sessionId)
    (sound : TokenSound config rotation store pending row) :
    TokenSound config rotation (store.accept sessionId) later row := by
  by_cases same : row.sessionId = sessionId
  · refine ⟨sound.known, ?_, ?_⟩
    · intro number decrypted
      rw [same, RefreshStore.accept_generation_self, ← same]
      exact Nat.le_succ_of_le (sound.issued number decrypted)
    · intro _ newest
      have bound := sound.issued _ newest
      rw [same, RefreshStore.accept_generation_self] at bound
      exact Nat.not_succ_le_self _ bound
  · refine ⟨sound.known, ?_, ?_⟩
    · rw [RefreshStore.accept_generation_of_ne _ same]
      exact sound.issued
    · intro held
      rw [HoldsNewest, RefreshStore.accept_generation_of_ne _ same]
      exact sound.waiting (((more _).mp held).resolve_right same)

/-- One session more is about to be stored. -/
theorem pending_add {sessionId : String} (located : stages[position]? = some stage)
    (idle : stage.storing = none) (storing : later.storing = some sessionId) (other : String) :
    Pending (stages.set position later) other ↔ Pending stages other ∨ other = sessionId := by
  constructor
  · intro ⟨spot, held⟩
    rw [labelAt_set located, storing] at held
    split at held
    · exact Or.inr (Option.some.inj held).symm
    · exact Or.inl ⟨spot, held⟩
  · intro held
    rcases held with ⟨spot, held⟩ | same
    · refine ⟨spot, ?_⟩
      rw [labelAt_set located, if_neg]
      · exact held
      · intro here
        rw [here, labelAt_self located, idle] at held
        cases held
    · refine ⟨position, ?_⟩
      rw [labelAt_set located, if_pos rfl, storing, same]

theorem RefreshStage.Sound.accept {sessionId : String} (sound : stage.Sound rotation store)
    (different : stage.storing ≠ some sessionId) :
    stage.Sound rotation (store.accept sessionId) := by
  cases stage with
  | accept replica session | find replica session | save replica session =>
      have other : session.sessionId ≠ sessionId := fun same => different (congrArg some same)
      rw [RefreshStage.Sound, RefreshStore.accept_generation_of_ne _ other]
      exact sound
  | revoke => exact sound
  | _ => trivial

/-- The provider accepts a refresh, and issues the next token of the session. -/
theorem RefreshSteady.accept {session : AuthSessionEntity}
    (steady : RefreshSteady config rotation store stages)
    (located : stages[position]? = some stage) (held : stage.copy = some session)
    (newest : HoldsNewest config rotation store session)
    (storing : later.storing = some session.sessionId) (noCopy : later.copy = none)
    (idle : stage.storing = none)
    (facts : later.Sound rotation (store.accept session.sessionId)) :
    RefreshSteady config rotation (store.accept session.sessionId)
      (stages.set position later) := by
  have own := steady.copies stage (List.mem_of_getElem? located) session held
  have free : ∀ spot, labelAt RefreshStage.storing stages spot ≠ some session.sessionId :=
    fun spot held => own.waiting ⟨spot, held⟩ newest
  have more := pending_add located idle storing
  constructor
  · intro sessionId row found
    have sound := steady.rows sessionId row found
    refine ⟨sound.toTokenSound.accept more, sound.expires, fun goingOn => ?_⟩
    rcases sound.alive goingOn with ⟨active, holds | pending⟩
    · refine ⟨active, ?_⟩
      by_cases same : row.sessionId = session.sessionId
      · exact Or.inr ((more _).mpr (Or.inr same))
      · apply Or.inl
        rw [HoldsNewest, RefreshStore.accept_generation_of_ne _ same]
        exact holds
    · exact ⟨active, Or.inr ((more _).mpr (Or.inl pending))⟩
  · intro other member copy held
    rcases List.mem_or_eq_of_mem_set member with old | new
    · exact (steady.copies other old copy held).accept more
    · rw [new, noCopy] at held
      cases held
  · intro other member
    rcases List.mem_or_eq_of_mem_set member with old | new
    · apply (steady.facts other old).accept
      intro same
      rcases List.getElem?_of_mem old with ⟨spot, there⟩
      apply free spot
      rw [labelAt_self there, same]
    · rw [new]
      exact facts
  · intro first second sessionId atFirst atSecond
    rw [labelAt_set located, storing] at atFirst atSecond
    split at atFirst
    · rename_i here
      split at atSecond
      · rename_i there
        rw [here, there]
      · cases atFirst
        exact absurd atSecond (free second)
    · split at atSecond
      · cases atSecond
        exact absurd atFirst (free first)
      · exact steady.unique first second sessionId atFirst atSecond
  · intro sessionId accepted
    by_cases same : sessionId = session.sessionId
    · rw [same]
      exact own.known
    · rw [RefreshStore.accept_generation_of_ne _ same] at accepted
      exact steady.rotated sessionId accepted

/-- A stage without a copy of its own that stores nothing. -/
theorem RefreshSteady.pass (steady : RefreshSteady config rotation store stages)
    (located : stages[position]? = some stage) (same : later.storing = stage.storing)
    (noCopy : later.copy = none) (facts : later.Sound rotation store) :
    RefreshSteady config rotation store (stages.set position later) := by
  apply steady.set located same _ facts
  rw [noCopy]
  exact nofun

/-- A session that has not ended is found active. -/
theorem ended_of_not_found {sessionId : String}
    (steady : RefreshSteady config rotation store stages) (noted : store.Noted)
    (missing : findActiveSession store.db sessionId = none) (row : AuthSessionEntity)
    (found : store.db.auth_sessions.find? sessionId = some row) : sessionId ∈ store.ended := by
  by_contra goingOn
  have same : row.sessionId = sessionId := (Table.find?_eq_some_iff.mp found).2
  have unrevoked := ((steady.rows sessionId row found).alive (by rw [same]; exact goingOn)).1
  have inactive := findActiveSession_eq_none.mp missing row found
  rw [AuthSessionEntity.isActive, unrevoked, Option.isNone_none, Bool.true_and,
    decide_eq_false_iff_not] at inactive
  exact goingOn (noted sessionId row found unrevoked (Nat.le_of_not_lt inactive))

/-- A request whose copy has expired finds its session ended. -/
theorem ended_of_seesExpired {session : AuthSessionEntity}
    (steady : RefreshSteady config rotation store stages) (noted : store.Noted)
    (sees : (AuthOperation.revokeExpired session).SeesRefresh store) (row : AuthSessionEntity)
    (found : store.db.auth_sessions.find? session.sessionId = some row) :
    session.sessionId ∈ store.ended := by
  rcases sees with hasEnded | expired
  · exact hasEnded
  · by_contra goingOn
    have same : row.sessionId = session.sessionId := (Table.find?_eq_some_iff.mp found).2
    have sound := steady.rows _ row found
    have unrevoked := (sound.alive (by rw [same]; exact goingOn)).1
    rw [found, Option.all_some, decide_eq_true_iff] at expired
    exact goingOn (noted _ row found unrevoked ((sound.expires unrevoked).trans expired))

/-- The condition on the next operation, as one on the stage. -/
def RefreshStage.Sees (store : RefreshStore) : RefreshStage → Prop
  | .expire session => (AuthOperation.revokeExpired session).SeesRefresh store
  | .reread _ session => (AuthOperation.reread session).SeesRefresh store
  | _ => True

theorem RefreshStage.sees {α : Type} {operation : AuthOperation α}
    {next : α → AuthProgram (Option AuthSessionEntity)} {stage : RefreshStage}
    (calls : stage.program config = .call operation next) (sees : operation.SeesRefresh store) :
    stage.Sees store := by
  cases stage with
  | expire | reread =>
      cases calls
      exact sees
  | _ => trivial

/-- A move keeps the sessions and the requests steady. -/
theorem RefreshMove.steady (moves : RefreshMove config rotation store stage later after)
    (sees : stage.Sees store) (steady : RefreshSteady config rotation store stages)
    (noted : store.Noted) (located : stages[position]? = some stage) :
    RefreshSteady config rotation after (stages.set position later) := by
  have member := List.mem_of_getElem? located
  cases moves with
  | loaded found =>
      refine steady.set located rfl ?_ trivial
      intro session held
      cases held
      exact (steady.rows _ _ (Option.filter_eq_some_iff.mp found).1).toTokenSound
  | unknown | fresh | outdated | joined | unavailable | refused | adopted =>
      exact steady.pass located rfl rfl trivial
  | due =>
      refine steady.set located rfl ?_ trivial
      exact (steady.copies _ member :)
  | expired =>
      refine RefreshSteady.onlyEnds ?_ (steady.pass located rfl rfl trivial)
      refine onlyEnds_revokeSession rfl rfl (fun _ hasEnded => hasEnded) ?_
      exact ended_of_seesExpired steady noted sees
  | registered free =>
      refine RefreshSteady.onlyEnds ?_ (steady.set located rfl (steady.copies _ member :) trivial)
      exact onlyEnds_of_same rfl rfl rfl
  | undecryptable | left =>
      refine RefreshSteady.onlyEnds ?_ (steady.pass located rfl rfl trivial)
      exact onlyEnds_of_same rfl rfl rfl
  | accepted newest issued =>
      refine steady.accept located rfl newest rfl rfl rfl ?_
      rw [RefreshStage.Sound, RefreshStore.accept_generation_self]
      exact issued
  | unseen missed => exact steady.pass located rfl rfl (sees.resolve_right missed)
  | revoked =>
      refine RefreshSteady.onlyEnds ?_ (steady.pass located rfl rfl trivial)
      refine onlyEnds_revokeSession rfl rfl (fun _ hasEnded => hasEnded) ?_
      exact fun _ _ => (steady.facts _ member :)
  | timed =>
      refine steady.pass located rfl rfl ?_
      exact (steady.facts _ member :)
  | gone missing =>
      exact steady.drop located rfl rfl rfl trivial (ended_of_not_found steady noted missing)
  | found stored =>
      rcases Option.filter_eq_some_iff.mp stored with ⟨row, active⟩
      rw [AuthSessionEntity.isActive, Bool.and_eq_true] at active
      refine steady.pass located rfl rfl ⟨(steady.facts _ member :), ?_, ?_⟩
      · exact (Table.find?_eq_some_iff.mp row).2
      · exact Option.isNone_iff_eq_none.mp active.1
  | saved rest harmless =>
      rcases steady.facts _ member with ⟨issued, sameSession, unrevoked⟩
      refine steady.save located (congrArg some sameSession.symm) rfl rfl trivial ?_ unrevoked
        (Nat.min_le_left _ _)
      rw [HoldsNewest, decrypt_refreshUpdate _ issued (rotation.issue_ne_empty _ _)]
      exact congrArg (fun key => some (rotation.issue key (store.generation key)))
        sameSession.symm
  | settling sameSessions sameClock sameTokens sameFlights sameEnds =>
      refine RefreshSteady.onlyEnds ?_ (steady.pass located rfl rfl trivial)
      exact onlyEnds_of_same sameSessions sameTokens sameEnds

end Steady

end Reputo.Access

import Mathlib.Data.Finset.Card
import Reputo.Access.Admin

/-!
# The last owner

An operation checks that an owner is not the last one before it demotes or removes the
owner.  Alone, every operation leaves an owner.  When operations take turns, one of them
may take away the owner that the check of another one has counted; an owner is left as
long as every such write still passes the check at the time it is made.
-/

namespace Reputo.Access

open Reputo.Library

/-- Some active row of the provider is an owner. -/
def HasActiveOwner (provider : OAuthProvider) (db : AccessDatabase) : Prop :=
  ∃ row ∈ db.access_allowlist, row.isActiveOwner provider = true

/-- The query demotes or revokes an active owner of the provider. -/
def AccessQuery.takesOwner (provider : OAuthProvider) (db : AccessDatabase) {α : Type} :
    AccessQuery α → Bool
  | .updateAllowlist target email revoked change =>
      (Access.findAllowlist db target email).any fun row =>
        isUpdated target email revoked row && row.isActiveOwner provider &&
          !(change.assign row).isActiveOwner provider
  | _ => false

/-- The check of the service is still passed when an owner is demoted or revoked. -/
def AccessQuery.StillChecked (provider : OAuthProvider) {α : Type} (query : AccessQuery α)
    (db : AccessDatabase) : Prop :=
  query.takesOwner provider db = true → 1 < countActiveOwnerRows db provider

instance (provider : OAuthProvider) {α : Type} (query : AccessQuery α) (db : AccessDatabase) :
    Decidable (query.StillChecked provider db) :=
  inferInstanceAs (Decidable (_ → _))

/-! ## One query -/

section Query

variable {provider : OAuthProvider} {db : AccessDatabase}

theorem findAllowlist_eq_some {target : OAuthProvider} {email : String}
    {row : AccessAllowlistEntity} : findAllowlist db target email = some row ↔
      row ∈ db.access_allowlist ∧ row.provider = target ∧ row.email = email := by
  rw [findAllowlist, Table.find?_eq_some_iff, Prod.mk.injEq]

theorem isUpdated_iff {target : OAuthProvider} {email : String} {revoked : Bool}
    {row : AccessAllowlistEntity} : isUpdated target email revoked row = true ↔
      (row.provider = target ∧ row.email = email) ∧ row.revokedAt.isSome = revoked := by
  rw [isUpdated, Bool.and_eq_true, Bool.and_eq_true, decide_eq_true_iff, decide_eq_true_iff,
    beq_iff_eq]

theorem isActiveOwner_iff {row : AccessAllowlistEntity} : row.isActiveOwner provider = true ↔
    (row.provider = provider ∧ row.role = .owner) ∧ row.revokedAt.isNone = true := by
  rw [AccessAllowlistEntity.isActiveOwner, Bool.and_eq_true, Bool.and_eq_true, decide_eq_true_iff,
    decide_eq_true_iff]

/-- Another owner is counted exactly if there is one. -/
theorem one_lt_countActiveOwnerRows {row : AccessAllowlistEntity}
    (member : row ∈ db.access_allowlist) (owner : row.isActiveOwner provider = true) :
    1 < countActiveOwnerRows db provider ↔
      ∃ other ∈ db.access_allowlist, other ≠ row ∧ other.isActiveOwner provider = true := by
  have nodup : (db.access_allowlist.rows.filter (·.isActiveOwner provider)).Nodup :=
    (List.Nodup.of_map _ db.access_allowlist.keys_nodup).filter _
  rw [countActiveOwnerRows, ← List.toFinset_card_of_nodup nodup]
  constructor
  · intro several
    rcases Finset.exists_mem_ne several row with ⟨other, otherMember, different⟩
    rcases List.mem_filter.mp (List.mem_toFinset.mp otherMember) with ⟨stored, otherOwner⟩
    exact ⟨other, stored, different, otherOwner⟩
  · intro ⟨other, stored, different, otherOwner⟩
    apply Finset.one_lt_card.mpr
    exact ⟨other, List.mem_toFinset.mpr (List.mem_filter.mpr ⟨stored, otherOwner⟩),
      row, List.mem_toFinset.mpr (List.mem_filter.mpr ⟨member, owner⟩), different⟩

/-- An update takes an owner away exactly if it hits one, and makes it something else. -/
theorem takesOwner_update {target : OAuthProvider} {email : String} {revoked : Bool}
    {change : AllowlistChange} :
    (AccessQuery.updateAllowlist target email revoked change).takesOwner provider db = true ↔
      ∃ row ∈ db.access_allowlist, isUpdated target email revoked row = true ∧
        row.isActiveOwner provider = true ∧
        (change.assign row).isActiveOwner provider = false := by
  rw [AccessQuery.takesOwner, Option.any_eq_true]
  constructor
  · intro ⟨row, found, taken⟩
    simp only [Bool.and_eq_true, Bool.not_eq_true'] at taken
    exact ⟨row, (findAllowlist_eq_some.mp found).1, taken.1.1, taken.1.2, taken.2⟩
  · intro ⟨row, member, updated, owner, lost⟩
    refine ⟨row, findAllowlist_eq_some.mpr ⟨member, (isUpdated_iff.mp updated).1⟩, ?_⟩
    rw [updated, owner, lost]
    rfl

theorem mem_updateAllowlist {target : OAuthProvider} {email : String} {revoked : Bool}
    {change : AllowlistChange} {row : AccessAllowlistEntity} :
    row ∈ (updateAllowlist db target email revoked change).2.access_allowlist ↔
      ∃ stored ∈ db.access_allowlist,
        (if isUpdated target email revoked stored then change.assign stored else stored) = row :=
  Table.mem_modify change.key_assign

/-- An update hits one row at most. -/
theorem eq_of_isUpdated {target : OAuthProvider} {email : String} {revoked : Bool}
    {row other : AccessAllowlistEntity} (member : row ∈ db.access_allowlist)
    (otherMember : other ∈ db.access_allowlist)
    (updated : isUpdated target email revoked row = true)
    (otherUpdated : isUpdated target email revoked other = true) : row = other := by
  rcases (isUpdated_iff.mp updated).1 with ⟨sameProvider, sameEmail⟩
  rcases (isUpdated_iff.mp otherUpdated).1 with ⟨otherProvider, otherEmail⟩
  exact Table.eq_of_key_eq member otherMember
    (Prod.ext (sameProvider.trans otherProvider.symm) (sameEmail.trans otherEmail.symm))

/-- An update leaves an owner exactly if it passes the check. -/
theorem hasActiveOwner_update {target : OAuthProvider} {email : String} {revoked : Bool}
    {change : AllowlistChange} (survives : HasActiveOwner provider db) :
    HasActiveOwner provider (updateAllowlist db target email revoked change).2 ↔
      (AccessQuery.updateAllowlist target email revoked change).StillChecked provider db := by
  rw [AccessQuery.StillChecked, takesOwner_update]
  constructor
  · intro ⟨left, leftMember, leftOwner⟩ ⟨row, member, updated, owner, lost⟩
    apply (one_lt_countActiveOwnerRows member owner).mpr
    rcases mem_updateAllowlist.mp leftMember with ⟨other, otherMember, same⟩
    cases alike : isUpdated target email revoked other with
    | true =>
        rw [if_pos alike, eq_of_isUpdated otherMember member alike updated] at same
        rw [same, leftOwner] at lost
        exact nomatch lost
    | false =>
        rw [alike, if_neg Bool.false_ne_true] at same
        rw [← same] at leftOwner
        refine ⟨other, otherMember, ?_, leftOwner⟩
        intro equal
        rw [equal, updated] at alike
        exact nomatch alike
  · intro checked
    cases Classical.em (∃ row ∈ db.access_allowlist, isUpdated target email revoked row = true ∧
      row.isActiveOwner provider = true ∧ (change.assign row).isActiveOwner provider = false) with
    | inl taken =>
        have several := checked taken
        rcases taken with ⟨row, member, updated, owner, _⟩
        rcases (one_lt_countActiveOwnerRows member owner).mp several with
          ⟨other, otherMember, different, otherOwner⟩
        have unhit : ¬ isUpdated target email revoked other = true := fun otherUpdated =>
          different (eq_of_isUpdated otherMember member otherUpdated updated)
        exact ⟨other, mem_updateAllowlist.mpr ⟨other, otherMember, if_neg unhit⟩, otherOwner⟩
    | inr untaken =>
        rcases survives with ⟨row, member, owner⟩
        cases updated : isUpdated target email revoked row with
        | true =>
            refine ⟨change.assign row, mem_updateAllowlist.mpr ⟨row, member, if_pos updated⟩, ?_⟩
            cases kept : (change.assign row).isActiveOwner provider with
            | true => rfl
            | false => exact absurd ⟨row, member, updated, owner, kept⟩ untaken
        | false =>
            have unhit : ¬ isUpdated target email revoked row = true := by
              rw [updated]
              exact Bool.false_ne_true
            exact ⟨row, mem_updateAllowlist.mpr ⟨row, member, if_neg unhit⟩, owner⟩

/-- A query leaves an owner exactly if it passes the check. -/
theorem hasActiveOwner_handle {α : Type} (query : AccessQuery α)
    (survives : HasActiveOwner provider db) :
    HasActiveOwner provider (query.handle db).2 ↔ query.StillChecked provider db := by
  cases query with
  | updateAllowlist target email revoked change => exact hasActiveOwner_update survives
  | insertAllowlist entity =>
      rcases survives with ⟨row, member, owner⟩
      exact ⟨fun _ taken => (nomatch taken),
        fun _ => ⟨row, Table.mem_insertOrIgnore.mpr (Or.inl member), owner⟩⟩
  | _ => exact ⟨fun _ taken => (nomatch taken), fun _ => survives⟩

end Query

/-! ## One operation alone -/

section Alone

variable {provider : OAuthProvider} {db : AccessDatabase} (rules : EmailRules)

/-- The query can take no owner away. -/
def AccessQuery.Harmless : {α : Type} → AccessQuery α → Prop
  | _, .updateAllowlist _ _ revoked change => revoked = true ∨ change = .setRole .owner
  | _, _ => True

theorem AccessQuery.Harmless.stillChecked {α : Type} {query : AccessQuery α}
    (harmless : query.Harmless) : query.StillChecked provider db := by
  intro taken
  cases query with
  | updateAllowlist target email revoked change =>
      rcases takesOwner_update.mp taken with ⟨row, _, updated, owner, lost⟩
      have active := isActiveOwner_iff.mp owner
      rcases harmless with restored | promoted
      · have hit := (isUpdated_iff.mp updated).2
        rw [restored, Option.isNone_iff_eq_none.mp active.2] at hit
        exact nomatch hit
      · have kept : (change.assign row).isActiveOwner provider = true := by
          rw [promoted]
          exact isActiveOwner_iff.mpr ⟨⟨active.1.1, rfl⟩, active.2⟩
        exact nomatch lost.symm.trans kept
  | _ => exact nomatch taken

/-- Programs of harmless queries leave an owner. -/
theorem hasActiveOwner_of_harmless {ρ : Type} {program : AccessProgram ρ}
    (uses : program.Uses AccessQuery.Harmless) (survives : HasActiveOwner provider db) :
    HasActiveOwner provider (program.run AccessQuery.handle db).2 :=
  Program.run_invariant (HasActiveOwner provider) (fun query _ harmless survives =>
    (hasActiveOwner_handle query survives).mpr harmless.stillChecked) uses survives

/-- Nothing but what has been shown harmless is asked for. -/
theorem uses_perform {ρ : Type} {query : AccessQuery ρ} (harmless : query.Harmless) :
    (Program.perform query).Uses AccessQuery.Harmless :=
  ⟨harmless, fun _ => trivial⟩

theorem uses_update (target : OAuthProvider) (email : String) {revoked : Bool}
    {change : AllowlistChange} (harmless : revoked = true ∨ change = .setRole .owner) :
    (AdminAllowlistRepository.update target email revoked change).Uses AccessQuery.Harmless := by
  have written : (AccessQuery.updateAllowlist target email revoked change).Harmless := harmless
  apply Program.uses_bind (uses_perform written)
  intro affected
  split
  · trivial
  · exact uses_perform trivial

theorem uses_createAdmin (target : OAuthProvider) (email : String) (role : AccessRole)
    (actorId : Option String) :
    (AdminAllowlistRepository.createAdmin rules target email role actorId).Uses
      AccessQuery.Harmless :=
  ⟨trivial, fun _ => ⟨trivial, fun _ => trivial⟩⟩

theorem uses_restore (target : OAuthProvider) (email : String) (actorId : Option String)
    (role : AccessRole) :
    (AdminAllowlistRepository.restore rules target email actorId role).Uses
      AccessQuery.Harmless := by
  rw [AdminAllowlistRepository.restore]
  split
  · trivial
  · exact ⟨trivial, fun _ => uses_update target _ (Or.inl rfl)⟩

theorem uses_findByProviderEmail (target : OAuthProvider) (email : String) :
    (AdminAllowlistRepository.findByProviderEmail rules target email).Uses
      AccessQuery.Harmless := by
  rw [AdminAllowlistRepository.findByProviderEmail]
  split
  · trivial
  · exact uses_perform trivial

theorem uses_withUserEmail (known : EmailByUserId) (id : Option String) :
    (withUserEmail rules known id).Uses AccessQuery.Harmless := by
  cases id with
  | none => trivial
  | some id =>
      rw [withUserEmail]
      split
      · trivial
      · exact ⟨trivial, fun _ => trivial⟩

theorem uses_resolveActorEmailMap (actor : Actor) (row : AccessAllowlistEntity) :
    (resolveActorEmailMap rules actor row).Uses AccessQuery.Harmless :=
  Program.uses_bind (uses_withUserEmail rules _ _) fun _ => uses_withUserEmail rules _ _

/-- The rest of a change of role, after its write. -/
theorem uses_writeRole_rest (actor : Actor) (updated : Option AccessAllowlistEntity) :
    Program.Uses AccessQuery.Harmless (match updated with
      | some updated => do
          let emails ← resolveActorEmailMap rules actor updated
          return .ok (some (toAdminView updated emails))
      | none => return .error noActiveAdmin : AccessProgram AdminResult) := by
  cases updated with
  | none => trivial
  | some updated => exact Program.uses_bind (uses_resolveActorEmailMap rules actor updated) fun _ => trivial

/-- The rest of a removal, after its write. -/
theorem uses_writeRemoval_rest (target : OAuthProvider) (targetEmail : String)
    (revoked : Option AccessAllowlistEntity) :
    Program.Uses AccessQuery.Harmless (match revoked with
      | none => return .error noActiveAdmin
      | some _ =>
          if rules.normalizeEmail targetEmail = "" then return .ok none
          else do
            match ← .perform (.findUserByProviderEmail target
              (rules.normalizeEmail targetEmail)) with
            | none => return .ok none
            | some targetUser =>
                let _ ← .perform (.revokeUserSessions targetUser.id)
                return .ok none : AccessProgram AdminResult) := by
  cases revoked with
  | none => trivial
  | some row =>
      simp only
      split
      · trivial
      · refine ⟨trivial, ?_⟩
        intro user
        cases user with
        | none => trivial
        | some user => exact ⟨trivial, fun _ => trivial⟩

/-- An update that passes the check leaves an owner, whatever harmless follows. -/
theorem hasActiveOwner_update_then {ρ : Type} {target : OAuthProvider} {email : String}
    {change : AllowlistChange} {rest : Option AccessAllowlistEntity → AccessProgram ρ}
    (survives : HasActiveOwner provider db)
    (checked : (AccessQuery.updateAllowlist target email false change).StillChecked provider db)
    (harmless : ∀ updated, (rest updated).Uses AccessQuery.Harmless) :
    HasActiveOwner provider
      ((AdminAllowlistRepository.update target email false change >>= rest).run
        AccessQuery.handle db).2 := by
  rw [Program.run_bind, AdminAllowlistRepository.update, Program.run_bind, Program.run_perform]
  apply hasActiveOwner_of_harmless (harmless _)
  have written := (hasActiveOwner_handle _ survives).mpr checked
  split
  · exact written
  · exact written

/-- Without an owner on the row, or with another owner counted, the check is passed. -/
theorem stillChecked_of_count {target : OAuthProvider} {email : String} {revoked : Bool}
    {change : AllowlistChange} {existing : AccessAllowlistEntity}
    (found : findActiveAllowlist db target email = some existing)
    (counted : existing.role = .owner → 1 < countActiveOwnerRows db target) :
    (AccessQuery.updateAllowlist target email revoked change).StillChecked provider db := by
  intro taken
  rcases takesOwner_update.mp taken with ⟨row, member, updated, owner, _⟩
  have address := (isUpdated_iff.mp updated).1
  rcases (isActiveOwner_iff.mp owner).1 with ⟨sameProvider, isOwner⟩
  rw [findActiveAllowlist, findAllowlist_eq_some.mpr ⟨member, address⟩] at found
  rw [Option.filter_some] at found
  split at found
  · cases found
    have same : target = provider := address.1.symm.trans sameProvider
    exact same ▸ counted isOwner
  · exact nomatch found

/-- The row of an address, if there is one. -/
theorem run_findActiveByProviderEmail (target : OAuthProvider) (email : String) :
    (AdminAllowlistRepository.findActiveByProviderEmail rules target email).run
        AccessQuery.handle db =
      (if rules.normalizeEmail email = "" then none
        else findActiveAllowlist db target (rules.normalizeEmail email), db) := by
  rw [AdminAllowlistRepository.findActiveByProviderEmail]
  split <;> rfl

theorem updateRole_alone (actor : Actor) (target : OAuthProvider) (email : String)
    (role : AccessRole) (survives : HasActiveOwner provider db) :
    HasActiveOwner provider ((updateRole rules actor target email role).run
      AccessQuery.handle db).2 := by
  rw [updateRole]
  split
  · exact survives
  · rename_i targetEmail valid
    rw [Program.run_bind, run_findActiveByProviderEmail]
    cases Decidable.em (rules.normalizeEmail targetEmail = "") with
    | inl unnamed =>
        rw [if_pos unnamed]
        exact survives
    | inr named =>
        rw [if_neg named]
        have writes : ∀ existing, findActiveAllowlist db target
            (rules.normalizeEmail targetEmail) = some existing →
            (existing.role = .owner → 1 < countActiveOwnerRows db target) →
            HasActiveOwner provider ((writeRole rules actor target targetEmail role).run
              AccessQuery.handle db).2 := by
          intro existing found counted
          rw [writeRole, AdminAllowlistRepository.updateRole, if_neg named]
          exact hasActiveOwner_update_then survives (stillChecked_of_count found counted)
            (uses_writeRole_rest rules actor)
        cases found : findActiveAllowlist db target (rules.normalizeEmail targetEmail) with
        | none => exact survives
        | some existing =>
            simp only
            split
            · apply hasActiveOwner_of_harmless _ survives
              exact Program.uses_bind (uses_resolveActorEmailMap rules actor existing)
                fun _ => trivial
            · split
              · split
                · exact survives
                · rw [Program.run_bind, Program.run_perform, AccessQuery.handle]
                  split
                  · exact survives
                  · rename_i several
                    exact writes existing found fun _ => Nat.lt_of_not_le several
              · rename_i other
                exact writes existing found fun owner => absurd owner other

theorem removeAdmin_alone (actor : Actor) (target : OAuthProvider) (email : String)
    (survives : HasActiveOwner provider db) :
    HasActiveOwner provider ((removeAdmin rules actor target email).run
      AccessQuery.handle db).2 := by
  rw [removeAdmin]
  split
  · exact survives
  · rename_i targetEmail valid
    split
    · exact survives
    · rw [Program.run_bind, run_findActiveByProviderEmail]
      cases Decidable.em (rules.normalizeEmail targetEmail = "") with
      | inl unnamed =>
          rw [if_pos unnamed]
          exact survives
      | inr named =>
          rw [if_neg named]
          have writes : ∀ existing, findActiveAllowlist db target
              (rules.normalizeEmail targetEmail) = some existing →
              (existing.role = .owner → 1 < countActiveOwnerRows db target) →
              HasActiveOwner provider ((writeRemoval rules actor target targetEmail).run
                AccessQuery.handle db).2 := by
            intro existing found counted
            rw [writeRemoval, AdminAllowlistRepository.softRevoke, if_neg named]
            exact hasActiveOwner_update_then survives (stillChecked_of_count found counted)
              (uses_writeRemoval_rest rules target targetEmail)
          cases found : findActiveAllowlist db target (rules.normalizeEmail targetEmail) with
          | none => exact survives
          | some existing =>
              simp only
              split
              · rw [Program.run_bind, Program.run_perform, AccessQuery.handle]
                split
                · exact survives
                · rename_i several
                  exact writes existing found fun _ => Nat.lt_of_not_le several
              · rename_i other
                exact writes existing found fun owner => absurd owner other

/-- An operation that runs alone leaves an owner. -/
theorem adminCall_alone (call : AdminCall) (survives : HasActiveOwner provider db) :
    HasActiveOwner provider ((call.program rules).run AccessQuery.handle db).2 := by
  cases call with
  | updateRole actor target email role => exact updateRole_alone rules actor target email role survives
  | removeAdmin actor target email => exact removeAdmin_alone rules actor target email survives
  | addAdmin actor target email role =>
      apply hasActiveOwner_of_harmless _ survives
      rw [AdminCall.program, addAdmin]
      split
      · trivial
      · apply Program.uses_bind (uses_findByProviderEmail rules _ _)
        intro existing
        cases existing with
        | some existing =>
            simp only
            split <;> trivial
        | none =>
            apply Program.uses_bind (uses_createAdmin rules _ _ _ _)
            intro created
            cases created <;> trivial
  | restoreAdmin actor target email =>
      apply hasActiveOwner_of_harmless _ survives
      rw [AdminCall.program, restoreAdmin]
      split
      · trivial
      · apply Program.uses_bind (uses_restore rules _ _ _ _)
        intro restored
        cases restored <;> trivial
  | seedOwner config =>
      apply hasActiveOwner_of_harmless _ survives
      rw [AdminCall.program, seedOwner]
      split
      · trivial
      · apply Program.uses_bind (uses_findByProviderEmail rules _ _)
        intro existing
        cases existing with
        | some existing =>
            simp only
            split
            · split <;> trivial
            · exact Program.uses_bind (uses_restore rules _ _ _ _) fun _ => trivial
        | none =>
            apply Program.uses_bind (uses_createAdmin rules _ _ _ _)
            intro created
            cases created <;> trivial

end Alone

/-! ## Operations that take turns -/

/-- Time passes. -/
def tick (elapsed : Nat) (db : AccessDatabase) : AccessDatabase :=
  { db with clock := db.clock + elapsed }

abbrev AdminState := Pool AccessDatabase AccessQuery AdminResult

def performAdmin (rules : EmailRules) : AdminState → PoolAction AdminCall Nat → Option AdminState :=
  Pool.perform AccessQuery.handle (AdminCall.program rules) tick

/-- Any operations at once, on an allowlist with an owner. -/
def adminSystem (rules : EmailRules) (provider : OAuthProvider) :
    System AdminState (PoolAction AdminCall Nat) :=
  Pool.system AccessQuery.handle (AdminCall.program rules) tick (HasActiveOwner provider)

/-- Every write that demotes or revokes an owner still passes the check. -/
def StillChecked (provider : OAuthProvider) (state : AdminState) :
    PoolAction AdminCall Nat → Prop :=
  state.Meets (AccessQuery.StillChecked provider)

instance (provider : OAuthProvider) (state : AdminState) (action : PoolAction AdminCall Nat) :
    Decidable (StillChecked provider state action) :=
  inferInstanceAs (Decidable (state.Meets (AccessQuery.StillChecked provider) action))

section Sample

/-- Rules for addresses in lower case. -/
private def lowerCaseRules : EmailRules where
  toLowerCase := id
  isEmail email := email.toList.contains '@'

private def owners (emails : List String) : AccessDatabase where
  clock := 0
  oauth_users := .empty
  access_allowlist := Table.empty.insertAllOrIgnore
    (emails.map fun email => ⟨.deepId, email, .owner, none, 0, none, none⟩)
  auth_sessions := .empty

private theorem hasActiveOwner_owners {email : String} {others : List String}
    (found : (findAllowlist (owners (email :: others)) .deepId email).any
      (·.isActiveOwner .deepId) = true) :
    HasActiveOwner .deepId (owners (email :: others)) := by
  rcases (Option.any_eq_true _ _).mp found with ⟨row, stored, owner⟩
  exact ⟨row, (findAllowlist_eq_some.mp stored).1, owner⟩

/-- An owner removes the other one. -/
private def removal : List (PoolAction AdminCall Nat) :=
  [.start (.removeAdmin ⟨"u1", some "a@x"⟩ .deepId "b@x"), .proceed 0, .proceed 0, .proceed 0,
    .proceed 0, .proceed 0, .proceed 0]

/-- Two owners remove each other: both count two owners before either is removed. -/
private def mutualRemoval : List (PoolAction AdminCall Nat) :=
  [.start (.removeAdmin ⟨"u1", some "a@y"⟩ .deepId "b@y"),
    .start (.removeAdmin ⟨"u2", some "b@y"⟩ .deepId "a@y"),
    .proceed 0, .proceed 0, .proceed 1, .proceed 1, .proceed 0, .proceed 0, .proceed 1, .proceed 1]

end Sample

end Reputo.Access

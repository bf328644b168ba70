import Reputo.Access.Auth

/-!
# Roles and verified emails

A request gets the role of the email that is stored for its user.  A login stores only
emails that the provider has verified; a refresh stores whatever the provider answers.
Roles rest on verified emails in every history in which no refresh gets an answer with an
email that is not verified.
-/

namespace Reputo.Access

open Reputo.Library

/-! ## The system -/

/-- What the provider answers, and the identifiers that are drawn. -/
structure ProviderReplies where
  tokens : Except OAuthFailure OAuthTokenResponse
  userInfo : Except OAuthFailure OAuthUserInfo
  newUserId : String
  newSessionId : String

/-- The history `answers` lists the userinfo answers that were received. -/
structure AuthWorld where
  db : AccessDatabase
  replies : ProviderReplies
  answers : List (OAuthProvider × OAuthUserInfo)

/-- The service alone at work: no refresh is in flight on its replica. -/
def handleAlone : Handler AuthOperation AuthWorld := fun operation world =>
  match operation with
  | .query query => ((query.handle world.db).1, { world with db := (query.handle world.db).2 })
  | .upsertUserBySub provider sub update =>
      ((upsertUserBySub world.db world.replies.newUserId provider sub update).1,
        { world with
          db := (upsertUserBySub world.db world.replies.newUserId provider sub update).2 })
  | .createSession entity =>
      ((), { world with
        db := { world.db with auth_sessions := world.db.auth_sessions.insertOrIgnore entity } })
  | .createRandomToken => (world.replies.newSessionId, world)
  | .exchangeCodeForTokens _ _ _ => (world.replies.tokens, world)
  | .refreshTokens _ _ _ => (world.replies.tokens, world)
  | .fetchUserInfo provider _ =>
      (world.replies.userInfo,
        { world with
          answers := world.answers ++
            (world.replies.userInfo.toOption.map fun answer => (provider, answer)).toList })
  | .joinRefresh _ _ => (none, world)
  | .leaveRefresh _ _ => ((), world)
  | .reread ours => (findActiveSession world.db ours.sessionId, world)
  | .revokeExpired ours => ((), { world with db := revokeSession world.db ours.sessionId })

/-- A role that a request got: its context, and what was stored at that moment. -/
structure Attachment where
  context : AuthRequestContext
  stored : Option OAuthUserEntity
  allowlisted : Option AccessRole
  deriving DecidableEq, Repr

/-- The history `attached` lists the roles that requests got. -/
structure RoleState where
  world : AuthWorld
  attached : List Attachment

inductive RoleAction where
  | tick (elapsed : Nat)
  | login (provider : OAuthProvider) (callback : OAuthCallbackQuery)
      (authFlow : Option AuthFlowState) (replies : ProviderReplies)
  | request (replica : Nat) (sessionId : String) (replies : ProviderReplies)
  | admin (call : AdminCall)
  | logout (sessionId : String)

section

variable (config : AuthConfig)

/-- The role of an email on the allowlist of a provider. -/
def allowlistedRole (db : AccessDatabase) (provider : OAuthProvider) (email : Option String) :
    Option AccessRole :=
  email.bind fun email =>
    (findActiveAllowlist db provider (config.rules.normalizeEmail email)).map (·.role)

/-- What is noted of a request that got a role. -/
def attach (db : AccessDatabase) (context : AuthRequestContext) : Attachment where
  context
  stored := findUserById db context.user.id
  allowlisted := allowlistedRole config db context.session.provider
    ((findUserById db context.user.id).bind (·.email))

/-- A request, whose role is noted if it gets one. -/
def RoleState.request (state : RoleState) (replica : Nat) (sessionId : String)
    (replies : ProviderReplies) : RoleState :=
  let served := (requireSession config replica sessionId).run handleAlone
    { state.world with replies }
  { world := served.2
    attached := state.attached ++ (served.1.toOption.map (attach config served.2.db)).toList }

def RoleState.perform (state : RoleState) : RoleAction → Option RoleState
  | .tick elapsed => some { state with
      world := { state.world with
        db := { state.world.db with clock := state.world.db.clock + elapsed } } }
  | .login provider callback authFlow replies => some { state with
      world := ((handleCallback config provider callback authFlow).run handleAlone
        { state.world with replies }).2 }
  | .request replica sessionId replies => some (state.request config replica sessionId replies)
  | .admin call => some { state with
      world := { state.world with
        db := ((call.program config.rules).run AccessQuery.handle state.world.db).2 } }
  | .logout sessionId => some { state with
      world := { state.world with db := revokeSession state.world.db sessionId } }

/-- No users and no sessions yet, and any allowlist. -/
def RoleState.Initial (state : RoleState) : Prop :=
  state.world.db.oauth_users.rows = [] ∧ state.world.answers = [] ∧ state.attached = []

/-- A drawn identifier is not in use. -/
def RoleAction.Admissible (state : RoleState) : RoleAction → Prop
  | .login _ _ _ replies | .request _ _ replies =>
      findUserById state.world.db replies.newUserId = none
  | _ => True

def roleSystem : System RoleState RoleAction :=
  .ofPerform RoleState.Initial RoleAction.Admissible (RoleState.perform config)

end

/-! ## Verified emails -/

/-- The answer identifies no user, has no email, or says that its email is verified. -/
def OAuthUserInfo.trusted (answer : OAuthUserInfo) : Bool :=
  answer.sub.all (JsText.trim · = "") || answer.email.all (· = "") ||
    answer.email_verified = some true

/-- The email of the user was verified by the answer that it is from. -/
def VerifiedFrom (answers : List (OAuthProvider × OAuthUserInfo)) (user : OAuthUserEntity) :
    Prop :=
  user.emailVerified = some true ∧ ∃ answer, (user.provider, answer) ∈ answers ∧
    answer.sub = some user.sub ∧ answer.email = user.email ∧ answer.email_verified = some true

/-- The role rests on the email that is stored for the user, which is verified and on
the allowlist with that role. -/
def Attachment.Justified (answers : List (OAuthProvider × OAuthUserInfo))
    (attachment : Attachment) : Prop :=
  ∃ user, attachment.stored = some user ∧ VerifiedFrom answers user ∧
    attachment.allowlisted = some attachment.context.role

/-- The request is going to refresh the tokens of its session. -/
def refreshes (config : AuthConfig) (db : AccessDatabase) (sessionId : String) : Bool :=
  (findActiveSession db sessionId).any fun session =>
    session.accessTokenExpiresAt ≤ db.clock + config.refreshLeewaySeconds * 1000 &&
      db.clock < session.refreshTokenExpiresAt &&
      (config.cipher.decryptValue session.refreshTokenCiphertext).isSome

/-- The userinfo answer, if there is one, can be trusted. -/
def ProviderReplies.Trusted (replies : ProviderReplies) : Prop :=
  ∀ answer, replies.userInfo = .ok answer → answer.trusted = true

/-- No refresh gets an answer with an email that is not verified. -/
def RoleAction.RefreshesTrusted (config : AuthConfig) (state : RoleState) : RoleAction → Prop
  | .request _ sessionId replies => refreshes config state.world.db sessionId = true →
      replies.tokens.isOk = true → replies.Trusted
  | _ => True

/-! ## What one operation keeps -/

/-- Every email that is stored was verified by the answer that it is from. -/
def AuthWorld.Verified (world : AuthWorld) : Prop :=
  ∀ user ∈ world.db.oauth_users, ∀ email, user.email = some email → email ≠ "" →
    VerifiedFrom world.answers user

/-- Operations that store no user. -/
def AuthOperation.KeepsUsers : {α : Type} → AuthOperation α → Prop
  | _, .upsertUserBySub _ _ _ => False
  | _, _ => True

section Operations

variable {world : AuthWorld}

theorem users_handle {α : Type} (query : AccessQuery α) (db : AccessDatabase) :
    (query.handle db).2.oauth_users = db.oauth_users := by
  cases query <;> rfl

theorem VerifiedFrom.mono {answers more : List (OAuthProvider × OAuthUserInfo)}
    {user : OAuthUserEntity} (verified : VerifiedFrom answers user)
    (grown : ∀ answer ∈ answers, answer ∈ more) : VerifiedFrom more user := by
  rcases verified with ⟨flag, answer, member, same⟩
  exact ⟨flag, answer, grown _ member, same⟩

theorem AuthWorld.Verified.keep {α : Type} {operation : AuthOperation α}
    (keeps : operation.KeepsUsers) (verified : world.Verified) :
    (handleAlone operation world).2.Verified := by
  cases operation with
  | upsertUserBySub => exact keeps.elim
  | query query =>
      intro user member
      rw [handleAlone, users_handle] at member
      exact verified user member
  | fetchUserInfo provider accessToken =>
      intro user member email stored named
      exact (verified user member email stored named).mono fun answer old =>
        List.mem_append_left _ old
  | _ => exact verified

/-- Programs that store no user keep emails verified. -/
theorem AuthWorld.Verified.run {ρ : Type} {program : AuthProgram ρ}
    (uses : program.Uses AuthOperation.KeepsUsers) (verified : world.Verified) :
    (program.run handleAlone world).2.Verified :=
  Program.run_invariant AuthWorld.Verified (fun _ _ keeps verified => verified.keep keeps) uses
    verified

theorem run_query {ρ : Type} (program : AccessProgram ρ) :
    (query program).run handleAlone world =
      ((program.run AccessQuery.handle world.db).1,
        { world with db := (program.run AccessQuery.handle world.db).2 }) := by
  induction program generalizing world with
  | done result => rfl
  | call operation next ih => exact ih _

theorem uses_query {ρ : Type} (program : AccessProgram ρ) :
    (query program).Uses AuthOperation.KeepsUsers := by
  induction program with
  | done result => trivial
  | call operation next ih => exact ⟨trivial, ih⟩

/-- A trusted answer that was received keeps emails verified when it is stored. -/
theorem AuthWorld.Verified.sync {provider : OAuthProvider} {answer : OAuthUserInfo}
    (verified : world.Verified) (received : (provider, answer) ∈ world.answers)
    (trusted : answer.trusted = true) :
    ((syncUserFromUserInfo provider answer).run handleAlone world).2.Verified := by
  rw [syncUserFromUserInfo]
  cases identified : answer.sub.filter fun sub => JsText.trim sub ≠ "" with
  | none => exact verified
  | some sub =>
      rcases Option.filter_eq_some_iff.mp identified with ⟨same, identifies⟩
      rw [decide_eq_true_iff] at identifies
      intro user member email stored named
      have written : user.provider = provider ∧ user.sub = sub ∧ user.email = answer.email ∧
            user.emailVerified = answer.email_verified ∨ user ∈ world.db.oauth_users := by
        rcases Table.mem_upsert.mp member with new | ⟨old, _⟩
        · rw [new]
          cases existing : findUserBySub world.db provider sub with
          | none => exact Or.inl ⟨rfl, rfl, rfl, rfl⟩
          | some row =>
              have found := List.find?_some existing
              rw [Bool.and_eq_true, decide_eq_true_iff, decide_eq_true_iff] at found
              exact Or.inl ⟨found.1, found.2, rfl, rfl⟩
        · exact Or.inr old
      rcases written with ⟨sameProvider, sameSub, sameEmail, flag⟩ | old
      · have isVerified : answer.email_verified = some true := by
          rw [OAuthUserInfo.trusted, same, ← sameEmail, stored, Option.all_some, Option.all_some,
            decide_eq_false identifies, decide_eq_false named, Bool.false_or, Bool.false_or,
            decide_eq_true_iff] at trusted
          exact trusted
        refine ⟨flag.trans isVerified, answer, ?_, ?_, sameEmail.symm, isVerified⟩
        · rw [sameProvider]
          exact received
        · rw [sameSub]
          exact same
      · exact verified user old email stored named

end Operations

/-! ## Logins -/

section Logins

variable (config : AuthConfig) (world : AuthWorld)

/-- The row of an address on the allowlist, which a lookup does not change. -/
theorem run_findActive (provider : OAuthProvider) (email : String) :
    (query (AdminAllowlistRepository.findActiveByProviderEmail config.rules provider email)).run
        handleAlone world =
      (if config.rules.normalizeEmail email = "" then none
        else findActiveAllowlist world.db provider (config.rules.normalizeEmail email), world) := by
  rw [run_query, AdminAllowlistRepository.findActiveByProviderEmail]
  split <;> rfl

/-- The callback goes on only with a verified email. -/
theorem run_callbackDenial (provider : OAuthProvider) (userInfo : OAuthUserInfo) :
    ((callbackDenial config provider userInfo).run handleAlone world).2 = world ∧
      (((callbackDenial config provider userInfo).run handleAlone world).1 = none →
        userInfo.email_verified = some true) := by
  rw [callbackDenial]
  split
  · exact ⟨rfl, nofun⟩
  · split
    · exact ⟨rfl, nofun⟩
    · rename_i isVerified
      rw [Program.run_bind, run_findActive]
      exact ⟨rfl, fun _ => Decidable.of_not_not isVerified⟩

theorem uses_createApplicationSession (user : OAuthUserEntity)
    (tokenResponse : OAuthTokenResponse) (authFlow : AuthFlowState) :
    (createApplicationSession config user tokenResponse authFlow).Uses
      AuthOperation.KeepsUsers := by
  rw [createApplicationSession]
  split
  · trivial
  · exact ⟨trivial, fun _ => ⟨trivial, fun _ => ⟨trivial, fun _ => trivial⟩⟩⟩

variable {config} {world}

/-- A login keeps emails verified. -/
theorem AuthWorld.Verified.login (provider : OAuthProvider) (callback : OAuthCallbackQuery)
    (authFlow : Option AuthFlowState) (verified : world.Verified) :
    ((handleCallback config provider callback authFlow).run handleAlone world).2.Verified := by
  rw [handleCallback]
  split
  · exact verified
  · rename_i code flow _
    rw [Program.run_bind, Program.run_perform, handleAlone]
    cases exchanged : world.replies.tokens with
    | error failure => cases failure <;> exact verified
    | ok tokenResponse =>
        simp only
        rw [Program.run_bind, Program.run_perform]
        have fetched : (handleAlone (.fetchUserInfo provider tokenResponse.access_token)
            world).2.Verified := verified.keep trivial
        cases replied : world.replies.userInfo with
        | error failure =>
            rw [handleAlone, replied] at fetched ⊢
            exact fetched
        | ok userInfo =>
            rw [handleAlone, replied] at fetched ⊢
            simp only at fetched ⊢
            rw [Program.run_bind]
            rcases run_callbackDenial config
              { world with answers := world.answers ++ [(provider, userInfo)] } provider userInfo
              with ⟨unchanged, isVerified⟩
            simp only [Except.toOption, Option.map_some, Option.toList] at fetched ⊢
            have received : (provider, userInfo) ∈ world.answers ++ [(provider, userInfo)] :=
              List.mem_append_right _ (List.mem_singleton.mpr rfl)
            rw [unchanged]
            split
            · exact fetched
            · rename_i allowed
              have trusted : userInfo.trusted = true := by
                rw [OAuthUserInfo.trusted, decide_eq_true (isVerified allowed), Bool.or_true]
              rw [Program.run_bind]
              have synced := fetched.sync received trusted
              split
              · exact synced
              · exact synced.run (uses_createApplicationSession config _ tokenResponse flow)

end Logins

/-! ## Requests -/

section Requests

variable {config : AuthConfig} {world : AuthWorld}

theorem handle_now : handleAlone (.query .now) world = (world.db.clock, world) :=
  rfl

theorem uses_handleRefreshFailure (session : AuthSessionEntity) (failure : OAuthFailure) :
    (handleRefreshFailure session failure).Uses AuthOperation.KeepsUsers := by
  cases failure with
  | unavailable => trivial
  | unauthorized =>
      refine Program.uses_bind ⟨trivial, fun _ => trivial⟩ fun latest => ?_
      split
      · trivial
      · exact ⟨trivial, fun _ => trivial⟩

theorem AuthWorld.Verified.syncAfterRefresh (provider : OAuthProvider) (accessToken : String)
    (trusted : world.replies.Trusted) (verified : world.Verified) :
    ((syncAfterRefresh provider accessToken).run handleAlone world).2.Verified := by
  rw [Access.syncAfterRefresh, Program.run_bind, Program.run_perform]
  have fetched : (handleAlone (.fetchUserInfo provider accessToken) world).2.Verified :=
    verified.keep trivial
  cases replied : world.replies.userInfo with
  | error failure =>
      rw [handleAlone, replied] at fetched ⊢
      exact fetched
  | ok userInfo =>
      rw [handleAlone, replied] at fetched ⊢
      simp only [Except.toOption, Option.map_some, Option.toList] at fetched ⊢
      rw [Program.run_bind]
      exact fetched.sync (List.mem_append_right _ (List.mem_singleton.mpr rfl))
        (trusted userInfo replied)

theorem AuthWorld.Verified.storeRefreshed (session : AuthSessionEntity)
    (tokenResponse : OAuthTokenResponse) (trusted : world.replies.Trusted)
    (verified : world.Verified) :
    ((storeRefreshed config session tokenResponse).run handleAlone world).2.Verified := by
  rw [Access.storeRefreshed, Program.run_bind, Program.run_perform, Program.run_bind, run_query]
  have updated := verified.run (uses_query (AuthSessionRepository.updateAfterRefresh
    session.sessionId (refreshUpdate config world.db.clock session tokenResponse)))
  rw [run_query] at updated
  split
  · exact updated
  · rw [Program.run_bind]
    exact updated.syncAfterRefresh session.provider tokenResponse.access_token trusted

theorem AuthWorld.Verified.performRefresh (session : AuthSessionEntity)
    (trusted : (config.cipher.decryptValue session.refreshTokenCiphertext).isSome = true →
      world.replies.tokens.isOk = true → world.replies.Trusted)
    (verified : world.Verified) :
    ((performRefresh config session).run handleAlone world).2.Verified := by
  rw [Access.performRefresh]
  cases decrypted : config.cipher.decryptValue session.refreshTokenCiphertext with
  | none => exact verified.run (uses_handleRefreshFailure session .unavailable)
  | some refreshToken =>
      rw [decrypted] at trusted
      simp only
      rw [Program.run_bind, Program.run_perform, handleAlone]
      cases replied : world.replies.tokens with
      | error failure => exact verified.run (uses_handleRefreshFailure session failure)
      | ok tokenResponse =>
          rw [replied] at trusted
          exact verified.storeRefreshed session tokenResponse (trusted rfl rfl)

/-- The check before a refresh keeps emails verified. -/
theorem AuthWorld.Verified.refreshSessionIfNeeded (replica : Nat) (session : AuthSessionEntity)
    (trusted : session.accessTokenExpiresAt ≤
          world.db.clock + config.refreshLeewaySeconds * 1000 →
      world.db.clock < session.refreshTokenExpiresAt →
      (config.cipher.decryptValue session.refreshTokenCiphertext).isSome = true →
      world.replies.tokens.isOk = true → world.replies.Trusted)
    (verified : world.Verified) :
    ((refreshSessionIfNeeded config replica session).run handleAlone world).2.Verified := by
  rw [Access.refreshSessionIfNeeded, Program.run_bind, Program.run_perform, handle_now]
  simp only
  by_cases later : world.db.clock + config.refreshLeewaySeconds * 1000 <
      session.accessTokenExpiresAt
  · rw [if_pos later]
    exact verified
  · rw [if_neg later]
    by_cases ended : session.refreshTokenExpiresAt ≤ world.db.clock
    · rw [if_pos ended]
      exact verified
    · rw [if_neg ended, Program.run_bind, Program.run_perform, handleAlone, Program.run_bind]
      exact (verified.performRefresh session
        (trusted (Nat.le_of_not_lt later) (Nat.lt_of_not_le ended))).run
        ⟨trivial, fun _ => trivial⟩

theorem uses_resolveSessionRole (provider : OAuthProvider) (user : OAuthUserEntity) :
    (resolveSessionRole config provider user).Uses AuthOperation.KeepsUsers := by
  unfold resolveSessionRole
  split
  · trivial
  · exact Program.uses_bind (uses_query _) fun _ => trivial

theorem uses_resolveContext (session : AuthSessionEntity) :
    (resolveContext config session).Uses AuthOperation.KeepsUsers := by
  rw [resolveContext]
  constructor
  · trivial
  · intro found
    cases found with
    | none => exact ⟨trivial, fun _ => trivial⟩
    | some user =>
        apply Program.uses_bind (uses_resolveSessionRole session.provider user)
        intro role
        cases role with
        | none => exact ⟨trivial, fun _ => trivial⟩
        | some role => trivial

/-- A request keeps emails verified, unless a refresh gets an answer that cannot be trusted. -/
theorem AuthWorld.Verified.requireSession (replica : Nat) (sessionId : String)
    (trusted : refreshes config world.db sessionId = true → world.replies.tokens.isOk = true →
      world.replies.Trusted)
    (verified : world.Verified) :
    ((requireSession config replica sessionId).run handleAlone world).2.Verified := by
  rw [Access.requireSession, Program.run_bind, Program.run_perform, handleAlone,
    AccessQuery.handle]
  cases found : findActiveSession world.db sessionId with
  | none => exact verified
  | some session =>
      simp only
      rw [Program.run_bind]
      have refreshed := verified.refreshSessionIfNeeded replica session
        fun due renewable decrypted accepted => trusted (by
          rw [refreshes, found, Option.any_some, Bool.and_eq_true, Bool.and_eq_true,
            decide_eq_true_iff, decide_eq_true_iff]
          exact ⟨⟨due, renewable⟩, decrypted⟩) accepted
      split
      · exact refreshed
      · exact refreshed.run (uses_resolveContext _)

/-- A role comes from the email of the user, and nothing is written before it is found. -/
theorem run_resolveSessionRole (config : AuthConfig) (world : AuthWorld)
    (provider : OAuthProvider) (user : OAuthUserEntity) :
    ((resolveSessionRole config provider user).run handleAlone world).2 = world ∧
      ∀ role, ((resolveSessionRole config provider user).run handleAlone world).1 = some role →
        (∃ email, user.email = some email ∧ email ≠ "") ∧
          allowlistedRole config world.db provider user.email = some role := by
  unfold resolveSessionRole
  cases known : user.email.filter (· ≠ "") with
  | none => exact ⟨rfl, nofun⟩
  | some email =>
      rcases Option.filter_eq_some_iff.mp known with ⟨stored, named⟩
      simp only
      rw [Program.run_bind, run_findActive]
      constructor
      · rfl
      · intro role found
        constructor
        · exact ⟨email, stored, of_decide_eq_true named⟩
        · rw [allowlistedRole, stored, Option.bind_some]
          split at found
          · cases found
          · exact found

/-- A request that gets a role rests on the email that is stored for its user. -/
theorem run_resolveContext {session : AuthSessionEntity} {context : AuthRequestContext}
    (attached : ((resolveContext config session).run handleAlone world).1 = .ok context) :
    ((resolveContext config session).run handleAlone world).2 = world ∧
      ∃ user, findUserById world.db context.user.id = some user ∧
        (∃ email, user.email = some email ∧ email ≠ "") ∧
          allowlistedRole config world.db context.session.provider user.email =
            some context.role := by
  rw [resolveContext, Program.run_bind, Program.run_perform, handleAlone,
    AccessQuery.handle] at attached ⊢
  cases found : findUserById world.db session.userId with
  | none =>
      rw [found] at attached
      cases attached
  | some user =>
      rw [found] at attached
      simp only at attached ⊢
      rw [Program.run_bind] at attached ⊢
      rcases run_resolveSessionRole config world session.provider user with ⟨unchanged, rests⟩
      rw [unchanged] at attached ⊢
      cases resolved :
        ((resolveSessionRole config session.provider user).run handleAlone world).1 with
      | none =>
          rw [resolved] at attached
          cases attached
      | some role =>
          rw [resolved] at attached
          cases attached
          rcases rests role resolved with ⟨named, allowlisted⟩
          have same : user.id = session.userId := (Table.find?_eq_some_iff.mp found).2
          refine ⟨rfl, user, ?_, named, allowlisted⟩
          rw [same]
          exact found

/-- The role of a request rests on an email that was verified, if all that are stored were. -/
theorem justified_attach {replica : Nat} {sessionId : String} {context : AuthRequestContext}
    (attached : ((requireSession config replica sessionId).run handleAlone world).1 = .ok context)
    (verified : ((requireSession config replica sessionId).run handleAlone world).2.Verified) :
    (attach config ((requireSession config replica sessionId).run handleAlone world).2.db
      context).Justified
        ((requireSession config replica sessionId).run handleAlone world).2.answers := by
  rw [Access.requireSession, Program.run_bind, Program.run_perform, handleAlone,
    AccessQuery.handle] at attached verified ⊢
  cases found : findActiveSession world.db sessionId with
  | none =>
      rw [found] at attached
      cases attached
  | some session =>
      rw [found] at attached verified
      simp only at attached verified ⊢
      rw [Program.run_bind] at attached verified ⊢
      split at attached
      · cases attached
      · rename_i active refreshed
        rw [refreshed] at verified
        rcases run_resolveContext attached with
          ⟨unchanged, user, stored, ⟨email, known, named⟩, role⟩
        simp only at verified ⊢
        rw [unchanged] at verified ⊢
        refine ⟨user, stored,
          verified user (Table.find?_eq_some_iff.mp stored).1 email known named, ?_⟩
        rw [attach, stored, Option.bind_some]
        exact role

end Requests

/-! ## Runs -/

section Runs

variable {config : AuthConfig} {state after : RoleState}

/-- The administration writes no users. -/
theorem users_run {ρ : Type} (program : AccessProgram ρ) (db : AccessDatabase) :
    (program.run AccessQuery.handle db).2.oauth_users = db.oauth_users :=
  Program.run_invariant (fun other : AccessDatabase => other.oauth_users = db.oauth_users)
    (fun query other _ same => (users_handle query other).trans same)
    (Program.uses_of_forall (fun _ => trivial) program : program.Uses fun _ => True) rfl

/-- Answers stay known. -/
theorem answers_handle {α : Type} (operation : AuthOperation α) (world : AuthWorld) :
    ∀ answer ∈ world.answers, answer ∈ (handleAlone operation world).2.answers := by
  intro answer old
  cases operation with
  | fetchUserInfo => exact List.mem_append_left _ old
  | _ => exact old

theorem answers_run {ρ : Type} (program : AuthProgram ρ) (world : AuthWorld) :
    ∀ answer ∈ world.answers, answer ∈ (program.run handleAlone world).2.answers := by
  induction program generalizing world with
  | done result => exact fun _ old => old
  | call operation next ih => exact fun answer old => ih _ _ answer (answers_handle _ _ _ old)

theorem Attachment.Justified.mono {answers more : List (OAuthProvider × OAuthUserInfo)}
    {attachment : Attachment} (justified : attachment.Justified answers)
    (grown : ∀ answer ∈ answers, answer ∈ more) : attachment.Justified more := by
  rcases justified with ⟨user, stored, verified, role⟩
  exact ⟨user, stored, verified.mono grown, role⟩

/-- Stored emails are verified, and roles rest on them. -/
structure RoleState.Sound (state : RoleState) : Prop where
  verified : state.world.Verified
  justified : ∀ attachment ∈ state.attached, attachment.Justified state.world.answers

theorem RoleState.Initial.sound (initially : state.Initial) : state.Sound := by
  rcases initially with ⟨noUsers, noAnswers, nothing⟩
  constructor
  · intro user member
    have stored : user ∈ state.world.db.oauth_users.rows := member
    rw [noUsers] at stored
    cases stored
  · intro attachment member
    rw [nothing] at member
    cases member

theorem RoleState.Sound.request {replica : Nat} {sessionId : String} {replies : ProviderReplies}
    (sound : state.Sound)
    (trusts : refreshes config state.world.db sessionId = true →
      replies.tokens.isOk = true → replies.Trusted) :
    (state.request config replica sessionId replies).Sound := by
  have before : AuthWorld.Verified { state.world with replies } := sound.verified
  have verified := before.requireSession replica sessionId trusts
  constructor
  · exact verified
  · intro attachment member
    rcases List.mem_append.mp member with old | new
    · exact (sound.justified attachment old).mono (answers_run _ { state.world with replies })
    · cases attached : ((requireSession config replica sessionId).run handleAlone
          { state.world with replies }).1 with
      | error error =>
          rw [attached] at new
          cases new
      | ok context =>
          rw [attached] at new
          rw [List.mem_singleton.mp new]
          exact justified_attach attached verified

/-- A step keeps roles resting on verified emails, unless a refresh gets an answer that
cannot be trusted. -/
theorem RoleState.Sound.step {action : RoleAction} (sound : state.Sound)
    (trusted : action.RefreshesTrusted config state)
    (performed : state.perform config action = some after) : after.Sound := by
  cases action with
  | tick elapsed =>
      cases performed
      exact ⟨sound.verified, sound.justified⟩
  | login provider callback authFlow replies =>
      cases performed
      have before : AuthWorld.Verified { state.world with replies } := sound.verified
      constructor
      · exact before.login provider callback authFlow
      · exact fun attachment member => (sound.justified attachment member).mono
          (answers_run _ { state.world with replies })
  | request replica sessionId replies =>
      rw [← Option.some.inj performed]
      exact sound.request trusted
  | admin call =>
      cases performed
      constructor
      · intro user member
        have stored : user ∈ state.world.db.oauth_users := by
          rw [← users_run]
          exact member
        exact sound.verified user stored
      · exact sound.justified
  | logout sessionId =>
      cases performed
      exact ⟨sound.verified, sound.justified⟩

/-- A role rests on a verified email in every history in which no refresh gets an answer
with an email that is not verified. -/
theorem roles_restOnVerified (config : AuthConfig) {state : RoleState}
    (reachable : (roleSystem config).Reachable (RoleAction.RefreshesTrusted config) state) :
    ∀ attachment ∈ state.attached, attachment.Justified state.world.answers :=
  have sound : state.Sound :=
    reachable.invariant (fun _ initially => RoleState.Initial.sound initially)
      fun before action _ sound trusted (stepped : action.Admissible before ∧
        before.perform config action = some _) => sound.step trusted stepped.2
  sound.justified

end Runs

section Sample

/-- Tokens stored as they are, and addresses in lower case. -/
private def plainConfig : AuthConfig where
  sessionTtlSeconds := 1000
  refreshLeewaySeconds := 60
  scopes _ := []
  cipher := ⟨id, some, fun _ => rfl⟩
  rules := ⟨id, fun email => email.toList.contains '@'⟩

/-- Two addresses on the allowlist, one of them an owner's. -/
private def allowing (admin owner : String) : RoleState where
  world :=
    { db :=
        { clock := 0
          oauth_users := .empty
          access_allowlist := Table.empty.insertAllOrIgnore
            [⟨.deepId, admin, .admin, none, 0, none, none⟩,
              ⟨.deepId, owner, .owner, none, 0, none, none⟩]
          auth_sessions := .empty }
      replies := ⟨.error .unavailable, .error .unavailable, "", ""⟩
      answers := [] }
  attached := []

/-- The provider answers with an address, and says whether it is verified. -/
private def answering (sessionId email : String) (verified : Bool) : ProviderReplies where
  tokens := .ok ⟨"t1", 30, some "r1", none, none⟩
  userInfo := .ok ⟨some "d1", some email, some verified⟩
  newUserId := "n1"
  newSessionId := sessionId

/-- A login with the first address, and a request that refreshes the tokens. -/
private def loginThenRefresh (sessionId first later : String) (verified : Bool) :
    List RoleAction :=
  [.login .deepId ⟨some "c1", some "f1", none⟩ (some ⟨.deepId, "f1", "v1"⟩)
      (answering sessionId first true),
    .tick 5, .request 0 sessionId { answering sessionId later verified with newUserId := "n2" }]

instance (replies : ProviderReplies) : Decidable replies.Trusted :=
  match replied : replies.userInfo with
  | .error _ => isTrue fun _ other => by cases replied.symm.trans other
  | .ok answer => decidable_of_iff (answer.trusted = true)
      ⟨fun trusted _ other => Except.ok.inj (replied.symm.trans other) ▸ trusted,
        fun trusted => trusted answer replied⟩

private instance (state : RoleState) (action : RoleAction) :
    Decidable (action.RefreshesTrusted plainConfig state) :=
  match action with
  | .request _ sessionId replies =>
      inferInstanceAs (Decidable (refreshes plainConfig state.world.db sessionId = true →
        replies.tokens.isOk = true → replies.Trusted))
  | .tick _ | .login .. | .admin _ | .logout _ => isTrue trivial

private instance (state : RoleState) (action : RoleAction) :
    Decidable (action.Admissible state) :=
  match action with
  | .login _ _ _ replies | .request _ _ replies =>
      inferInstanceAs (Decidable (findUserById state.world.db replies.newUserId = none))
  | .tick _ | .admin _ | .logout _ => isTrue trivial

private theorem reachable_allowing (admin owner : String)
    (permitted : RoleState → RoleAction → Prop) :
    (roleSystem plainConfig).Reachable permitted (allowing admin owner) :=
  .start ⟨rfl, rfl, rfl⟩

/-- A refresh with another verified address gives the role of that address. -/
theorem roles_restOnVerified_sample :
    ∃ attachment ∈ (System.performAll (RoleState.perform plainConfig) (allowing "p@x" "q@x")
        (loginThenRefresh "k3" "p@x" "q@x" true)).attached,
      attachment.context.role = .owner ∧ attachment.Justified
        (System.performAll (RoleState.perform plainConfig) (allowing "p@x" "q@x")
          (loginThenRefresh "k3" "p@x" "q@x" true)).world.answers := by
  have along : System.AllAlong (RoleState.perform plainConfig) (fun before action =>
      action.RefreshesTrusted plainConfig before ∧ action.Admissible before)
      (allowing "p@x" "q@x") (loginThenRefresh "k3" "p@x" "q@x" true) := by
    decide +kernel
  have reachable := System.reachable_performAll (reachable_allowing "p@x" "q@x" _) along
  have got : (System.performAll (RoleState.perform plainConfig) (allowing "p@x" "q@x")
      (loginThenRefresh "k3" "p@x" "q@x" true)).attached.any (·.context.role = .owner) = true := by
    decide +kernel
  rcases List.any_eq_true.mp got with ⟨attachment, member, owner⟩
  exact ⟨attachment, member, of_decide_eq_true owner,
    roles_restOnVerified plainConfig reachable attachment member⟩

/-- A refresh stores an address that is not verified, and its role is attached. -/
theorem refresh_attaches_unverified :
    ¬ ∀ (config : AuthConfig) (state : RoleState),
      (roleSystem config).Reachable (fun _ _ => True) state →
      ∀ attachment ∈ state.attached, attachment.Justified state.world.answers := by
  intro claimed
  have along : System.AllAlong (RoleState.perform plainConfig) (fun before action =>
      True ∧ action.Admissible before)
      (allowing "p@y" "q@y") (loginThenRefresh "k4" "p@y" "q@y" false) := by
    decide +kernel
  have reachable := System.reachable_performAll (reachable_allowing "p@y" "q@y" _) along
  have got : (System.performAll (RoleState.perform plainConfig) (allowing "p@y" "q@y")
      (loginThenRefresh "k4" "p@y" "q@y" false)).attached.any (fun attachment =>
        attachment.context.role = .owner &&
          attachment.stored.all (·.emailVerified = some false)) = true := by
    decide +kernel
  rcases List.any_eq_true.mp got with ⟨attachment, member, unverified⟩
  rcases claimed plainConfig _ reachable attachment member with ⟨user, stored, verified, _⟩
  rw [stored, Option.all_some, Bool.and_eq_true, decide_eq_true_iff, decide_eq_true_iff]
    at unverified
  exact absurd (unverified.2.symm.trans verified.1) (by decide)

end Sample

end Reputo.Access

import Reputo.Consent.ConsentService

/-!
# Stages of a consent flow

A flow prepares its grant and creates it.  A callback finds its grant, may exchange a code
and deletes the grant.
-/

namespace Reputo.Consent

open Reputo.Library Reputo.Access

/-! ## Stages -/

/-- The program that deletes a grant and ends. -/
def deleteThen (provider : OAuthProvider) (state : String) (result : ConsentResult) :
    ConsentProgram ConsentResult := do
  let _ ← Program.perform (.deleteByProviderAndState provider state)
  return result

/-- How far a request is; a callback knows whether it has found its grant. -/
inductive ConsentStage where
  | initiating (provider : OAuthProvider) (source state codeVerifier : String)
      (left : ConsentProgram ConsentResult)
  | looking (provider : OAuthProvider) (query : ConsentCallbackQueryDto)
  | exchanging (provider : OAuthProvider) (query : ConsentCallbackQueryDto)
      (grant : OAuthConsentGrantEntity) (credentials : OAuthClientCredentials)
      (params : ExchangeOAuthCodeParams) (settle : Bool → ConsentResult)
  | deleting (provider : OAuthProvider) (query : ConsentCallbackQueryDto) (state : String)
      (found : Bool) (result : ConsentResult)
  | ended (provider : OAuthProvider) (query : ConsentCallbackQueryDto) (found : Bool)
      (result : ConsentResult)

namespace ConsentStage

def program (config : ConsentConfig) : ConsentStage → ConsentProgram ConsentResult
  | initiating _ _ _ _ left => left
  | looking provider query => handleCallback config provider query
  | exchanging provider _ grant credentials params settle => do
      let exchanged ← Program.perform (.exchangeCodeForTokens provider credentials params)
      deleteThen provider grant.state (settle exchanged)
  | deleting provider _ state _ result => deleteThen provider state result
  | ended _ _ _ result => pure result

def request : ConsentStage → ConsentRequest
  | initiating provider source state codeVerifier _ =>
      .initiate provider source state codeVerifier
  | looking provider query | exchanging provider query .. | deleting provider query ..
  | ended provider query .. => .callback provider query

/-- The state of the grant that was found. -/
def taken : ConsentStage → Option String
  | exchanging _ query .. | deleting _ query _ true _ | ended _ query true _ =>
      JsText.truthyText query.state
  | _ => none

/-- The state of the grant that was deleted in the end. -/
def closed : ConsentStage → Option String
  | ended _ query _ _ => JsText.truthyText query.state
  | _ => none

/-- A callback that is done with the grant that it found. -/
def spent : ConsentStage → Bool
  | deleting _ _ _ true _ | ended _ _ true _ => true
  | _ => false

/-- The grant with which a code is to be exchanged. -/
def held : ConsentStage → Option OAuthConsentGrantEntity
  | exchanging _ _ grant .. => some grant
  | _ => none

/-- The grants that a flow creates are its own. -/
def CreatesOwn (config : ConsentConfig) (state codeVerifier : String) :
    ∀ {α : Type}, ConsentOperation α → Prop
  | _, .create data => data.state = state ∧ data.codeVerifier = codeVerifier ∧
      (config.providers data.provider).isSome
  | _, .now | _, .buildAuthorizationUrl .. => True
  | _, .findActiveByProviderAndState .. | _, .exchangeCodeForTokens ..
  | _, .deleteByProviderAndState .. => False

/-- What is known of a request from how far it is. -/
def Sound (config : ConsentConfig) : ConsentStage → Prop
  | initiating _ _ state codeVerifier left => left.Uses (CreatesOwn config state codeVerifier)
  | looking _ query => (JsText.truthyText query.state).isSome
  | exchanging _ query grant _ params _ => JsText.truthyText query.state = some grant.state ∧
      params.codeVerifier = grant.codeVerifier
  | deleting _ query state found result => JsText.truthyText query.state = some state ∧
      (found = false → result = .error .InvalidConsentStateException)
  | ended _ _ found result => found = false → result = .error .InvalidConsentStateException

end ConsentStage

/-- What a step of a request does to the grants, and the exchange that it makes. -/
inductive ConsentMove (config : ConsentConfig) (store : ConsentStore) : ConsentStage → ConsentStage →
    OAuthConsentGrants → Option ExchangeOAuthCodeParams → Prop where
  | prepared {provider : OAuthProvider} {source state codeVerifier : String}
      {left rest : ConsentProgram ConsentResult} (going : left.result? = none) :
      ConsentMove config store (.initiating provider source state codeVerifier left)
        (.initiating provider source state codeVerifier rest) store.oauth_consent_grants none
  | created {provider : OAuthProvider} {source state codeVerifier : String}
      {left rest : ConsentProgram ConsentResult} {data : OAuthConsentGrantEntity}
      (going : left.result? = none) (own : data.state = state)
      (verifier : data.codeVerifier = codeVerifier)
      (configured : (config.providers data.provider).isSome) :
      ConsentMove config store (.initiating provider source state codeVerifier left)
        (.initiating provider source state codeVerifier rest)
        (store.oauth_consent_grants.insertOrIgnore data) none
  | missed {provider : OAuthProvider} {query : ConsentCallbackQueryDto} {state : String} :
      ConsentMove config store (.looking provider query)
        (.deleting provider query state false (.error .InvalidConsentStateException))
        store.oauth_consent_grants none
  | found {provider : OAuthProvider} {query : ConsentCallbackQueryDto}
      {grant : OAuthConsentGrantEntity} {later : ConsentStage}
      (active : findActive store provider grant.state = some grant)
      (carried : JsText.truthyText query.state = some grant.state)
      (using_ : (∃ result, later = .deleting provider query grant.state true result) ∨
        ∃ credentials params settle,
          later = .exchanging provider query grant credentials params settle) :
      ConsentMove config store (.looking provider query) later store.oauth_consent_grants none
  | exchanged {provider : OAuthProvider} {query : ConsentCallbackQueryDto}
      {grant : OAuthConsentGrantEntity} {credentials : OAuthClientCredentials}
      {params : ExchangeOAuthCodeParams} {settle : Bool → ConsentResult} {result : ConsentResult} :
      ConsentMove config store (.exchanging provider query grant credentials params settle)
        (.deleting provider query grant.state true result) store.oauth_consent_grants
        (some params)
  | deleted {provider : OAuthProvider} {query : ConsentCallbackQueryDto} {state : String}
      {found : Bool} {result : ConsentResult} :
      ConsentMove config store (.deleting provider query state found result)
        (.ended provider query found result)
        (store.oauth_consent_grants.filter (!isGrantOf provider state ·)) none

section Move

variable {config : ConsentConfig}

theorem initiate_uses (provider : OAuthProvider) (source state codeVerifier : String) :
    (initiate config provider source state codeVerifier).Uses
      (ConsentStage.CreatesOwn config state codeVerifier) := by
  unfold initiate getProviderConfig
  split
  · trivial
  · rename_i providerConfig known
    split at known
    · cases known
    · rename_i configured
      split
      · refine ⟨trivial, fun now => ⟨⟨rfl, rfl, Option.isSome_of_eq_some configured⟩, ?_⟩⟩
        intro created
        cases created with
        | false => trivial
        | true =>
            refine ⟨trivial, fun url => ?_⟩
            cases url <;> trivial
      · trivial

/-- A callback does nothing with its grant, or exchanges a code with its verifier. -/
theorem useGrant_cases (config : ConsentConfig) (provider : OAuthProvider) (query : ConsentCallbackQueryDto)
    (providerConfig : ConsentProviderConfig) (grant : OAuthConsentGrantEntity) :
    (∃ result, useGrant config provider query providerConfig grant = pure result) ∨
      ∃ (params : ExchangeOAuthCodeParams) (settle : Bool → ConsentResult),
        params.codeVerifier = grant.codeVerifier ∧
        useGrant config provider query providerConfig grant =
          (Program.perform (.exchangeCodeForTokens provider providerConfig.credentials params) >>=
            fun exchanged => pure (settle exchanged)) := by
  unfold useGrant
  split
  · exact .inl ⟨_, rfl⟩
  · rename_i sourceConfig _
    split
    · exact .inl ⟨_, rfl⟩
    · split
      · exact .inl ⟨_, rfl⟩
      · rename_i code _
        refine .inr ⟨⟨code, grant.codeVerifier, providerConfig.redirectUri⟩,
          fun (exchanged : Bool) => if exchanged then buildReturnUrl config sourceConfig.returnUrl true none
            else buildReturnUrl config sourceConfig.returnUrl false (some .provider_error),
          rfl, ?_⟩
        refine congrArg _ (funext fun exchanged => ?_)
        cases exchanged <;> rfl

theorem findActive_eq_some {store : ConsentStore} {provider : OAuthProvider} {state : String}
    {grant : OAuthConsentGrantEntity} (active : findActive store provider state = some grant) :
    (grant ∈ store.oauth_consent_grants ∧ grant.state = state) ∧ grant.provider = provider := by
  rcases Option.filter_eq_some_iff.mp active with ⟨stored, current⟩
  refine ⟨Table.find?_eq_some_iff.mp stored, ?_⟩
  exact of_decide_eq_true (Bool.and_eq_true_iff.mp current).1

/-- Each step of a request moves it to a next stage. -/
theorem ConsentStage.move {store : ConsentStore} {α : Type} {operation : ConsentOperation α}
    {next : α → ConsentProgram ConsentResult} {stage : ConsentStage} (sound : stage.Sound config)
    (configured : ∀ grant ∈ store.oauth_consent_grants, (config.providers grant.provider).isSome)
    (calls : stage.program config = .call operation next) :
    ∃ later : ConsentStage, later.program config = next (handleConsent operation store).1 ∧
      later.Sound config ∧ later.request = stage.request ∧
      ConsentMove config store stage later (handleConsent operation store).2.oauth_consent_grants
        (nextExchange (.call operation next)) := by
  cases stage with
  | initiating provider source state codeVerifier left =>
      cases calls
      have uses : ConsentStage.CreatesOwn config state codeVerifier operation ∧
        ∀ reply, (next reply).Uses (ConsentStage.CreatesOwn config state codeVerifier) := sound
      refine ⟨.initiating provider source state codeVerifier _, rfl, uses.2 _, rfl, ?_⟩
      cases operation with
      | now => exact .prepared rfl
      | create data => exact .created rfl uses.1.1 uses.1.2.1 uses.1.2.2
      | buildAuthorizationUrl => exact .prepared rfl
      | findActiveByProviderAndState => exact uses.1.elim
      | exchangeCodeForTokens => exact uses.1.elim
      | deleteByProviderAndState => exact uses.1.elim
  | looking provider query =>
      rcases Option.isSome_iff_exists.mp sound with ⟨state, carried⟩
      simp only [ConsentStage.program, handleCallback, carried] at calls
      cases calls
      cases looked : findActive store provider state with
      | none =>
          refine ⟨.deleting provider query state false _, ?_, ⟨carried, fun _ => rfl⟩, rfl, .missed⟩
          simp only [handleConsent, looked]
          rfl
      | some grant =>
          rcases findActive_eq_some looked with ⟨⟨stored, own⟩, ofProvider⟩
          cases own
          cases ofProvider
          rcases Option.isSome_iff_exists.mp (configured grant stored) with ⟨providerConfig, known⟩
          have same : getProviderConfig config grant.provider = .ok providerConfig := by
            rw [getProviderConfig, known]
          rcases useGrant_cases (config) grant.provider query providerConfig grant with
            ⟨result, using_⟩ | ⟨params, settle, verifier, using_⟩
          · refine ⟨.deleting grant.provider query grant.state true result, ?_,
              ⟨carried, fun missed => nomatch missed⟩, rfl,
              .found looked carried (.inl ⟨_, rfl⟩)⟩
            simp only [handleConsent, looked, Program.bind, same, using_]
            rfl
          · refine ⟨.exchanging grant.provider query grant providerConfig.credentials params settle,
              ?_, ⟨carried, verifier⟩, rfl, .found looked carried (.inr ⟨_, _, _, rfl⟩)⟩
            simp only [handleConsent, looked, Program.bind, same, using_]
            rfl
  | exchanging provider query grant credentials params settle =>
      cases calls
      refine ⟨.deleting provider query grant.state true (settle _), rfl, ⟨sound.1, ?_⟩, rfl,
        .exchanged⟩
      intro absurd_
      cases absurd_
  | deleting provider query state found result =>
      cases calls
      exact ⟨.ended provider query found result, rfl, sound.2, rfl, .deleted⟩
  | ended provider query found result => cases calls

end Move

/-! ## What a step may change -/

section Moves

variable {config : ConsentConfig} {store : ConsentStore} {stage later : ConsentStage}
  {grants : OAuthConsentGrants} {made : Option ExchangeOAuthCodeParams}

/-- Grants are created by their own flows. -/
theorem ConsentMove.created_cases (move : ConsentMove config store stage later grants made)
    {grant : OAuthConsentGrantEntity} (member : grant ∈ grants) :
    grant ∈ store.oauth_consent_grants ∨ (config.providers grant.provider).isSome ∧
      ∃ provider source,
        stage.request = .initiate provider source grant.state grant.codeVerifier := by
  cases move with
  | created going own verifier configured =>
      rcases Table.mem_insertOrIgnore.mp member with stored | ⟨same, _⟩
      · exact .inl stored
      · cases same
        cases own
        cases verifier
        exact .inr ⟨configured, _, _, rfl⟩
  | deleted => exact .inl (Table.mem_filter.mp member).1
  | _ => exact .inl member

/-- A grant that is gone stays so unless its flow goes on. -/
theorem ConsentMove.find?_eq_none (move : ConsentMove config store stage later grants made)
    {state : String} (absent : store.oauth_consent_grants.find? state = none)
    (finished : stage.request.drawn ≠ some state) : grants.find? state = none := by
  cases found : grants.find? state with
  | none => rfl
  | some grant =>
      rcases Table.find?_eq_some_iff.mp found with ⟨member, own⟩
      rcases move.created_cases member with stored | ⟨_, provider, source, flow⟩
      · exact absurd own (Table.key_ne_of_find?_eq_none absent stored)
      · rw [flow, own] at finished
        exact absurd rfl finished

/-- There is one provider, so that a state tells a grant. -/
theorem isGrantOf_of_state {provider : OAuthProvider} {state : String}
    {grant : OAuthConsentGrantEntity} (own : grant.state = state) :
    isGrantOf provider state grant = true := by
  cases provider
  cases ofProvider : grant.provider
  rw [isGrantOf, ofProvider, own, decide_eq_true rfl, decide_eq_true rfl]
  rfl

/-- A callback that is over has deleted its grant. -/
theorem ConsentMove.gone (move : ConsentMove config store stage later grants made)
    (sound : stage.Sound config) {state : String} (closed : later.closed = some state) :
    grants.find? state = none := by
  cases move with
  | deleted =>
      rw [ConsentStage.closed, sound.1] at closed
      cases closed
      exact Table.find?_filter_of_dropped fun grant own => by rw [isGrantOf_of_state own]; rfl
  | found active carried using_ =>
      rcases using_ with ⟨result, same⟩ | ⟨credentials, params, settle, same⟩
      · cases same
        cases closed
      · cases same
        cases closed
  | _ => cases closed

/-- A callback gets a grant by finding it. -/
theorem ConsentMove.taken_cases (move : ConsentMove config store stage later grants made)
    (sound : stage.Sound config) :
    later.taken = stage.taken ∨ stage.taken = none ∧
      ∃ provider query grant, stage = .looking provider query ∧
        findActive store provider grant.state = some grant ∧
        JsText.truthyText query.state = some grant.state ∧
        later.taken = some grant.state := by
  cases move with
  | found active carried using_ =>
      refine .inr ⟨rfl, _, _, _, rfl, active, carried, ?_⟩
      rcases using_ with ⟨result, same⟩ | ⟨credentials, params, settle, same⟩
      · rw [same]
        exact carried
      · rw [same]
        exact carried
  | exchanged => exact .inl rfl
  | deleted =>
      rename_i found result
      cases found <;> exact .inl rfl
  | _ => exact .inl rfl

/-- Codes are to be exchanged for grants that were there. -/
theorem ConsentMove.held_cases (move : ConsentMove config store stage later grants made)
    {grant : OAuthConsentGrantEntity} (held : later.held = some grant) :
    grant ∈ store.oauth_consent_grants := by
  cases move with
  | found active carried using_ =>
      rcases using_ with ⟨result, same⟩ | ⟨credentials, params, settle, same⟩
      · rw [same] at held
        cases held
      · rw [same] at held
        cases held
        exact (findActive_eq_some active).1.1
  | prepared | created | missed | exchanged | deleted => cases held

theorem ConsentMove.spent (move : ConsentMove config store stage later grants made)
    (spent : stage.spent) : later.spent := by
  cases move with
  | deleted =>
      rename_i found result
      cases found with
      | false => cases spent
      | true => rfl
  | prepared | created | missed | found | exchanged => cases spent

/-- An exchange is made with the verifier of the grant. -/
theorem ConsentMove.exchanged_cases {params : ExchangeOAuthCodeParams}
    (move : ConsentMove config store stage later grants (some params))
    (sound : stage.Sound config) : stage.spent = false ∧ later.spent = true ∧
      ∃ grant, stage.held = some grant ∧ later.taken = some grant.state ∧
        params.codeVerifier = grant.codeVerifier := by
  cases move with
  | exchanged => exact ⟨rfl, rfl, _, rfl, sound.1, sound.2⟩

theorem ConsentStage.carried_of_taken {state : String} (taken : stage.taken = some state) :
    stage.request.carried = some state := by
  cases stage with
  | exchanging => exact taken
  | deleting provider query key found result | ended provider query found result =>
      cases found with
      | false => cases taken
      | true => exact taken
  | initiating | looking => cases taken

theorem ConsentStage.carried_of_closed {state : String} (closed : stage.closed = some state) :
    stage.request.carried = some state := by
  cases stage with
  | ended => exact closed
  | initiating | looking | exchanging | deleting => cases closed

/-- A callback that has found its grant is about to use it, or is over. -/
theorem ConsentStage.isConsuming_or_closed (stage : ConsentStage) (config : ConsentConfig)
    {state : String} (taken : stage.taken = some state) :
    isConsuming (stage.program config) = true ∨ stage.closed = some state := by
  cases stage with
  | exchanging | deleting => exact .inl rfl
  | ended provider query found result =>
      cases found with
      | false => cases taken
      | true => exact .inr taken
  | initiating | looking => cases taken

end Moves

end Reputo.Consent

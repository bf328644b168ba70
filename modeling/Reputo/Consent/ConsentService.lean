import Reputo.Access.Database
import Reputo.Library.JsText

/-!
# OAuth consent

A consent flow leaves a grant in the database when it is initiated.  The callback looks the
grant up, exchanges the code for tokens with the verifier of the grant and deletes the
grant in the end.  Callbacks and other flows run at the same time.
-/

namespace Reputo.Consent

open Reputo.Library Reputo.Access

structure OAuthConsentGrantEntity where
  provider : OAuthProvider
  source : String
  state : String
  codeVerifier : String
  expiresAt : Nat
  deriving DecidableEq, Repr

/-- A state belongs to one grant. -/
abbrev OAuthConsentGrants := Table OAuthConsentGrantEntity OAuthConsentGrantEntity.state

structure ConsentSourceConfig where
  returnUrl : String
  deriving DecidableEq, Repr

structure ConsentProviderSourceConfig where
  scope : String
  deriving DecidableEq, Repr

structure OAuthClientCredentials where
  issuerUrl : String
  clientId : String
  clientSecret : String
  deriving DecidableEq, Repr

structure ConsentProviderConfig where
  credentials : OAuthClientCredentials
  grantTtlSeconds : Nat
  redirectUri : String
  sources : String → Option ConsentProviderSourceConfig

/-- The configuration, what counts as a URL, and the digest of a verifier. -/
structure ConsentConfig where
  providers : OAuthProvider → Option ConsentProviderConfig
  sources : String → Option ConsentSourceConfig
  isUrl : String → Bool
  createPkceChallenge : String → String

structure BuildOAuthAuthorizationUrlParams where
  codeChallenge : String
  redirectUri : String
  scope : String
  state : String
  deriving DecidableEq, Repr

structure ExchangeOAuthCodeParams where
  code : String
  codeVerifier : String
  redirectUri : String
  deriving DecidableEq, Repr

inductive ConsentRedirectReason where
  | denied_consent
  | provider_error
  deriving DecidableEq, Repr

/-- Where the browser is sent: to the provider, or back to the source. -/
inductive ConsentRedirect where
  | authorize (url : String)
  | back (returnUrl : String) (success : Bool) (reason : Option ConsentRedirectReason)
  deriving DecidableEq, Repr

inductive ConsentError where
  | InvalidConsentStateException
  | BadRequestException (message : String)
  | invalidUrl
  | failed
  deriving DecidableEq, Repr

abbrev ConsentResult := Except ConsentError ConsentRedirect

/-- The steps of a request that others can tell apart. -/
inductive ConsentOperation : Type → Type where
  | now : ConsentOperation Nat
  | create (data : OAuthConsentGrantEntity) : ConsentOperation Bool
  | buildAuthorizationUrl (provider : OAuthProvider) (credentials : OAuthClientCredentials)
      (params : BuildOAuthAuthorizationUrlParams) : ConsentOperation (Option String)
  | findActiveByProviderAndState (provider : OAuthProvider) (state : String) :
      ConsentOperation (Option OAuthConsentGrantEntity)
  | exchangeCodeForTokens (provider : OAuthProvider) (credentials : OAuthClientCredentials)
      (params : ExchangeOAuthCodeParams) : ConsentOperation Bool
  | deleteByProviderAndState (provider : OAuthProvider) (state : String) : ConsentOperation Bool

abbrev ConsentProgram := Program ConsentOperation

structure ConsentCallbackQueryDto where
  code : Option String
  state : Option String
  error : Option String
  deriving DecidableEq, Repr

def providerName : OAuthProvider → String
  | .deepId => "deep-id"

variable (config : ConsentConfig)

def getProviderConfig (provider : OAuthProvider) : Except ConsentError ConsentProviderConfig :=
  match config.providers provider with
  | none => .error (.BadRequestException s!"Unknown OAuth provider: {providerName provider}")
  | some providerConfig => .ok providerConfig

def buildReturnUrl (returnUrl : String) (success : Bool)
    (reason : Option ConsentRedirectReason) : ConsentResult :=
  if config.isUrl returnUrl then .ok (.back returnUrl success reason) else .error .invalidUrl

/-- A consent flow with the two random tokens that were drawn for it. -/
def initiate (provider : OAuthProvider) (source state codeVerifier : String) :
    ConsentProgram ConsentResult := do
  match getProviderConfig config provider with
  | .error error => return .error error
  | .ok providerConfig =>
      match config.sources source, providerConfig.sources source with
      | some _, some providerSourceConfig =>
          let now ← Program.perform .now
          let expiresAt := now + providerConfig.grantTtlSeconds * 1000
          let created ← Program.perform
            (.create ⟨provider, source, state, codeVerifier, expiresAt⟩)
          if ¬created then return .error .failed
          let url ← Program.perform (.buildAuthorizationUrl provider providerConfig.credentials
            ⟨config.createPkceChallenge codeVerifier, providerConfig.redirectUri,
              providerSourceConfig.scope, state⟩)
          match url with
          | none => return .error .failed
          | some url => return .ok (.authorize url)
      | _, _ =>
          return .error (.BadRequestException
            s!"Unknown OAuth consent source for provider {providerName provider}: {source}")

/-- What a callback does with its grant. -/
def useGrant (provider : OAuthProvider) (query : ConsentCallbackQueryDto)
    (providerConfig : ConsentProviderConfig) (grant : OAuthConsentGrantEntity) :
    ConsentProgram ConsentResult := do
  match config.sources grant.source with
  | none => return .error .InvalidConsentStateException
  | some sourceConfig =>
      match JsText.truthyText query.error with
      | some error =>
          return buildReturnUrl config sourceConfig.returnUrl false
            (some (if error = "access_denied" then .denied_consent else .provider_error))
      | none =>
          match JsText.truthyText query.code with
          | none =>
              return buildReturnUrl config sourceConfig.returnUrl false (some .provider_error)
          | some code =>
              let exchanged ← Program.perform (.exchangeCodeForTokens provider
                providerConfig.credentials ⟨code, grant.codeVerifier, providerConfig.redirectUri⟩)
              if exchanged then return buildReturnUrl config sourceConfig.returnUrl true none
              else
                return buildReturnUrl config sourceConfig.returnUrl false (some .provider_error)

/-- The grant is deleted however the callback ends. -/
def handleCallback (provider : OAuthProvider) (query : ConsentCallbackQueryDto) :
    ConsentProgram ConsentResult := do
  match JsText.truthyText query.state with
  | none => return .error .InvalidConsentStateException
  | some state =>
      match ← Program.perform (.findActiveByProviderAndState provider state) with
      | none =>
          let _ ← Program.perform (.deleteByProviderAndState provider state)
          return .error .InvalidConsentStateException
      | some grant =>
          match getProviderConfig config provider with
          | .error error => return .error error
          | .ok providerConfig =>
              let result ← useGrant config provider query providerConfig grant
              let _ ← Program.perform (.deleteByProviderAndState provider grant.state)
              return result

/-! ## The database and the provider -/

/-- The time, the grants, and how the provider replies. -/
structure ConsentStore where
  clock : Nat
  oauth_consent_grants : OAuthConsentGrants
  authorizationUrl : BuildOAuthAuthorizationUrlParams → Option String
  accepts : ExchangeOAuthCodeParams → Bool

def findActive (store : ConsentStore) (provider : OAuthProvider) (state : String) :
    Option OAuthConsentGrantEntity :=
  (store.oauth_consent_grants.find? state).filter fun grant =>
    grant.provider = provider && store.clock < grant.expiresAt

def isGrantOf (provider : OAuthProvider) (state : String) (grant : OAuthConsentGrantEntity) :
    Bool :=
  grant.provider = provider && grant.state = state

def handleConsent : Handler ConsentOperation ConsentStore
  | _, .now, store => (store.clock, store)
  | _, .create data, store =>
      ((store.oauth_consent_grants.find? data.state).isNone,
        { store with
          oauth_consent_grants := store.oauth_consent_grants.insertOrIgnore data })
  | _, .buildAuthorizationUrl _ _ params, store => (store.authorizationUrl params, store)
  | _, .findActiveByProviderAndState provider state, store =>
      (findActive store provider state, store)
  | _, .exchangeCodeForTokens _ _ params, store => (store.accepts params, store)
  | _, .deleteByProviderAndState provider state, store =>
      (store.oauth_consent_grants.rows.any (isGrantOf provider state),
        { store with
          oauth_consent_grants :=
            store.oauth_consent_grants.filter (!isGrantOf provider state ·) })

/-- Time passes, expired grants are cleaned up, or the provider changes its mind. -/
inductive ConsentEvent where
  | tick (ms : Nat)
  | deleteExpired
  | provider (authorizationUrl : BuildOAuthAuthorizationUrlParams → Option String)
      (accepts : ExchangeOAuthCodeParams → Bool)

def ConsentEvent.apply : ConsentEvent → ConsentStore → ConsentStore
  | .tick ms, store => { store with clock := store.clock + ms }
  | .deleteExpired, store =>
      { store with
        oauth_consent_grants :=
          store.oauth_consent_grants.filter fun grant => !(grant.expiresAt < store.clock) }
  | .provider authorizationUrl accepts, store => { store with authorizationUrl, accepts }

/-! ## Requests -/

inductive ConsentRequest where
  | initiate (provider : OAuthProvider) (source state codeVerifier : String)
  | callback (provider : OAuthProvider) (query : ConsentCallbackQueryDto)
  deriving DecidableEq, Repr

def ConsentRequest.program : ConsentRequest → ConsentProgram ConsentResult
  | .initiate provider source state codeVerifier =>
      Consent.initiate config provider source state codeVerifier
  | .callback provider query => handleCallback config provider query

/-- The state that a callback carries. -/
def ConsentRequest.carried : ConsentRequest → Option String
  | .initiate .. => none
  | .callback _ query => JsText.truthyText query.state

/-- The state that was drawn for a flow. -/
def ConsentRequest.drawn : ConsentRequest → Option String
  | .initiate _ _ state _ => some state
  | .callback .. => none

/-- Requests at their positions, and the exchanges that they made. -/
structure ConsentRun where
  pool : Pool ConsentStore ConsentOperation ConsentResult
  requests : List ConsentRequest
  exchanges : List (Nat × ExchangeOAuthCodeParams)

abbrev ConsentAction := PoolAction ConsentRequest ConsentEvent

/-- The exchange that a program makes next. -/
def nextExchange : ConsentProgram ConsentResult → Option ExchangeOAuthCodeParams
  | .call (.exchangeCodeForTokens _ _ params) _ => some params
  | _ => none

def ConsentAction.requested : ConsentAction → List ConsentRequest
  | .start request => [request]
  | .proceed _ | .environment _ => []

def ConsentRun.exchanging (run : ConsentRun) : ConsentAction →
    List (Nat × ExchangeOAuthCodeParams)
  | .proceed position =>
      ((run.pool.running[position]?.bind nextExchange).map fun params => (position, params)).toList
  | .start _ | .environment _ => []

def ConsentRun.perform (run : ConsentRun) (action : ConsentAction) : Option ConsentRun :=
  (run.pool.perform handleConsent (ConsentRequest.program config) ConsentEvent.apply action).map
    fun pool =>
      { pool
        requests := run.requests ++ action.requested
        exchanges := run.exchanges ++ run.exchanging action }

/-- The requests with what is left of them. -/
def ConsentRun.entries (run : ConsentRun) : List (ConsentRequest × ConsentProgram ConsentResult) :=
  run.requests.zip run.pool.running

/-- Nobody carries a drawn state before its flow has sent it to the provider. -/
def ConsentRun.KeepsSecrets (run : ConsentRun) : ConsentAction → Prop
  | .start (.initiate _ _ state _) => ∀ request ∈ run.requests, request.carried ≠ some state
  | .start (.callback _ query) => ∀ entry ∈ run.entries,
      (∃ state ∈ entry.1.drawn, JsText.truthyText query.state = some state) →
      ∃ result ∈ entry.2.result?, result.isOk
  | .proceed _ | .environment _ => True

instance (run : ConsentRun) : (action : ConsentAction) → Decidable (run.KeepsSecrets action)
  | .start (.initiate _ _ state _) => inferInstanceAs (Decidable (∀ request ∈ run.requests,
      request.carried ≠ some state))
  | .start (.callback _ query) => inferInstanceAs (Decidable (∀ entry ∈ run.entries,
      (∃ state ∈ entry.1.drawn, JsText.truthyText query.state = some state) →
      ∃ result ∈ entry.2.result?, result.isOk))
  | .proceed _ | .environment _ => isTrue trivial

/-- No grants are there at first. -/
def ConsentRun.begin (clock : Nat)
    (authorizationUrl : BuildOAuthAuthorizationUrlParams → Option String)
    (accepts : ExchangeOAuthCodeParams → Bool) : ConsentRun :=
  ⟨⟨⟨clock, .empty, authorizationUrl, accepts⟩, []⟩, [], []⟩

def consentSystem (initial : ConsentRun → Prop) : System ConsentRun ConsentAction :=
  .ofPerform initial ConsentRun.KeepsSecrets (ConsentRun.perform config)

/-! ## Single use -/

/-- The grant that a program looks up next. -/
def nextLookup : ConsentProgram ConsentResult → Option (OAuthProvider × String)
  | .call (.findActiveByProviderAndState provider state) _ => some (provider, state)
  | _ => none

/-- A program that is neither about to look up its grant nor over. -/
def isConsuming (program : ConsentProgram ConsentResult) : Bool :=
  (nextLookup program).isNone && program.result?.isNone

/-- A callback that finds its grant is the only one that is about to use it. -/
def ConsentRun.LooksUpAlone (run : ConsentRun) : ConsentAction → Prop
  | .proceed position => ∀ program ∈ run.pool.running[position]?,
      ∀ lookup ∈ nextLookup program,
      (findActive run.pool.store lookup.1 lookup.2).isSome → ∀ entry ∈ run.entries,
        entry.1.carried = some lookup.2 → isConsuming entry.2 = false
  | .start _ | .environment _ => True

instance (run : ConsentRun) : (action : ConsentAction) → Decidable (run.LooksUpAlone action)
  | .proceed position => inferInstanceAs (Decidable (∀ program ∈ run.pool.running[position]?,
      ∀ lookup ∈ nextLookup program,
      (findActive run.pool.store lookup.1 lookup.2).isSome → ∀ entry ∈ run.entries,
        entry.1.carried = some lookup.2 → isConsuming entry.2 = false))
  | .start _ | .environment _ => isTrue trivial

def ConsentRun.Carries (run : ConsentRun) (position : Nat) (state : String) : Prop :=
  ∃ request ∈ run.requests[position]?, request.carried = some state

def ConsentRun.Exchanges (run : ConsentRun) (position : Nat) : Prop :=
  position ∈ run.exchanges.map Prod.fst

def ConsentRun.EndsIn (run : ConsentRun) (position : Nat) (result : ConsentResult) : Prop :=
  ∃ program ∈ run.pool.running[position]?, program.result? = some result

/-- A request that has exchanged a code, or was not rejected. -/
def ConsentRun.Consumes (run : ConsentRun) (position : Nat) : Prop :=
  run.Exchanges position ∨
    ∃ result, run.EndsIn position result ∧ result ≠ .error .InvalidConsentStateException

/-- Grants are consumed at most once, with their own verifiers. -/
structure ConsentRun.SingleUse (run : ConsentRun) : Prop where
  once : (run.exchanges.map Prod.fst).Nodup
  verified : ∀ exchange ∈ run.exchanges, ∃ state, run.Carries exchange.1 state ∧
    ∃ provider source,
      ConsentRequest.initiate provider source state exchange.2.codeVerifier ∈ run.requests
  alone : ∀ first second state, first ≠ second → run.Carries first state →
    run.Carries second state → run.Consumes first → ¬run.Consumes second

end Reputo.Consent

import Reputo.Community.Http
import Reputo.Library.System

/-!
# The transport of a GitHub App

Requests for installations are made with tokens that are minted for each installation and
kept in memory.  The transport remembers the rate limit that the last response of any
installation reported, refuses requests while it is spent, and takes a refusal by the
platform for a rate limit then.
-/

namespace Reputo.Community

open Reputo.Library

namespace GithubTransport

/-- Installation tokens live an hour; they are not used in the last minutes of it. -/
def INSTALLATION_TOKEN_SKEW_MS : ℚ := 5 * 60000

structure GitHubRateLimit where
  limit : ℚ
  remaining : ℚ
  resetAt : ℚ
  deriving DecidableEq, Repr

def readRateLimit (js : JsRuntime) (headers : HttpHeaders) : Option GitHubRateLimit := do
  let limit ← (firstHeader headers "x-ratelimit-limit").bind js.number
  let remaining ← (firstHeader headers "x-ratelimit-remaining").bind js.number
  let resetAt ← (firstHeader headers "x-ratelimit-reset").bind js.number
  return ⟨limit, remaining, resetAt⟩

structure InstallationToken where
  token : String
  expiresAtMs : ℚ
  deriving DecidableEq, Repr

/-- The response to a mint, with the time that its `expires_at` is parsed to. -/
structure InstallationTokenResponse where
  token : Option String
  expiresAtMs : Option ℚ
  deriving DecidableEq, Repr

/-- A call waits for a token, is sent, or is over; it is sent a second time with a new
token. -/
inductive CallPhase where
  | awaiting (again : Bool)
  | sent (again : Bool) (token : String)
  | ended (outcome : Except HttpFailure (Option (Json ℚ)))

structure InstallationCall where
  installationId : String
  path : String
  phase : CallPhase

abbrev InstallationReply := Except HttpFailure HttpResponse

/-- Whether a call was taken to be rate limited, and what its installation had been replied
until then. -/
structure RateLimitDecision where
  installationId : String
  nowMs : ℚ
  replies : List InstallationReply
  again : Bool
  rateLimited : Bool

/-- The state that `createGitHubApi` closes over, with the calls, and what was replied and
decided. -/
structure GitHubApi where
  nowMs : ℚ
  tokens : String → Option InstallationToken
  inFlight : List String
  rateLimit : Option GitHubRateLimit
  calls : List InstallationCall
  received : List (String × InstallationReply)
  decisions : List RateLimitDecision

def createGitHubApi (nowMs : ℚ) : GitHubApi := ⟨nowMs, fun _ => none, [], none, [], [], []⟩

def isSpent (rateLimit : Option GitHubRateLimit) (nowMs : ℚ) : Bool :=
  match rateLimit with
  | none => false
  | some rateLimit => rateLimit.remaining ≤ 0 && nowMs < rateLimit.resetAt * 1000

def GitHubApi.budgetExhausted (api : GitHubApi) : Bool := isSpent api.rateLimit api.nowMs

/-- The replies to an installation so far. -/
def GitHubApi.repliesOf (api : GitHubApi) (installationId : String) : List InstallationReply :=
  (api.received.filter (·.1 = installationId)).map Prod.snd

def GitHubApi.decide (api : GitHubApi) (installationId : String) (again rateLimited : Bool) :
    GitHubApi :=
  { api with
    decisions := api.decisions ++
      [⟨installationId, api.nowMs, api.repliesOf installationId, again, rateLimited⟩] }

def rateLimitExhausted (retryAfterMs : Option ℚ) : HttpFailure :=
  .rateLimit "The GitHub installation rate limit is exhausted for this window." retryAfterMs

/-- A token that is cached, or the wait for one that is minted. -/
def GitHubApi.getInstallationToken (api : GitHubApi) (installationId : String)
    (forceRefresh : Bool) : CallPhase × GitHubApi :=
  match (api.tokens installationId).filter fun cached =>
      !forceRefresh && api.nowMs < cached.expiresAtMs - INSTALLATION_TOKEN_SKEW_MS with
  | some cached => (.sent forceRefresh cached.token, api)
  | none =>
      let tokens := if forceRefresh then Function.update api.tokens installationId none
        else api.tokens
      let inFlight := if installationId ∈ api.inFlight then api.inFlight
        else installationId :: api.inFlight
      (.awaiting forceRefresh, { api with tokens, inFlight })

/-- A call begins: it is refused, or gets its token. -/
def GitHubApi.begin (api : GitHubApi) (installationId path : String) : GitHubApi :=
  if api.budgetExhausted then
    let retryAfterMs := api.rateLimit.map fun rateLimit => max 0 (rateLimit.resetAt * 1000 - api.nowMs)
    let refused := api.decide installationId false true
    { refused with
      calls := refused.calls ++
        [⟨installationId, path, .ended (.error (rateLimitExhausted retryAfterMs))⟩] }
  else
    let (phase, after) := (api.decide installationId false false).getInstallationToken
      installationId false
    { after with calls := after.calls ++ [⟨installationId, path, phase⟩] }

/-- The first attempt of a call has failed. -/
def GitHubApi.handleFailure (api : GitHubApi) (installationId : String) (error : HttpFailure) :
    CallPhase × GitHubApi :=
  match error with
  | .permission .. =>
      (.ended (.error (if api.budgetExhausted then rateLimitExhausted none else error)),
        api.decide installationId false api.budgetExhausted)
  | .auth .. => api.getInstallationToken installationId true
  | _ => (.ended (.error error), api)

/-- A failure of either attempt; the second one is final. -/
def GitHubApi.fail (api : GitHubApi) (installationId : String) (again : Bool)
    (error : HttpFailure) : CallPhase × GitHubApi :=
  if again then
    (.ended (.error error),
      match error with
      | .permission .. => api.decide installationId true false
      | _ => api)
  else api.handleFailure installationId error

/-- What the response to a mint comes to. -/
def fetchInstallationToken (nowMs : ℚ) : Except HttpFailure InstallationTokenResponse →
    Except HttpFailure InstallationToken
  | .error error => .error error
  | .ok response => match JsText.truthyText response.token with
      | none =>
          .error (.contract "GitHub returned no installation token for this installation.")
      | some token =>
          .ok ⟨token, response.expiresAtMs.getD (nowMs + INSTALLATION_TOKEN_SKEW_MS)⟩

/-- A mint is over; a token that it brought is cached. -/
def GitHubApi.settleMint (api : GitHubApi) (installationId : String)
    (minted : Except HttpFailure InstallationToken) : GitHubApi :=
  { api with
    tokens := match minted with
      | .ok token => Function.update api.tokens installationId (some token)
      | .error _ => api.tokens
    inFlight := api.inFlight.filter (· ≠ installationId) }

/-- A call goes on when the token that it awaits is there, or failed to be minted. -/
def GitHubApi.resume (api : GitHubApi) (installationId : String)
    (minted : Except HttpFailure InstallationToken) (call : InstallationCall) :
    InstallationCall × GitHubApi :=
  match call.phase with
  | .awaiting again =>
      if call.installationId = installationId then
        match minted with
        | .ok token => ({ call with phase := .sent again token.token }, api)
        | .error error =>
            let (phase, after) := api.fail installationId again error
            ({ call with phase }, after)
      else (call, api)
  | _ => (call, api)

/-- The calls that await a token go on one after the other. -/
def GitHubApi.resumeAll (installationId : String) (minted : Except HttpFailure InstallationToken) :
    List InstallationCall → GitHubApi → List InstallationCall × GitHubApi
  | [], api => ([], api)
  | call :: rest, api =>
      let (resumed, after) := api.resume installationId minted call
      let (others, last) := resumeAll installationId minted rest after
      (resumed :: others, last)

/-- What happens: a call begins, a mint or a request is replied to, a request for the App
itself is, or time passes. -/
inductive GitHubAction where
  | begin (installationId path : String)
  | minted (installationId : String) (reply : Except HttpFailure InstallationTokenResponse)
  | replied (position : Nat) (reply : InstallationReply)
  | appReplied (reply : InstallationReply)
  | tick (ms : ℚ)

/-- The reply to a call that was sent. -/
def GitHubApi.receive (js : JsRuntime) (api : GitHubApi) (call : InstallationCall) (again : Bool)
    (reply : InstallationReply) : CallPhase × GitHubApi :=
  let received : GitHubApi :=
    { api with received := api.received ++ [(call.installationId, reply)] }
  match reply with
  | .ok response => (.ended (.ok response.data),
      { received with
        rateLimit := (readRateLimit js response.headers).or api.rateLimit })
  | .error error => received.fail call.installationId again error

def GitHubApi.perform (js : JsRuntime) (api : GitHubApi) : GitHubAction → Option GitHubApi
  | .begin installationId path => some (api.begin installationId path)
  | .minted installationId reply =>
      if installationId ∈ api.inFlight then
        let minted := fetchInstallationToken api.nowMs reply
        let (calls, after) := GitHubApi.resumeAll installationId minted api.calls
          (api.settleMint installationId minted)
        some { after with calls }
      else none
  | .replied position reply => match api.calls[position]? with
      | some call => match call.phase with
          | .sent again _ =>
              let (phase, after) := api.receive js call again reply
              some { after with calls := after.calls.set position { call with phase } }
          | _ => none
      | none => none
  | .appReplied _ => some api
  | .tick ms => some { api with nowMs := api.nowMs + max 0 ms }

def githubTransport (js : JsRuntime) (nowMs : ℚ) : System GitHubApi GitHubAction :=
  .ofPerform (· = createGitHubApi nowMs) (fun _ _ => True) (GitHubApi.perform js)

/-! ## Isolation -/

section Isolation

variable (js : JsRuntime)

/-- The rate limit that a reply reports. -/
def reading (reply : InstallationReply) : Option GitHubRateLimit :=
  reply.toOption.bind fun response => readRateLimit js response.headers

def lastReading (replies : List InstallationReply) : Option GitHubRateLimit :=
  (replies.filterMap (reading js)).getLast?

/-- A call is taken to be rate limited if the last rate limit that its own installation
reported is spent; a second attempt never is. -/
def RateLimitDecision.Isolated (decision : RateLimitDecision) : Prop :=
  decision.rateLimited =
    (!decision.again && isSpent (lastReading js decision.replies) decision.nowMs)

/-- The rate limits that were reported, with the installations. -/
def GitHubApi.readings (api : GitHubApi) : List (String × GitHubRateLimit) :=
  api.received.filterMap fun entry => (reading js entry.2).map (entry.1, ·)

/-- If another installation was the last to report, its rate limit is spent exactly if the
last one that the installation itself reported is. -/
def GitHubApi.Undisturbed (api : GitHubApi) (installationId : String) : Prop :=
  ∀ latest ∈ (api.readings js).getLast?, latest.1 ≠ installationId →
    isSpent (some latest.2) api.nowMs =
      isSpent (lastReading js (api.repliesOf installationId)) api.nowMs

/-- The installation for which it is decided next whether it is rate limited. -/
def GitHubApi.decidesFor (api : GitHubApi) : GitHubAction → Option String
  | .begin installationId _ => some installationId
  | .minted installationId (.error error) =>
      if error.isPermission then some installationId else none
  | .replied position (.error error) =>
      if error.isPermission then api.calls[position]?.map (·.installationId) else none
  | .minted _ (.ok _) | .replied _ (.ok _) | .appReplied _ | .tick _ => none

def GitHubApi.DecidesUndisturbed (api : GitHubApi) (action : GitHubAction) : Prop :=
  ∀ installationId ∈ api.decidesFor action, api.Undisturbed js installationId

instance (api : GitHubApi) (installationId : String) :
    Decidable (api.Undisturbed js installationId) :=
  inferInstanceAs (Decidable (∀ latest ∈ (api.readings js).getLast?,
    latest.1 ≠ installationId → _ = _))

instance (api : GitHubApi) (action : GitHubAction) :
    Decidable (api.DecidesUndisturbed js action) :=
  inferInstanceAs (Decidable (∀ installationId ∈ api.decidesFor action,
    api.Undisturbed js installationId))

end Isolation

/-! ## What steps decide -/

/-- Nothing is decided but for one installation, by the rate limit that is remembered, and
only where that is allowed. -/
structure Decides (allowed : Prop) (installationId : String) (before after : GitHubApi) :
    Prop where
  nowMs : after.nowMs = before.nowMs
  rateLimit : after.rateLimit = before.rateLimit
  received : after.received = before.received
  decisions : ∃ added, after.decisions = before.decisions ++ added ∧ ∀ decision ∈ added,
    allowed ∧ decision.nowMs = before.nowMs ∧ decision.replies = before.repliesOf installationId ∧
      decision.rateLimited = (!decision.again && before.budgetExhausted)

section Decides

variable {allowed : Prop} {installationId : String} {before between after : GitHubApi}

/-- Nothing is decided. -/
theorem Decides.nothing (nowMs : after.nowMs = before.nowMs)
    (rateLimit : after.rateLimit = before.rateLimit) (received : after.received = before.received)
    (decisions : after.decisions = before.decisions) :
    Decides allowed installationId before after :=
  ⟨nowMs, rateLimit, received, [], by rw [decisions, List.append_nil],
    fun _ absent => absurd absent List.not_mem_nil⟩

theorem Decides.repliesOf (decides : Decides allowed installationId before after) :
    after.repliesOf installationId = before.repliesOf installationId := by
  rw [GitHubApi.repliesOf, decides.received, GitHubApi.repliesOf]

theorem Decides.budgetExhausted (decides : Decides allowed installationId before after) :
    after.budgetExhausted = before.budgetExhausted := by
  rw [GitHubApi.budgetExhausted, decides.rateLimit, decides.nowMs, GitHubApi.budgetExhausted]

theorem Decides.trans (first : Decides allowed installationId before between)
    (second : Decides allowed installationId between after) :
    Decides allowed installationId before after := by
  rcases first.decisions with ⟨added, grown, sound⟩
  rcases second.decisions with ⟨more, grownAgain, soundAgain⟩
  refine ⟨second.nowMs.trans first.nowMs, second.rateLimit.trans first.rateLimit,
    second.received.trans first.received, added ++ more, ?_, ?_⟩
  · rw [grownAgain, grown, List.append_assoc]
  · intro decision member
    rcases List.mem_append.mp member with earlier | later
    · exact sound decision earlier
    · rw [← first.nowMs, ← first.repliesOf, ← first.budgetExhausted]
      exact soundAgain decision later

theorem decides_decide {again rateLimited : Bool} (permitted : allowed)
    (own : rateLimited = (!again && before.budgetExhausted)) :
    Decides allowed installationId before (before.decide installationId again rateLimited) := by
  refine ⟨rfl, rfl, rfl, _, rfl, ?_⟩
  intro decision member
  rw [List.mem_singleton.mp member]
  exact ⟨permitted, rfl, rfl, own⟩

theorem decides_getInstallationToken (forceRefresh : Bool) :
    Decides allowed installationId before
      (before.getInstallationToken installationId forceRefresh).2 := by
  rw [GitHubApi.getInstallationToken]
  split
  · exact .nothing rfl rfl rfl rfl
  · exact .nothing rfl rfl rfl rfl

theorem decides_fail (again : Bool) {error : HttpFailure}
    (permitted : error.isPermission = true → allowed) :
    Decides allowed installationId before (before.fail installationId again error).2 := by
  cases again with
  | true =>
      cases error with
      | permission => exact decides_decide (permitted rfl) rfl
      | _ => exact .nothing rfl rfl rfl rfl
  | false =>
      cases error with
      | permission => exact decides_decide (permitted rfl) (Bool.true_and _).symm
      | auth => exact decides_getInstallationToken true
      | _ => exact .nothing rfl rfl rfl rfl

theorem decides_resume {minted : Except HttpFailure InstallationToken} (call : InstallationCall)
    (permitted : ∀ error, minted = .error error → error.isPermission = true → allowed) :
    Decides allowed installationId before (before.resume installationId minted call).2 := by
  rw [GitHubApi.resume]
  split
  · split
    · split
      · exact .nothing rfl rfl rfl rfl
      · exact decides_fail _ (permitted _ rfl)
    · exact .nothing rfl rfl rfl rfl
  · exact .nothing rfl rfl rfl rfl

theorem decides_resumeAll {minted : Except HttpFailure InstallationToken}
    (calls : List InstallationCall)
    (permitted : ∀ error, minted = .error error → error.isPermission = true → allowed) :
    Decides allowed installationId before
      (GitHubApi.resumeAll installationId minted calls before).2 := by
  induction calls generalizing before with
  | nil => exact .nothing rfl rfl rfl rfl
  | cons call rest ih => exact (decides_resume call permitted).trans ih

theorem decides_begin (permitted : allowed) (path : String) :
    Decides allowed installationId before (before.begin installationId path) := by
  rw [GitHubApi.begin]
  cases spent : before.budgetExhausted with
  | true =>
      have decided : Decides allowed installationId before
          (before.decide installationId false true) := by
        refine decides_decide permitted ?_
        rw [spent]
        rfl
      exact decided.trans (.nothing rfl rfl rfl rfl)
  | false =>
      have decided : Decides allowed installationId before
          (before.decide installationId false false) := by
        refine decides_decide permitted ?_
        rw [spent]
        rfl
      exact (decided.trans (decides_getInstallationToken false)).trans (.nothing rfl rfl rfl rfl)

end Decides

/-! ## Runs -/

/-- The rate limit that is remembered is the last one reported, and what was decided is
decided by the installations themselves. -/
structure Isolates (js : JsRuntime) (api : GitHubApi) : Prop where
  remembered : api.rateLimit = (api.readings js).getLast?.map Prod.snd
  decisions : ∀ decision ∈ api.decisions, decision.Isolated js

section Runs

variable {js : JsRuntime} {api before after : GitHubApi}

theorem lastReading_repliesOf (installationId : String) :
    lastReading js (api.repliesOf installationId) =
      (((api.readings js).filter (·.1 = installationId)).map Prod.snd).getLast? := by
  rw [lastReading, GitHubApi.repliesOf, GitHubApi.readings]
  congr 1
  induction api.received with
  | nil => rfl
  | cons entry rest ih =>
      by_cases own : entry.1 = installationId
      · cases read : reading js entry.2 with
        | none => simp [own, read, ih]
        | some rateLimit => simp [own, read, ih]
      · cases read : reading js entry.2 with
        | none => simp [own, read, ih]
        | some rateLimit => simp [own, read, ih]

/-- Where it is not disturbed, the rate limit of an installation decides. -/
theorem Isolates.budgetExhausted (isolates : Isolates js api) {installationId : String}
    (undisturbed : api.Undisturbed js installationId) :
    api.budgetExhausted =
      isSpent (lastReading js (api.repliesOf installationId)) api.nowMs := by
  rw [GitHubApi.budgetExhausted, isolates.remembered]
  cases last : (api.readings js).getLast? with
  | none =>
      rw [lastReading_repliesOf, List.getLast?_eq_none_iff.mp last]
      rfl
  | some latest =>
      by_cases own : latest.1 = installationId
      · rcases List.getLast?_eq_some_iff.mp last with ⟨earlier, whole⟩
        rw [lastReading_repliesOf, whole, List.filter_append, List.map_append,
          List.filter_cons_of_pos (by simpa using own), List.filter_nil, List.map_singleton,
          List.getLast?_append, List.getLast?_singleton]
        rfl
      · exact undisturbed latest last own

theorem Isolates.of_decides {allowed : Prop} {installationId : String}
    (isolates : Isolates js before) (decides : Decides allowed installationId before after)
    (undisturbed : allowed → before.Undisturbed js installationId) : Isolates js after := by
  constructor
  · rw [decides.rateLimit, isolates.remembered, GitHubApi.readings, GitHubApi.readings,
      decides.received]
  · rcases decides.decisions with ⟨added, grown, sound⟩
    intro decision member
    rw [grown] at member
    rcases List.mem_append.mp member with earlier | new
    · exact isolates.decisions decision earlier
    · rcases sound decision new with ⟨permitted, nowMs, replies, limited⟩
      rw [RateLimitDecision.Isolated, limited, nowMs, replies,
        isolates.budgetExhausted (undisturbed permitted)]

/-- Nothing changes but what is neither reported nor decided. -/
theorem Isolates.of_same (isolates : Isolates js before)
    (rateLimit : after.rateLimit = before.rateLimit) (received : after.received = before.received)
    (decisions : after.decisions = before.decisions) : Isolates js after := by
  constructor
  · rw [rateLimit, isolates.remembered, GitHubApi.readings, GitHubApi.readings, received]
  · rw [decisions]
    exact isolates.decisions

/-- A failure reports nothing. -/
theorem readings_failed (js : JsRuntime) (api : GitHubApi) (installationId : String)
    (error : HttpFailure) :
    ({ api with received := api.received ++ [(installationId, .error error)] } :
      GitHubApi).readings js = api.readings js := by
  simp only [GitHubApi.readings, List.filterMap_append]
  exact List.append_nil _

theorem Isolates.receive (isolates : Isolates js before) {call : InstallationCall} {again : Bool}
    {reply : InstallationReply}
    (undisturbed : ∀ error, reply = .error error → error.isPermission = true →
      before.Undisturbed js call.installationId) :
    Isolates js (before.receive js call again reply).2 := by
  cases reply with
  | ok response =>
      constructor
      · have appended : (before.receive js call again (.ok response)).2.readings js =
            before.readings js ++ ((readRateLimit js response.headers).map
              (call.installationId, ·)).toList := by
          simp only [GitHubApi.receive, GitHubApi.readings, List.filterMap_append]
          cases read : readRateLimit js response.headers <;>
            simp [reading, Except.toOption, read]
        rw [appended]
        cases read : readRateLimit js response.headers with
        | none =>
            simp only [GitHubApi.receive, read, Option.none_or, Option.map_none,
              Option.toList_none, List.append_nil]
            exact isolates.remembered
        | some rateLimit =>
            simp [GitHubApi.receive, read]
      · exact isolates.decisions
  | error error =>
      have same := readings_failed js before call.installationId error
      have received : Isolates js
          { before with received := before.received ++ [(call.installationId, .error error)] } := by
        constructor
        · rw [same]
          exact isolates.remembered
        · exact isolates.decisions
      refine received.of_decides (decides_fail again fun denied => undisturbed error rfl denied) ?_
      intro calm latest last other
      rw [same] at last
      rw [lastReading_repliesOf, same, ← lastReading_repliesOf]
      exact calm latest last other

theorem Isolates.step (isolates : Isolates js before) {action : GitHubAction}
    (calm : before.DecidesUndisturbed js action)
    (performed : before.perform js action = some after) : Isolates js after := by
  cases action with
  | begin installationId path =>
      cases performed
      exact isolates.of_decides (decides_begin trivial path) fun _ => calm installationId rfl
  | minted installationId reply =>
      rw [GitHubApi.perform] at performed
      split at performed
      · cases performed
        have permitted : ∀ error, fetchInstallationToken before.nowMs reply = .error error →
            error.isPermission = true → before.Undisturbed js installationId := by
          intro error failed denied
          cases reply with
          | error other =>
              cases failed
              refine calm installationId ?_
              rw [GitHubApi.decidesFor, if_pos denied]
              rfl
          | ok response =>
              rw [fetchInstallationToken] at failed
              split at failed
              · cases failed
                cases denied
              · cases failed
        have settled : Isolates js (before.settleMint installationId
            (fetchInstallationToken before.nowMs reply)) := isolates.of_same rfl rfl rfl
        exact (settled.of_decides (decides_resumeAll before.calls permitted)
          fun calm => calm).of_same rfl rfl rfl
      · cases performed
  | replied position reply =>
      rw [GitHubApi.perform] at performed
      split at performed
      · split at performed
        · cases performed
          rename_i call found _ again token phase
          have received : Isolates js (before.receive js call again reply).2 := by
            refine isolates.receive fun error failed denied => calm call.installationId ?_
            cases failed
            rw [GitHubApi.decidesFor, if_pos denied, found]
            rfl
          exact received.of_same rfl rfl rfl
        · cases performed
      · cases performed
  | appReplied reply =>
      cases performed
      exact isolates
  | tick ms =>
      cases performed
      exact isolates.of_same rfl rfl rfl

end Runs

/-- Where nothing is decided for an installation while another one has reported a rate
limit that is spent when its own is not, or the other way round, installations are limited
by their own rate limits. -/
theorem githubTransport_isolates (js : JsRuntime) (nowMs : ℚ) (api : GitHubApi)
    (reachable : (githubTransport js nowMs).Reachable (GitHubApi.DecidesUndisturbed js) api) :
    ∀ decision ∈ api.decisions, decision.Isolated js := by
  have initially : ∀ before, before = createGitHubApi nowMs → Isolates js before := by
    intro before first
    cases first
    exact ⟨rfl, fun _ absent => absurd absent List.not_mem_nil⟩
  have isolates : Isolates js api := by
    apply reachable.invariant initially
    intro before action after isolates calm stepped
    exact isolates.step calm stepped.2
  exact isolates.decisions

/-! ## Two installations -/

private def digitRuntime : JsRuntime where
  toLowerCase := asciiLowerCase
  toLowerCase_ascii := toList_asciiLowerCase
  number text := if text = "0" then some 0 else if text = "3600" then some 3600
    else if text = "5000" then some 5000 else none
  parseJson _ := .error ⟨true, "Unexpected token", ""⟩

/-- A response that reports what is left until the end of the hour. -/
private def reporting (remaining : String) : InstallationReply :=
  .ok ⟨200, fun name =>
    if name = "x-ratelimit-limit" then some (.one "5000")
    else if name = "x-ratelimit-remaining" then some (.one remaining)
    else if name = "x-ratelimit-reset" then some (.one "3600") else none, none⟩

private def requested (installationId : String) (position : Nat) (remaining : String) :
    List GitHubAction :=
  [.begin installationId "/repos", .minted installationId (.ok ⟨some "token", none⟩),
    .replied position (reporting remaining)]

private def performTransport (actions : List GitHubAction) : GitHubApi :=
  System.performAll (GitHubApi.perform digitRuntime) (createGitHubApi 0) actions

private theorem performTransport_reachable {permitted : GitHubApi → GitHubAction → Prop}
    {actions : List GitHubAction}
    (along : System.AllAlong (GitHubApi.perform digitRuntime)
      (fun before action => permitted before action ∧ True) (createGitHubApi 0) actions) :
    (githubTransport digitRuntime 0).Reachable permitted (performTransport actions) :=
  System.reachable_performAll (.start rfl) along

theorem githubTransport_isolates_sample :
    (performTransport (requested "first" 0 "5000" ++ requested "second" 1 "0" ++
        [.begin "second" "/repos"])).decisions.map (·.rateLimited) = [false, false, true] ∧
      ∀ decision ∈ (performTransport (requested "first" 0 "5000" ++ requested "second" 1 "0" ++
        [.begin "second" "/repos"])).decisions, decision.Isolated digitRuntime :=
  ⟨by decide +kernel,
    githubTransport_isolates digitRuntime 0 _ (performTransport_reachable (by decide +kernel))⟩

/-- Whether a request is refused is not decided by what its own installation was replied. -/
theorem githubTransport_shares :
    ¬∃ limited : List InstallationReply → ℚ → Bool → Bool, ∀ api,
      (githubTransport digitRuntime 0).Reachable (fun _ _ => True) api →
      ∀ decision ∈ api.decisions,
        decision.rateLimited = limited decision.replies decision.nowMs decision.again := by
  intro ⟨limited, decided⟩
  have unreplied : ∀ (actions : List GitHubAction) (position : Nat) (verdict : Bool),
      (githubTransport digitRuntime 0).Reachable (fun _ _ => True) (performTransport actions) →
      ((performTransport actions).decisions[position]?.map fun decision =>
        (decision.replies.length, decision.nowMs, decision.again, decision.rateLimited)) =
          some (0, 0, false, verdict) → verdict = limited [] 0 false := by
    intro actions position verdict reachable found
    rcases Option.map_eq_some_iff.mp found with ⟨decision, located, same⟩
    have own := decided _ reachable decision (List.mem_of_getElem? located)
    rcases decision with ⟨installationId, nowMs, replies, again, rateLimited⟩
    cases List.length_eq_zero_iff.mp (congrArg Prod.fst same)
    cases same
    exact own
  have free := unreplied [.begin "second" "/repos"] 0 false
    (performTransport_reachable (by decide +kernel)) (by decide +kernel)
  have refused := unreplied (requested "first" 0 "0" ++ [.begin "second" "/repos"]) 1 true
    (performTransport_reachable (by decide +kernel)) (by decide +kernel)
  cases free.trans refused.symm

end GithubTransport

end Reputo.Community

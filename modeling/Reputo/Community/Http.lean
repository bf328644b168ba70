import Mathlib.Data.Rat.Floor
import Reputo.Community.Records
import Reputo.Library.JsText
import Reputo.Library.Json

/-!
# HTTP requests to platforms

A request is attempted a number of times.  Throttles, failures of the server and failures
of the transport are worth another attempt; a failure is one of the transport if its
message says so.
-/

namespace Reputo.Community

open Reputo.Library

/-! ## Failures -/

/-- An error that the runtime throws. -/
structure ThrownError where
  isError : Bool
  message : String
  code : String
  deriving DecidableEq, Repr

inductive HttpFailure where
  | auth (message : String) (statusCode : Nat)
  | permission (message : String) (statusCode : Nat)
  | rateLimit (message : String) (retryAfterMs : Option ℚ)
  | http (message : String) (statusCode : Nat)
  | network (message : String)
  | outboundPolicy (message : String)
  | contract (message : String)
  | thrown (error : ThrownError)
  deriving DecidableEq, Repr

def HttpFailure.message : HttpFailure → String
  | auth message _ | permission message _ | rateLimit message _ | http message _
  | network message | outboundPolicy message | contract message => message
  | thrown error => error.message

/-- The `code` of an error, where it has one. -/
def HttpFailure.code : HttpFailure → String
  | thrown error => error.code
  | _ => ""

def HttpFailure.isError : HttpFailure → Bool
  | thrown error => error.isError
  | _ => true

/-- The class of an error, with the status of a failed response. -/
def HttpFailure.toApiError : HttpFailure → CommunityApiError
  | auth .. => .auth
  | permission .. => .permission
  | rateLimit .. => .rateLimit
  | http _ statusCode => .http statusCode
  | network _ => .network
  | outboundPolicy _ => .outboundPolicy
  | contract _ => .contract
  | thrown _ => .other

def HttpFailure.isPermission : HttpFailure → Bool
  | permission .. => true
  | _ => false

def BODY_SNIPPET_LENGTH : Nat := 200

def snippet (body : String) : String :=
  if JsText.trim body = "" then ""
  else s!" — {JsText.sliceStart (JsText.trim body) BODY_SNIPPET_LENGTH}"

def communityHttpError (statusCode : Nat) (statusText body : String) : HttpFailure :=
  .http s!"HTTP {statusCode}: {statusText}{snippet body}" statusCode

/-! ## Headers and texts -/

inductive HeaderValue where
  | one (text : String)
  | several (texts : List String)
  deriving DecidableEq, Repr

abbrev HttpHeaders := String → Option HeaderValue

def firstHeader (headers : HttpHeaders) (name : String) : Option String :=
  match headers name with
  | some (.one text) => some text
  | some (.several texts) => texts.head?
  | none => none

/-- What the runtime makes of texts: lower case, which is known of ASCII texts, numbers
where they are finite, and JSON values. -/
structure JsRuntime where
  toLowerCase : String → String
  toLowerCase_ascii : ∀ text, (∀ character ∈ text.toList, character.toNat < 128) →
    (toLowerCase text).toList = text.toList.map Char.toLower
  number : String → Option ℚ
  parseJson : String → Except ThrownError (Json ℚ)

/-- The lower case of ASCII texts. -/
def asciiLowerCase (text : String) : String := String.ofList (text.toList.map Char.toLower)

theorem toList_asciiLowerCase (text : String)
    (_ : ∀ character ∈ text.toList, character.toNat < 128) :
    (asciiLowerCase text).toList = text.toList.map Char.toLower :=
  String.toList_ofList

variable (js : JsRuntime)

def NETWORK_ERROR_HINTS : List String :=
  ["timeout", "etimedout", "econnreset", "econnrefused", "econnaborted", "enotfound", "eai_again",
    "ehostunreach", "enetunreach", "epipe", "socket hang up", "network", "und_err"]

def isNetworkError (error : HttpFailure) : Bool :=
  error.isError && NETWORK_ERROR_HINTS.any fun hint =>
    JsText.includes (js.toLowerCase error.message) hint ||
      JsText.includes (js.toLowerCase error.code) hint

/-- `Math.round(seconds * 1000)`. -/
def roundMs (seconds : ℚ) : ℚ := ⌊seconds * 1000 + 1 / 2⌋

/-- The field of the body that repeats how long to wait. -/
def retryAfterField (body : String) : Option ℚ :=
  match js.parseJson body with
  | .ok (.obj fields) =>
      (fields.find? fun entry => entry.1 = "retry_after").bind fun entry =>
        entry.2.asNumber.filter (0 ≤ ·)
  | _ => none

def parseRetryAfterMs (headers : HttpHeaders) (body : String) : Option ℚ :=
  match ((firstHeader headers "retry-after").bind js.number).filter (0 ≤ ·) with
  | some seconds => some (roundMs seconds)
  | none => (retryAfterField js body).map roundMs

def parseRateLimitResetMs (headers : HttpHeaders) (nowMs : ℚ) : Option ℚ :=
  ((firstHeader headers "x-ratelimit-reset").bind js.number).map fun reset =>
    max 0 (reset * 1000 - nowMs)

def hasSpentBudget (headers : HttpHeaders) : Bool :=
  (firstHeader headers "x-ratelimit-remaining").bind js.number = some 0

/-! ## Attempts -/

structure RetryConfig where
  maxAttempts : Nat
  baseDelayMs : ℚ
  maxDelayMs : ℚ
  deriving DecidableEq, Repr

structure HttpRequestOptions where
  throttleOnSpentBudget : Bool
  rejectRedirects : Bool
  maxResponseBytes : Option Nat
  deriving DecidableEq, Repr

/-- What an attempt meets: a response, whose body has a size, or a failure of the
transport. -/
inductive HttpReply where
  | response (statusCode : Nat) (headers : HttpHeaders) (size : Nat) (text : String)
  | failed (error : ThrownError)

/-- The reply to an attempt, the time, and what `Math.random` yields. -/
structure HttpExchange where
  reply : HttpReply
  nowMs : ℚ
  random : ℚ

structure HttpResponse where
  statusCode : Nat
  headers : HttpHeaders
  data : Option (Json ℚ)

/-- What the observer and the timers see of a request. -/
inductive HttpEvent where
  | request
  | rateLimitWait (delayMs : ℚ)
  | sleep (delayMs : ℚ)
  deriving DecidableEq, Repr

/-- An attempt that is worth another one. -/
structure AnotherAttempt where
  lastError : Option HttpFailure
  events : List HttpEvent

def calculateBackoffMs (attempt : Nat) (baseDelayMs maxDelayMs random : ℚ) : ℚ :=
  min (baseDelayMs * 2 ^ attempt) maxDelayMs + random * min (baseDelayMs * 2 ^ attempt) maxDelayMs / 2

variable (config : RetryConfig) (options : HttpRequestOptions)

/-- The wait before the next attempt, if there is one. -/
def backoff (attempt : Nat) (random : ℚ) : List HttpEvent :=
  if attempt + 1 < config.maxAttempts then
    [.sleep (calculateBackoffMs attempt config.baseDelayMs config.maxDelayMs random)]
  else []

def isSpent (headers : HttpHeaders) : Bool :=
  options.throttleOnSpentBudget && hasSpentBudget js headers

def isThrottled (statusCode : Nat) (headers : HttpHeaders) : Bool :=
  statusCode = 429 || (statusCode = 403 &&
    (isSpent js options headers || (firstHeader headers "retry-after").isSome))

/-- What the policy refuses of a response. -/
def refusal (statusCode size : Nat) : Option HttpFailure :=
  if options.rejectRedirects && 300 ≤ statusCode && statusCode < 400 then
    some (.outboundPolicy
      "Platform answered with a redirect, which the outbound policy refuses.")
  else
    (options.maxResponseBytes.filter (· < size)).map fun maxBytes =>
      .outboundPolicy s!"Platform response exceeded the {maxBytes}-byte cap."

/-- What the platform's answer means for an attempt. -/
def readAnswer (attempt : Nat) (nowMs : ℚ) (random : ℚ) (statusCode : Nat)
    (headers : HttpHeaders) (text : String) : Except HttpFailure (HttpResponse ⊕ AnotherAttempt) :=
  if statusCode = 401 then .error (.auth "Platform rejected the credentials." statusCode)
  else if statusCode = 403 && !isThrottled js options statusCode headers then
    .error (.permission "Platform denied access to this resource." statusCode)
  else if isThrottled js options statusCode headers && isSpent js options headers then
    .error (.rateLimit "Platform request budget is spent for this window."
      (parseRateLimitResetMs js headers nowMs))
  else if isThrottled js options statusCode headers then
    let retryAfterMs := parseRetryAfterMs js headers text
    if attempt + 1 = config.maxAttempts then
      .error (.rateLimit "Platform rate limit exhausted the retry budget." retryAfterMs)
    else
      let delay := retryAfterMs.getD
        (calculateBackoffMs attempt config.baseDelayMs config.maxDelayMs random)
      .ok (.inr ⟨none, [.rateLimitWait delay, .sleep delay]⟩)
  else if 400 ≤ statusCode then
    let error := communityHttpError statusCode "Platform request failed" text
    if statusCode < 500 then .error error
    else .ok (.inr ⟨some error, backoff config attempt random⟩)
  else if text = "" then .ok (.inl ⟨statusCode, headers, none⟩)
  else match js.parseJson text with
    | .error error => .error (.thrown error)
    | .ok data => .ok (.inl ⟨statusCode, headers, some data⟩)

/-- What an attempt tries. -/
def tryRequest (attempt : Nat) (exchange : HttpExchange) :
    Except HttpFailure (HttpResponse ⊕ AnotherAttempt) :=
  match exchange.reply with
  | .failed error => .error (.thrown error)
  | .response statusCode headers size text =>
      match refusal options statusCode size with
      | some error => .error error
      | none => readAnswer js config options attempt exchange.nowMs exchange.random statusCode
          headers text

/-- Failures of the transport are caught. -/
def attemptRequest (attempt : Nat) (exchange : HttpExchange) :
    Except HttpFailure (HttpResponse ⊕ AnotherAttempt) :=
  match tryRequest js config options attempt exchange with
  | .ok result => .ok result
  | .error error =>
      if isNetworkError js error then
        .ok (.inr ⟨some (.network s!"Could not reach the platform: {error.message}"),
          backoff config attempt exchange.random⟩)
      else .error error

/-- The events of a request, and its outcome. -/
structure HttpRun where
  events : List HttpEvent
  outcome : Except HttpFailure HttpResponse

/-- The attempts that are left. -/
def attemptsFrom (exchanges : Nat → HttpExchange) : Nat → Nat → Option HttpFailure → HttpRun
  | 0, _, lastError =>
      ⟨[], .error (lastError.getD (.network "Platform request failed after all retries."))⟩
  | left + 1, attempt, lastError =>
      match attemptRequest js config options attempt (exchanges attempt) with
      | .error error => ⟨[.request], .error error⟩
      | .ok (.inl response) => ⟨[.request], .ok response⟩
      | .ok (.inr another) =>
          let rest := attemptsFrom exchanges left (attempt + 1) (another.lastError <|> lastError)
          ⟨.request :: another.events ++ rest.events, rest.outcome⟩

def executeRequest (exchanges : Nat → HttpExchange) : HttpRun :=
  attemptsFrom js config options exchanges config.maxAttempts 0 none

end Reputo.Community

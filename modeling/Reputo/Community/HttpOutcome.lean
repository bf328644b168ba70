import Reputo.Community.Http

/-!
# What decides the outcome of a request

The status of the last response decides the outcome, unless the text of a response that is
no failure of the transport reads like one.
-/

namespace Reputo.Community

open Reputo.Library

/-! ## What a reply shows -/

/-- What the status of a response shows, or the transport. -/
inductive ReplyKind where
  | refused
  | unreachable
  | broken
  | unauthorized
  | denied
  | spent
  | throttled
  | clientError (statusCode : Nat)
  | serverError (statusCode : Nat)
  | answered (statusCode : Nat)
  deriving DecidableEq, Repr

/-- Throttles, failures of the server and those of the transport. -/
def ReplyKind.isRetryable : ReplyKind → Bool
  | unreachable | throttled | serverError _ => true
  | _ => false

variable (js : JsRuntime) (options : HttpRequestOptions)

def statusKind (statusCode : Nat) (headers : HttpHeaders) : ReplyKind :=
  if statusCode = 401 then .unauthorized
  else if isThrottled js options statusCode headers then
    if isSpent js options headers then .spent else .throttled
  else if statusCode = 403 then .denied
  else if statusCode < 400 then .answered statusCode
  else if statusCode < 500 then .clientError statusCode
  else .serverError statusCode

def HttpReply.kind : HttpReply → ReplyKind
  | failed error => if isNetworkError js (.thrown error) then .unreachable else .broken
  | response statusCode headers size _ =>
      if (refusal options statusCode size).isSome then .refused
      else statusKind js options statusCode headers

/-- The class of an outcome: a status, or a class of errors. -/
def HttpRun.result (run : HttpRun) : Except CommunityApiError Nat :=
  match run.outcome with
  | .ok response => .ok response.statusCode
  | .error error => .error error.toApiError

/-- The number of requests that are sent. -/
def HttpRun.requests (run : HttpRun) : Nat := run.events.count .request

/-- The text of a response is read without failing. -/
def isReadable (text : String) : Bool :=
  text = "" || (match js.parseJson text with
    | .ok _ => true
    | .error _ => false)

/-- What a reply that is the last one comes to. -/
def HttpReply.result (reply : HttpReply) : Except CommunityApiError Nat :=
  match reply.kind js options, reply with
  | .refused, _ => .error .outboundPolicy
  | .unreachable, _ => .error .network
  | .broken, _ => .error .other
  | .unauthorized, _ => .error .auth
  | .denied, _ => .error .permission
  | .spent, _ | .throttled, _ => .error .rateLimit
  | .clientError statusCode, _ | .serverError statusCode, _ => .error (.http statusCode)
  | .answered statusCode, .response _ _ _ text =>
      if isReadable js text then .ok statusCode else .error .other
  | .answered _, .failed _ => .error .other

/-- The replies decide when a request ends, and the last of them what it comes to. -/
structure DecidedByStatus (maxAttempts : Nat) (exchanges : Nat → HttpExchange) (run : HttpRun) :
    Prop where
  sent : run.requests ≤ maxAttempts ∧ (0 < maxAttempts → 0 < run.requests)
  retried : ∀ attempt, attempt + 1 < run.requests →
    ((exchanges attempt).reply.kind js options).isRetryable
  given_up : ∀ attempt, attempt + 1 = run.requests →
    ((exchanges attempt).reply.kind js options).isRetryable → run.requests = maxAttempts
  settled : ∀ attempt, attempt + 1 = run.requests →
    run.result = (exchanges attempt).reply.result js options

/-- A reply that is no failure of the transport and reads like one. -/
def HttpReply.isMisread (reply : HttpReply) : Bool :=
  match reply.kind js options, reply with
  | .clientError statusCode, .response _ _ _ text =>
      isNetworkError js (communityHttpError statusCode "Platform request failed" text)
  | .answered _, .response _ _ _ text => text ≠ "" && (match js.parseJson text with
      | .ok _ => false
      | .error error => isNetworkError js (.thrown error))
  | _, _ => false

/-- No reply that ends a request is misread. -/
def ReadRight (maxAttempts : Nat) (exchanges : Nat → HttpExchange) : Prop :=
  ∀ attempt < maxAttempts,
    (∀ earlier < attempt, ((exchanges earlier).reply.kind js options).isRetryable) →
    (exchanges attempt).reply.isMisread js options = false

/-- The replies are the same but for the text of failed responses. -/
def HttpReply.Alike : HttpReply → HttpReply → Prop
  | response statusCode headers size text, response otherCode otherHeaders otherSize otherText =>
      statusCode = otherCode ∧ headers = otherHeaders ∧
        ((refusal options statusCode size).isSome ↔
          (refusal options otherCode otherSize).isSome) ∧
        (text = otherText ∨ 400 ≤ statusCode)
  | failed error, failed other => error = other
  | _, _ => False

/-! ## Messages of the errors -/

section Messages

variable {js : JsRuntime} {config : RetryConfig} {options : HttpRequestOptions}

-- The equations are made here, once for all proofs below.
section
attribute [local simp] attemptsFrom
end

/-- A message without a hint is no failure of the transport. -/
theorem isNetworkError_eq_false {error : HttpFailure} (uncoded : error.code = "")
    (ascii : ∀ character ∈ error.message.toList, character.toNat < 128)
    (apart : ∀ hint ∈ NETWORK_ERROR_HINTS,
      ¬hint.toList <:+: error.message.toList.map Char.toLower) :
    isNetworkError js error = false := by
  have nothing : ∀ hint ∈ NETWORK_ERROR_HINTS, ¬hint.toList <:+: ("".toList.map Char.toLower) := by
    decide +kernel
  rw [isNetworkError, Bool.and_eq_false_iff]
  refine .inr (List.any_eq_false.mpr fun hint member => ?_)
  rw [uncoded, JsText.includes, JsText.includes, js.toLowerCase_ascii _ ascii,
    js.toLowerCase_ascii "" (fun _ absent => nomatch absent), decide_eq_false (apart hint member),
    decide_eq_false (nothing hint member)]
  exact Bool.false_ne_true

/-- What the decision of a platform reads like. -/
theorem isNetworkError_fixed (message : String) {error : HttpFailure} (own : error.message = message)
    (uncoded : error.code = "")
    (plain : (message.toList.all fun character => character.toNat < 128) &&
      NETWORK_ERROR_HINTS.all fun hint =>
        !decide (hint.toList <:+: message.toList.map Char.toLower)) :
    isNetworkError js error = false := by
  cases own
  rcases Bool.and_eq_true_iff.mp plain with ⟨ascii, apart⟩
  refine isNetworkError_eq_false uncoded ?_ ?_
  · exact fun character member => of_decide_eq_true (List.all_eq_true.mp ascii character member)
  · intro hint member within
    have absent := List.all_eq_true.mp apart hint member
    rw [decide_eq_true within] at absent
    cases absent

theorem isDigit_of_mem_repr {number : Nat} {character : Char}
    (member : character ∈ number.repr.toList) : character.isDigit = true := by
  rw [Nat.toList_repr] at member
  exact Nat.isDigit_of_mem_toDigits (by decide) (by decide) member

theorem toLower_of_isDigit {character : Char} (digit : character.isDigit = true) :
    character.toLower = character := by
  have range := Bool.and_eq_true_iff.mp digit
  have small : character.toNat ≤ 57 := UInt32.le_iff_toNat_le.mp (of_decide_eq_true range.2)
  apply Char.toNat_inj.mp
  rw [JsText.toNat_toLower, if_neg (by omega)]

/-- A number in a message does not matter. -/
theorem isNetworkError_numbered {error : HttpFailure} {front back : String} {number : Nat}
    (uncoded : error.code = "")
    (message : error.message.toList = front.toList ++ (number.repr.toList ++ back.toList))
    (plain : ((front.toList ++ back.toList).all fun character => character.toNat < 128) &&
      NETWORK_ERROR_HINTS.all fun hint =>
        !decide (hint.toList <:+: front.toList.map Char.toLower) &&
          !decide (hint.toList <:+: back.toList.map Char.toLower)) :
    isNetworkError js error = false := by
  have allDigitless : (NETWORK_ERROR_HINTS.all fun hint =>
      hint.toList.all fun character => !character.isDigit) = true := by
    decide +kernel
  have digitless : ∀ hint ∈ NETWORK_ERROR_HINTS, ∀ character ∈ hint.toList,
      character.isDigit = false := by
    intro hint member character inside
    have hintDigitless := List.all_eq_true.mp allDigitless hint member
    exact Bool.not_eq_true' _ ▸ List.all_eq_true.mp hintDigitless character inside
  rcases Bool.and_eq_true_iff.mp plain with ⟨ascii, apart⟩
  refine isNetworkError_eq_false uncoded ?_ ?_
  · intro character member
    rw [message] at member
    rcases List.mem_append.mp member with inFront | inRest
    · exact of_decide_eq_true (List.all_eq_true.mp ascii character
        (List.mem_append_left _ inFront))
    · rcases List.mem_append.mp inRest with inNumber | inBack
      · have digit := Bool.and_eq_true_iff.mp (isDigit_of_mem_repr inNumber)
        have small : character.toNat ≤ 57 := UInt32.le_iff_toNat_le.mp (of_decide_eq_true digit.2)
        omega
      · exact of_decide_eq_true (List.all_eq_true.mp ascii character
          (List.mem_append_right _ inBack))
  · intro hint member within
    rw [message, List.map_append, List.map_append] at within
    have sides := Bool.and_eq_true_iff.mp (List.all_eq_true.mp apart hint member)
    have nonempty : number.repr.toList.map Char.toLower ≠ [] := by
      rw [Ne, List.map_eq_nil_iff, Nat.toList_repr]
      exact Nat.toDigits_ne_nil
    have outside : ∀ character ∈ number.repr.toList.map Char.toLower,
        character ∉ hint.toList := by
      intro character inNumber inHint
      rcases List.mem_map.mp inNumber with ⟨digit, digitMember, same⟩
      have isDigit := isDigit_of_mem_repr digitMember
      rw [toLower_of_isDigit isDigit] at same
      rw [same, digitless hint member character inHint] at isDigit
      cases isDigit
    rcases JsText.infix_of_apart nonempty outside within with left | right
    · rw [decide_eq_true left] at sides
      cases sides.1
    · rw [decide_eq_true right] at sides
      cases sides.2

/-- What the policy refuses does not read like a failure of the transport. -/
theorem isNetworkError_refusal (js : JsRuntime) {statusCode size : Nat} {error : HttpFailure}
    (refused : refusal options statusCode size = some error) :
    isNetworkError js error = false ∧ error.toApiError = .outboundPolicy := by
  rw [refusal] at refused
  split at refused
  · cases refused
    exact ⟨isNetworkError_fixed
      "Platform answered with a redirect, which the outbound policy refuses." rfl rfl
      (by decide +kernel), rfl⟩
  · rcases Option.map_eq_some_iff.mp refused with ⟨maxBytes, _, same⟩
    cases same
    refine ⟨?_, rfl⟩
    refine @isNetworkError_numbered js _ "Platform response exceeded the " "-byte cap." maxBytes rfl
      ?_ (by decide +kernel)
    rw [← List.append_assoc, ← String.toList_append, ← String.toList_append]
    rfl

end Messages

/-! ## Attempts -/

section Attempts

variable {js : JsRuntime} {config : RetryConfig} {options : HttpRequestOptions} {attempt : Nat}

/-- What the answer of the platform means, by the kind of its status. -/
inductive AnswerCase (js : JsRuntime) (config : RetryConfig) (options : HttpRequestOptions)
    (attempt statusCode : Nat) (text : String) :
    ReplyKind → Except HttpFailure (HttpResponse ⊕ AnotherAttempt) → Prop where
  | unauthorized : AnswerCase js config options attempt statusCode text .unauthorized
      (.error (.auth "Platform rejected the credentials." statusCode))
  | denied : AnswerCase js config options attempt statusCode text .denied
      (.error (.permission "Platform denied access to this resource." statusCode))
  | spent (retryAfterMs : Option ℚ) : AnswerCase js config options attempt statusCode text .spent
      (.error (.rateLimit "Platform request budget is spent for this window." retryAfterMs))
  | exhausted (retryAfterMs : Option ℚ) (last : attempt + 1 = config.maxAttempts) :
      AnswerCase js config options attempt statusCode text .throttled
        (.error (.rateLimit "Platform rate limit exhausted the retry budget." retryAfterMs))
  | throttled (delay : ℚ) (early : attempt + 1 ≠ config.maxAttempts) :
      AnswerCase js config options attempt statusCode text .throttled
        (.ok (.inr ⟨none, [.rateLimitWait delay, .sleep delay]⟩))
  | clientError : AnswerCase js config options attempt statusCode text (.clientError statusCode)
      (.error (communityHttpError statusCode "Platform request failed" text))
  | serverError (random : ℚ) :
      AnswerCase js config options attempt statusCode text (.serverError statusCode)
        (.ok (.inr ⟨some (communityHttpError statusCode "Platform request failed" text),
          backoff config attempt random⟩))
  | answered (headers : HttpHeaders) (data : Option (Json ℚ)) (readable : isReadable js text)
      (right : text = "" ∨ ∃ value, js.parseJson text = .ok value) :
      AnswerCase js config options attempt statusCode text (.answered statusCode)
        (.ok (.inl ⟨statusCode, headers, data⟩))
  | unreadable (error : ThrownError) (nonempty : text ≠ "")
      (thrown : js.parseJson text = .error error) :
      AnswerCase js config options attempt statusCode text (.answered statusCode)
        (.error (.thrown error))

theorem readAnswer_case (js : JsRuntime) (config : RetryConfig) (options : HttpRequestOptions)
    (attempt : Nat) (nowMs random : ℚ) (statusCode : Nat) (headers : HttpHeaders)
    (text : String) :
    AnswerCase js config options attempt statusCode text
      (statusKind js options statusCode headers)
      (readAnswer js config options attempt nowMs random statusCode headers text) := by
  rw [statusKind, readAnswer]
  by_cases unauthorized : statusCode = 401
  · rw [if_pos unauthorized, if_pos unauthorized]
    exact .unauthorized
  rw [if_neg unauthorized, if_neg unauthorized]
  cases throttled : isThrottled js options statusCode headers with
  | true =>
      cases spent : isSpent js options headers with
      | true =>
          simp only [Bool.not_true, Bool.and_false, Bool.false_eq_true, if_false, if_true,
            Bool.and_self]
          exact .spent _
      | false =>
          simp only [Bool.not_true, Bool.and_false, Bool.false_eq_true, if_false, if_true]
          split
          · rename_i last
            exact .exhausted _ last
          · rename_i early
            exact .throttled _ early
  | false =>
      by_cases denied : statusCode = 403
      · simp only [denied, Bool.not_false, Bool.and_true, decide_true, if_true,
          Bool.false_eq_true, if_false]
        exact .denied
      · simp only [denied, decide_false, Bool.false_and, Bool.false_eq_true, if_false]
        by_cases answered : statusCode < 400
        · rw [if_pos answered, if_neg (Nat.not_le.mpr answered)]
          by_cases empty : text = ""
          · rw [if_pos empty]
            refine .answered headers none ?_ (.inl empty)
            rw [isReadable, decide_eq_true empty, Bool.true_or]
          · rw [if_neg empty]
            cases parsed : js.parseJson text with
            | error error => exact .unreadable error empty parsed
            | ok data =>
                refine .answered headers (some data) ?_ (.inr ⟨data, parsed⟩)
                rw [isReadable, parsed, Bool.or_true]
        · rw [if_neg answered, if_pos (Nat.not_lt.mp answered)]
          by_cases client : statusCode < 500
          · rw [if_pos client, if_pos client]
            exact .clientError
          · rw [if_neg client, if_neg client]
            exact .serverError random

/-- An attempt after which there is none. -/
def Ends (result : Except CommunityApiError Nat) :
    Except HttpFailure (HttpResponse ⊕ AnotherAttempt) → Prop
  | .error error => result = .error error.toApiError
  | .ok (.inl response) => result = .ok response.statusCode
  | .ok (.inr _) => False

theorem not_request_backoff (random : ℚ) : HttpEvent.request ∉ backoff config attempt random := by
  rw [backoff]
  split
  · exact fun member => nomatch List.mem_singleton.mp member
  · exact List.not_mem_nil

theorem attemptRequest_of_error {exchange : HttpExchange} {error : HttpFailure}
    (failed : tryRequest js config options attempt exchange = .error error)
    (reads : isNetworkError js error = false) :
    attemptRequest js config options attempt exchange = .error error := by
  rw [attemptRequest, failed]
  simp only [reads, Bool.false_eq_true, if_false]

theorem tryRequest_answer (js : JsRuntime) (config : RetryConfig) (attempt : Nat)
    (headers : HttpHeaders) (text : String) (nowMs random : ℚ) {statusCode size : Nat}
    (accepted : refusal options statusCode size = none) :
    tryRequest js config options attempt ⟨.response statusCode headers size text, nowMs, random⟩ =
      readAnswer js config options attempt nowMs random statusCode headers text := by
  simp only [tryRequest, accepted]

theorem kind_answer (js : JsRuntime) (headers : HttpHeaders) (text : String)
    {statusCode size : Nat} (accepted : refusal options statusCode size = none) :
    (HttpReply.response statusCode headers size text).kind js options =
      statusKind js options statusCode headers := by
  simp only [HttpReply.kind, accepted, Option.isSome_none, Bool.false_eq_true, if_false]

/-- A reply that is not worth another attempt ends the request, unless it is misread. -/
theorem attempt_settled (config : RetryConfig) (attempt : Nat) {exchange : HttpExchange}
    (final : (exchange.reply.kind js options).isRetryable = false)
    (right : exchange.reply.isMisread js options = false) :
    Ends (exchange.reply.result js options)
      (attemptRequest js config options attempt exchange) := by
  rcases exchange with ⟨reply, nowMs, random⟩
  cases reply with
  | failed error =>
      cases reads : isNetworkError js (.thrown error) with
      | true =>
          rw [HttpReply.kind, if_pos reads] at final
          cases final
      | false =>
          have failed : tryRequest js config options attempt ⟨.failed error, nowMs, random⟩ =
              .error (.thrown error) := rfl
          rw [attemptRequest_of_error failed reads]
          simp only [Ends, HttpReply.result, HttpReply.kind, reads, Bool.false_eq_true, if_false]
          rfl
  | response statusCode headers size text =>
      cases refused : refusal options statusCode size with
      | some error =>
          have failed : tryRequest js config options attempt
              ⟨.response statusCode headers size text, nowMs, random⟩ = .error error := by
            simp only [tryRequest, refused]
          rw [attemptRequest_of_error failed (isNetworkError_refusal js refused).1, Ends,
            (isNetworkError_refusal js refused).2]
          simp only [HttpReply.result, HttpReply.kind, refused, Option.isSome_some, if_true]
      | none =>
          have tried := tryRequest_answer js config attempt headers text nowMs random refused
          have kind := kind_answer js headers text refused
          have shown := readAnswer_case js config options attempt nowMs random statusCode headers
            text
          rw [← kind, ← tried] at shown
          simp only [HttpReply.result]
          simp only [HttpReply.isMisread] at right
          generalize (HttpReply.response statusCode headers size text).kind js options = shownKind
            at shown final right
          generalize answer : tryRequest js config options attempt
            ⟨.response statusCode headers size text, nowMs, random⟩ = answered at shown
          cases shown with
          | unauthorized =>
              rw [attemptRequest_of_error answer (isNetworkError_fixed
                "Platform rejected the credentials." rfl rfl (by decide +kernel))]
              rfl
          | denied =>
              rw [attemptRequest_of_error answer (isNetworkError_fixed
                "Platform denied access to this resource." rfl rfl (by decide +kernel))]
              rfl
          | spent =>
              rw [attemptRequest_of_error answer (isNetworkError_fixed
                "Platform request budget is spent for this window." rfl rfl (by decide +kernel))]
              rfl
          | exhausted | throttled | serverError => cases final
          | clientError =>
              rw [attemptRequest_of_error answer right]
              rfl
          | answered headers data readable =>
              rw [attemptRequest, answer]
              simp only [readable, if_true, Ends]
          | unreadable error nonempty thrown =>
              have reads : isNetworkError js (.thrown error) = false := by
                simp only [thrown, Bool.and_eq_false_iff] at right
                exact right.resolve_left fun empty => nonempty (by simpa using empty)
              rw [attemptRequest_of_error answer reads]
              simp only [isReadable, thrown, Ends, decide_eq_false nonempty]
              rfl

/-- A reply that is worth another attempt gets one, unless it was the last. -/
theorem attempt_retried (config : RetryConfig) (attempt : Nat) {exchange : HttpExchange}
    (again : (exchange.reply.kind js options).isRetryable = true) :
    attempt + 1 = config.maxAttempts ∧ Ends (exchange.reply.result js options)
        (attemptRequest js config options attempt exchange) ∨
      ∃ another, attemptRequest js config options attempt exchange = .ok (.inr another) ∧
        HttpEvent.request ∉ another.events ∧
        (attempt + 1 = config.maxAttempts → ∃ error, another.lastError = some error ∧
          exchange.reply.result js options = .error error.toApiError) := by
  rcases exchange with ⟨reply, nowMs, random⟩
  cases reply with
  | failed error =>
      cases reads : isNetworkError js (.thrown error) with
      | true =>
          refine .inr ⟨⟨some (.network s!"Could not reach the platform: {error.message}"),
            backoff config attempt random⟩, ?_, not_request_backoff random, fun _ => ⟨_, rfl, ?_⟩⟩
          · simp only [attemptRequest, tryRequest, reads, if_true]
            rfl
          · simp only [HttpReply.result, HttpReply.kind, reads, if_true]
            rfl
      | false =>
          simp only [HttpReply.kind, reads, Bool.false_eq_true, if_false] at again
          cases again
  | response statusCode headers size text =>
      cases refused : refusal options statusCode size with
      | some error =>
          simp only [HttpReply.kind, refused, Option.isSome_some, if_true] at again
          cases again
      | none =>
          have tried := tryRequest_answer js config attempt headers text nowMs random refused
          have kind := kind_answer js headers text refused
          have shown := readAnswer_case js config options attempt nowMs random statusCode headers
            text
          rw [← kind, ← tried] at shown
          simp only [HttpReply.result]
          generalize (HttpReply.response statusCode headers size text).kind js options = shownKind
            at shown again
          generalize answer : tryRequest js config options attempt
            ⟨.response statusCode headers size text, nowMs, random⟩ = answered at shown
          cases shown with
          | exhausted retryAfterMs last =>
              refine .inl ⟨last, ?_⟩
              rw [attemptRequest_of_error answer (isNetworkError_fixed
                "Platform rate limit exhausted the retry budget." rfl rfl (by decide +kernel))]
              rfl
          | throttled delay early =>
              refine .inr ⟨_, by rw [attemptRequest, answer], ?_, fun last => absurd last early⟩
              simp
          | serverError other =>
              exact .inr ⟨_, by rw [attemptRequest, answer], not_request_backoff other,
                fun _ => ⟨_, rfl, rfl⟩⟩
          | unauthorized | denied | spent | clientError | answered | unreadable => cases again

/-- What follows an attempt is no attempt. -/
theorem attemptRequest_silent {exchange : HttpExchange} {another : AnotherAttempt}
    (going : attemptRequest js config options attempt exchange = .ok (.inr another)) :
    HttpEvent.request ∉ another.events := by
  rw [attemptRequest] at going
  cases tried : tryRequest js config options attempt exchange with
  | error error =>
      rw [tried] at going
      simp only at going
      split at going
      · cases going
        exact not_request_backoff _
      · cases going
  | ok step =>
      rw [tried] at going
      cases going
      rw [tryRequest] at tried
      split at tried
      · cases tried
      · rename_i statusCode headers size text _
        split at tried
        · cases tried
        · have shown := readAnswer_case js config options attempt exchange.nowMs exchange.random
            statusCode headers text
          rw [tried] at shown
          generalize statusKind js options statusCode headers = kind at shown
          cases shown with
          | throttled delay early => simp
          | serverError random => exact not_request_backoff random

/-- A reply that is misread is taken for a failure of the transport. -/
theorem attempt_misread (config : RetryConfig) (attempt : Nat) {exchange : HttpExchange}
    (misread : exchange.reply.isMisread js options = true) :
    (exchange.reply.kind js options).isRetryable = false ∧
      exchange.reply.result js options ≠ .error .network ∧
      ∃ another message, attemptRequest js config options attempt exchange = .ok (.inr another) ∧
        HttpEvent.request ∉ another.events ∧ another.lastError = some (.network message) := by
  rcases exchange with ⟨reply, nowMs, random⟩
  have caught : ∀ {error : HttpFailure},
      tryRequest js config options attempt ⟨reply, nowMs, random⟩ = .error error →
      isNetworkError js error = true →
      ∃ another message,
        attemptRequest js config options attempt ⟨reply, nowMs, random⟩ = .ok (.inr another) ∧
        HttpEvent.request ∉ another.events ∧ another.lastError = some (.network message) := by
    intro error failed reads
    refine ⟨⟨some (.network s!"Could not reach the platform: {error.message}"),
      backoff config attempt random⟩, _, ?_, not_request_backoff random, rfl⟩
    rw [attemptRequest, failed]
    simp only [reads, if_true]
  cases reply with
  | failed error =>
      cases reads : isNetworkError js (.thrown error) with
      | true =>
          simp only [HttpReply.isMisread, HttpReply.kind, reads, if_true] at misread
          cases misread
      | false =>
          simp only [HttpReply.isMisread, HttpReply.kind, reads, Bool.false_eq_true, if_false]
            at misread
  | response statusCode headers size text =>
      cases refused : refusal options statusCode size with
      | some error =>
          simp only [HttpReply.isMisread, HttpReply.kind, refused, Option.isSome_some, if_true]
            at misread
          cases misread
      | none =>
          have tried := tryRequest_answer js config attempt headers text nowMs random refused
          have kind := kind_answer js headers text refused
          have shown := readAnswer_case js config options attempt nowMs random statusCode headers
            text
          rw [← kind, ← tried] at shown
          simp only [HttpReply.result]
          simp only [HttpReply.isMisread] at misread
          generalize (HttpReply.response statusCode headers size text).kind js options = shownKind
            at shown misread
          generalize answer : tryRequest js config options attempt
            ⟨.response statusCode headers size text, nowMs, random⟩ = answered at shown
          cases shown with
          | clientError =>
              refine ⟨rfl, ?_, caught answer misread⟩
              intro same
              cases same
          | answered headers data readable right =>
              rcases right with empty | ⟨value, parsed⟩
              · simp only [empty, ne_eq, not_true_eq_false, decide_false, Bool.false_and] at misread
                cases misread
              · simp only [parsed, Bool.and_false] at misread
                cases misread
          | unreadable error nonempty thrown =>
              simp only [thrown, Bool.and_eq_true] at misread
              refine ⟨rfl, ?_, caught answer misread.2⟩
              simp only [isReadable, thrown, decide_eq_false nonempty]
              intro same
              cases same
          | unauthorized | denied | spent | exhausted | throttled | serverError => cases misread

end Attempts

/-! ## Runs -/

section Runs

variable {js : JsRuntime} {config : RetryConfig} {options : HttpRequestOptions}
  {exchanges : Nat → HttpExchange}

/-- A retried first reply leaves the decision to the others. -/
theorem decided_cons {maxAttempts : Nat} {run rest : HttpRun} (going : 0 < rest.requests)
    (again : ((exchanges 0).reply.kind js options).isRetryable = true)
    (counted : run.requests = rest.requests + 1) (same : run.result = rest.result) :
    DecidedByStatus js options (maxAttempts + 1) exchanges run ↔
      DecidedByStatus js options maxAttempts (fun attempt => exchanges (attempt + 1)) rest := by
  constructor
  · intro decided
    refine ⟨⟨?_, fun _ => going⟩, ?_, ?_, ?_⟩
    · have sent := decided.sent.1
      omega
    · intro attempt early
      exact decided.retried (attempt + 1) (by omega)
    · intro attempt last retryable
      have all := decided.given_up (attempt + 1) (by omega) retryable
      omega
    · intro attempt last
      rw [← same]
      exact decided.settled (attempt + 1) (by omega)
  · intro decided
    refine ⟨⟨?_, fun _ => by omega⟩, ?_, ?_, ?_⟩
    · have sent := decided.sent.1
      omega
    · intro attempt early
      cases attempt with
      | zero => exact again
      | succ attempt => exact decided.retried attempt (by omega)
    · intro attempt last retryable
      cases attempt with
      | zero => omega
      | succ attempt =>
          have all := decided.given_up attempt (by omega) retryable
          omega
    · intro attempt last
      cases attempt with
      | zero => omega
      | succ attempt =>
          rw [same]
          exact decided.settled attempt (by omega)

theorem isMisread_of_retryable {reply : HttpReply}
    (again : (reply.kind js options).isRetryable = true) : reply.isMisread js options = false := by
  cases misread : reply.isMisread js options with
  | false => rfl
  | true =>
      rw [(@attempt_misread js options ⟨0, 0, 0⟩ 0 ⟨reply, 0, 0⟩ misread).1] at again
      cases again

theorem readRight_cons {maxAttempts : Nat}
    (again : ((exchanges 0).reply.kind js options).isRetryable = true) :
    ReadRight js options (maxAttempts + 1) exchanges ↔
      ReadRight js options maxAttempts fun attempt => exchanges (attempt + 1) := by
  constructor
  · intro right attempt within earlier
    refine right (attempt + 1) (Nat.succ_lt_succ within) ?_
    intro before early
    cases before with
    | zero => exact again
    | succ before => exact earlier before (Nat.lt_of_succ_lt_succ early)
  · intro right attempt within earlier
    cases attempt with
    | zero => exact isMisread_of_retryable again
    | succ attempt =>
        exact right attempt (Nat.lt_of_succ_lt_succ within) fun before early =>
          earlier (before + 1) (Nat.succ_lt_succ early)

/-- One reply is all there is. -/
theorem decided_single {maxAttempts : Nat} {run : HttpRun} (counted : run.requests = 1)
    (last : ((exchanges 0).reply.kind js options).isRetryable = true → maxAttempts = 0)
    (same : run.result = (exchanges 0).reply.result js options) :
    DecidedByStatus js options (maxAttempts + 1) exchanges run := by
  refine ⟨by omega, fun attempt early => by omega, ?_, ?_⟩
  · intro attempt only retryable
    have first : attempt = 0 := by omega
    rw [first] at retryable
    rw [last retryable, counted]
  · intro attempt only
    have first : attempt = 0 := by omega
    rw [first]
    exact same

theorem requests_cons (run : HttpRun) {events : List HttpEvent}
    (silent : HttpEvent.request ∉ events) :
    HttpRun.requests ⟨.request :: events ++ run.events, run.outcome⟩ = run.requests + 1 := by
  rw [HttpRun.requests, HttpRun.requests, List.cons_append, List.count_cons_self,
    List.count_append, List.count_eq_zero.mpr silent, Nat.zero_add]

theorem attemptsFrom_again (left : Nat) (lastError : Option HttpFailure) {attempt : Nat}
    {another : AnotherAttempt}
    (going : attemptRequest js config options attempt (exchanges attempt) = .ok (.inr another))
    (silent : HttpEvent.request ∉ another.events) :
    (attemptsFrom js config options exchanges (left + 1) attempt lastError).requests =
        (attemptsFrom js config options exchanges left (attempt + 1)
          (another.lastError <|> lastError)).requests + 1 ∧
      (attemptsFrom js config options exchanges (left + 1) attempt lastError).result =
        (attemptsFrom js config options exchanges left (attempt + 1)
          (another.lastError <|> lastError)).result := by
  rw [attemptsFrom, going]
  exact ⟨requests_cons _ silent, rfl⟩

theorem attemptsFrom_ends (left : Nat) (lastError : Option HttpFailure) {attempt : Nat}
    {result : Except CommunityApiError Nat}
    (ends : Ends result (attemptRequest js config options attempt (exchanges attempt))) :
    (attemptsFrom js config options exchanges (left + 1) attempt lastError).requests = 1 ∧
      (attemptsFrom js config options exchanges (left + 1) attempt lastError).result =
        result := by
  rw [attemptsFrom]
  cases outcome : attemptRequest js config options attempt (exchanges attempt) with
  | error error =>
      rw [outcome] at ends
      exact ⟨rfl, ends.symm⟩
  | ok step =>
      rw [outcome] at ends
      cases step with
      | inl response => exact ⟨rfl, ends.symm⟩
      | inr another => exact ends.elim

theorem requests_pos {left attempt : Nat} {lastError : Option HttpFailure} :
    0 < (attemptsFrom js config options exchanges (left + 1) attempt lastError).requests := by
  rw [attemptsFrom]
  split
  · exact Nat.one_pos
  · exact Nat.one_pos
  · exact Nat.zero_lt_of_ne_zero fun none_ => List.count_eq_zero.mp none_ List.mem_cons_self

theorem readRight_zero : ReadRight js options 0 exchanges :=
  fun _ within => absurd within (Nat.not_lt_zero _)

/-- The attempts that are left are decided by their statuses exactly if their replies are
read right. -/
theorem attemptsFrom_decided (js : JsRuntime) (config : RetryConfig) (options : HttpRequestOptions)
    (exchanges : Nat → HttpExchange) (left attempt : Nat) (lastError : Option HttpFailure)
    (counted : attempt + left = config.maxAttempts) :
    DecidedByStatus js options left (fun position => exchanges (attempt + position))
        (attemptsFrom js config options exchanges left attempt lastError) ↔
      ReadRight js options left fun position => exchanges (attempt + position) := by
  induction left generalizing attempt lastError with
  | zero =>
      refine iff_of_true ⟨⟨Nat.le_refl 0, fun absent => absent⟩, ?_, ?_, ?_⟩ ?_
      · exact fun position early => absurd early (Nat.not_lt_zero _)
      · exact fun position last => absurd last (Nat.succ_ne_zero _)
      · exact fun position last => absurd last (Nat.succ_ne_zero _)
      · exact fun position within => absurd within (Nat.not_lt_zero _)
  | succ left ih =>
      have shift : (fun position => exchanges (attempt + (position + 1))) =
          fun position => exchanges (attempt + 1 + position) := by
        funext position
        rw [Nat.add_assoc, Nat.add_comm 1 position]
      cases retryable : ((exchanges attempt).reply.kind js options).isRetryable with
      | true =>
          rcases attempt_retried config attempt retryable with
            ⟨last, ends⟩ | ⟨another, going, silent, final⟩
          · have none_ : left = 0 := by omega
            cases none_
            rcases attemptsFrom_ends 0 lastError ends with ⟨one, same⟩
            exact iff_of_true (decided_single one (fun _ => rfl) same)
              ((readRight_cons retryable).mpr readRight_zero)
          · rcases attemptsFrom_again left lastError going silent with
              ⟨more, same⟩
            cases left with
            | zero =>
                rcases final counted with ⟨error, kept, result⟩
                refine iff_of_true (decided_single more (fun _ => rfl) ?_)
                  ((readRight_cons retryable).mpr readRight_zero)
                rw [same, attemptsFrom, kept]
                exact result.symm
            | succ left =>
                rw [decided_cons requests_pos retryable more same, readRight_cons retryable, shift]
                exact ih (attempt + 1) (another.lastError <|> lastError) (by omega)
      | false =>
          cases misread : (exchanges attempt).reply.isMisread js options with
          | true =>
              rcases attempt_misread config attempt misread with
                ⟨_, other, another, message, going, silent, kept⟩
              rcases attemptsFrom_again left lastError going silent with
                ⟨more, same⟩
              refine iff_of_false ?_ ?_
              · intro decided
                cases left with
                | zero =>
                    have settled := decided.settled 0 more.symm
                    rw [same, attemptsFrom, kept] at settled
                    exact other settled.symm
                | succ left =>
                    have pos : 0 < (attemptsFrom js config options exchanges (left + 1) (attempt + 1)
                      (another.lastError <|> lastError)).requests := requests_pos
                    have again := decided.retried 0 (by omega)
                    cases retryable.symm.trans again
              · intro right
                have first := right 0 (Nat.succ_pos left) fun _ early =>
                  absurd early (Nat.not_lt_zero _)
                cases misread.symm.trans first
          | false =>
              rcases attemptsFrom_ends left lastError
                (attempt_settled config attempt retryable misread) with ⟨one, same⟩
              refine iff_of_true (decided_single one ?_ same) ?_
              · intro again
                cases retryable.symm.trans again
              · intro position _ earlier
                cases position with
                | zero => exact misread
                | succ position =>
                    have again := earlier 0 (Nat.succ_pos position)
                    cases retryable.symm.trans again

theorem lt_of_statusKind_answered {statusCode shown : Nat} {headers : HttpHeaders}
    (answered : statusKind js options statusCode headers = .answered shown) :
    statusCode < 400 := by
  rw [statusKind] at answered
  split at answered
  · cases answered
  · split at answered
    · split at answered <;> cases answered
    · split at answered
      · cases answered
      · split at answered
        · assumption
        · split at answered <;> cases answered

/-- Replies that are alike show and come to the same. -/
theorem HttpReply.Alike.same (js : JsRuntime) {reply other : HttpReply} (alike : reply.Alike options other) :
    reply.kind js options = other.kind js options ∧
      reply.result js options = other.result js options := by
  cases reply with
  | failed error =>
      cases other with
      | failed => cases alike; exact ⟨rfl, rfl⟩
      | response => exact alike.elim
  | response statusCode headers size text =>
      cases other with
      | failed => exact alike.elim
      | response otherCode otherHeaders otherSize otherText =>
          rcases alike with ⟨sameCode, sameHeaders, refused, texts⟩
          cases sameCode
          cases sameHeaders
          have kinds : (HttpReply.response statusCode headers size text).kind js options =
              (HttpReply.response statusCode headers otherSize otherText).kind js options := by
            simp only [HttpReply.kind, refused]
          refine ⟨kinds, ?_⟩
          rcases texts with same | failed
          · cases same
            simp only [HttpReply.result, kinds]
            cases (HttpReply.response statusCode headers otherSize text).kind js options <;> rfl
          · have unanswered : ∀ shown,
                (HttpReply.response statusCode headers otherSize otherText).kind js options ≠
                  .answered shown := by
              intro shown answered
              simp only [HttpReply.kind] at answered
              split at answered
              · cases answered
              · have status := lt_of_statusKind_answered answered
                omega
            simp only [HttpReply.result, kinds]
            cases kind : (HttpReply.response statusCode headers otherSize otherText).kind js
              options with
            | answered shown => exact absurd kind (unanswered shown)
            | _ => rfl

/-- What the statuses decide is the same for replies that are alike. -/
theorem DecidedByStatus.same {maxAttempts : Nat} {others : Nat → HttpExchange}
    {run other : HttpRun} (decided : DecidedByStatus js options maxAttempts exchanges run)
    (otherDecided : DecidedByStatus js options maxAttempts others other)
    (positive : 0 < maxAttempts)
    (alike : ∀ attempt, (exchanges attempt).reply.Alike options (others attempt).reply) :
    run.requests = other.requests ∧ run.result = other.result := by
  have first := decided.sent.2 positive
  have second := otherDecided.sent.2 positive
  have count : run.requests = other.requests := by
    rcases Nat.lt_trichotomy run.requests other.requests with fewer | same | more
    · have again := otherDecided.retried (run.requests - 1) (by omega)
      rw [← ((alike (run.requests - 1)).same js).1] at again
      have all := decided.given_up (run.requests - 1) (by omega) again
      have most := otherDecided.sent.1
      omega
    · exact same
    · have again := decided.retried (other.requests - 1) (by omega)
      rw [((alike (other.requests - 1)).same js).1] at again
      have all := otherDecided.given_up (other.requests - 1) (by omega) again
      have most := decided.sent.1
      omega
  refine ⟨count, ?_⟩
  rw [decided.settled (run.requests - 1) (by omega),
    otherDecided.settled (run.requests - 1) (by omega),
    ((alike (run.requests - 1)).same js).2]

end Runs

/-- The outcomes of two requests are decided by the statuses of their replies, so that they
are the same where the replies are alike, exactly if no reply that ends one of them is
misread. -/
theorem executeRequest_decidedByStatus (js : JsRuntime) (config : RetryConfig)
    (options : HttpRequestOptions) (exchanges others : Nat → HttpExchange) :
    (DecidedByStatus js options config.maxAttempts exchanges
          (executeRequest js config options exchanges) ∧
        DecidedByStatus js options config.maxAttempts others
          (executeRequest js config options others) ∧
        ((∀ attempt, (exchanges attempt).reply.Alike options (others attempt).reply) →
          (executeRequest js config options exchanges).requests =
              (executeRequest js config options others).requests ∧
            (executeRequest js config options exchanges).result =
              (executeRequest js config options others).result)) ↔
      ReadRight js options config.maxAttempts exchanges ∧
        ReadRight js options config.maxAttempts others := by
  have own := attemptsFrom_decided js config options exchanges config.maxAttempts 0 none
    (Nat.zero_add _)
  have other := attemptsFrom_decided js config options others config.maxAttempts 0 none
    (Nat.zero_add _)
  simp only [Nat.zero_add] at own other
  constructor
  · intro ⟨decided, otherDecided, _⟩
    exact ⟨own.mp decided, other.mp otherDecided⟩
  · intro ⟨right, otherRight⟩
    refine ⟨own.mpr right, other.mpr otherRight, fun alike => ?_⟩
    rcases Nat.eq_zero_or_pos config.maxAttempts with none_ | positive
    · rw [executeRequest, executeRequest, none_]
      exact ⟨rfl, rfl⟩
    · exact (own.mpr right).same (other.mpr otherRight) positive alike

/-! ## Texts that read like failures of the transport -/

/-- Texts as the runtime reads them, where no numbers and no values are in them. -/
private def plainRuntime : JsRuntime where
  toLowerCase := asciiLowerCase
  toLowerCase_ascii := toList_asciiLowerCase
  number _ := none
  parseJson _ := .error ⟨true, "Unexpected token", ""⟩

private def notFound (text : String) : HttpExchange :=
  ⟨.response 404 (fun _ => none) text.utf8ByteSize text, 0, 0⟩

/-- A repository that is not found is asked for again, because of a word in the response. -/
theorem notFound_retried :
    ¬∀ (js : JsRuntime) (config : RetryConfig) (options : HttpRequestOptions)
        (exchanges : Nat → HttpExchange), DecidedByStatus js options config.maxAttempts exchanges
          (executeRequest js config options exchanges) := by
  intro decided
  have requests : (executeRequest plainRuntime ⟨2, 100, 1000⟩ ⟨false, false, none⟩
      fun _ => notFound "Network not found").requests = 2 := by
    decide +kernel
  have again := (decided plainRuntime ⟨2, 100, 1000⟩ ⟨false, false, none⟩ fun _ =>
    notFound "Network not found").retried 0 (by rw [requests]; decide)
  have final : ((notFound "Network not found").reply.kind plainRuntime
      ⟨false, false, none⟩).isRetryable = false := by
    decide +kernel
  cases final.symm.trans again

end Reputo.Community

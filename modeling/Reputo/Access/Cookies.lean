import Reputo.Library.OrderedMap
import Reputo.Library.UriComponent

/-!
# Cookies of a request

A request carries one header with all its cookies, those of others among them.  Every part of the
header is decoded before the cookie that is asked for is looked up.
-/

namespace Reputo.Access

open Reputo.Library Reputo.Library.UriComponent

namespace Cookies

def AUTH_FLOW_COOKIE_SUFFIX : String := ".flow"

/-- What `decodeURIComponent` throws. -/
inductive URIError where
  | malformed
  deriving DecidableEq, Repr

def decoded (text : String) : Except URIError String :=
  match decodeURIComponent text with
  | none => .error .malformed
  | some decoded => .ok decoded

/-- A part up to its first equals sign and after it. -/
def separate (part : String) : Option (String × String) :=
  if '=' ∈ part.toList then
    some (String.ofList (part.toList.takeWhile (· ≠ '=')),
      String.ofList ((part.toList.dropWhile (· ≠ '=')).drop 1))
  else none

/-- An object takes any text as a property but its prototype. -/
def assign (cookies : OrderedMap String String) (key value : String) : OrderedMap String String :=
  if key = "__proto__" then cookies else cookies.set key value

def addPart (accumulator : OrderedMap String String) (part : String) :
    Except URIError (OrderedMap String String) :=
  match separate part with
  | none => .ok accumulator
  | some (rawKey, rawValue) => do
      let key ← decoded (JsText.trim rawKey)
      let value ← decoded (JsText.trim rawValue)
      return assign accumulator key value

def parseCookieHeader (cookieHeader : Option String) :
    Except URIError (OrderedMap String String) :=
  match JsText.truthyText cookieHeader with
  | none => .ok .empty
  | some header =>
      (((JsText.split ';' header).map JsText.trim).filter (· ≠ "")).foldlM addPart .empty

/-- The names of the cookies, and the key of the auth flow. -/
structure AuthCookieService where
  cookieName : String
  encryptionKey : String

namespace AuthCookieService

variable (service : AuthCookieService)

def authFlowCookieName : String := service.cookieName ++ AUTH_FLOW_COOKIE_SUFFIX

def getSessionId (cookieHeader : Option String) : Except URIError (Option String) := do
  let cookies ← parseCookieHeader cookieHeader
  return cookies.get? service.cookieName

/-- Decrypting a text with the key and parsing it may throw, which is caught. -/
def getAuthFlow {AuthFlowState : Type} (openFlow : String → String → Option AuthFlowState)
    (cookieHeader : Option String) : Except URIError (Option AuthFlowState) := do
  let cookies ← parseCookieHeader cookieHeader
  match JsText.truthyText (cookies.get? service.authFlowCookieName) with
  | none => return none
  | some encrypted => return openFlow service.encryptionKey encrypted

end AuthCookieService

/-! ## Headers with a session cookie -/

/-- What a cookie may be called. -/
def isTokenCharacter (character : Char) : Bool :=
  character.isAlphanum || "!#$%&'*+-.^_`|~".toList.contains character

/-- The name of a part, as it is written. -/
def nameOf (part : String) : Option String :=
  (separate (JsText.trim part)).map fun pair => JsText.trim pair.1

/-- The cookie that the service sets for a session, among parts with other names. -/
structure SessionHeader (cookieName sessionId : String) where
  before : List String
  own : String
  after : List String
  token : ∀ character ∈ cookieName.toList, isTokenCharacter character = true
  parted : ∀ part ∈ before ++ own :: after, ';' ∉ part.toList
  written : JsText.trim own = cookieName ++ "=" ++ encodeURIComponent sessionId
  apart : ∀ part ∈ before ++ after, nameOf part ≠ some cookieName

namespace SessionHeader

variable {cookieName sessionId : String} (header : SessionHeader cookieName sessionId)

def parts : List String := header.before ++ header.own :: header.after

def text : String := JsText.join ';' header.parts

end SessionHeader

/-- The session is read, and nothing throws. -/
structure ReadsSession {AuthFlowState : Type} (service : AuthCookieService)
    (openFlow : String → String → Option AuthFlowState) (header sessionId : String) : Prop where
  session : service.getSessionId (some header) = .ok (some sessionId)
  authFlow : ∃ authFlow, service.getAuthFlow openFlow (some header) = .ok authFlow

/-! ## What is decoded -/

/-- The cookie of a part, where its name and its value decode. -/
def cookieOf (part : String) : Option (String × String) :=
  match separate (JsText.trim part) with
  | none => none
  | some (rawKey, rawValue) =>
      match decodeURIComponent (JsText.trim rawKey), decodeURIComponent (JsText.trim rawValue) with
      | some key, some value => if key = "__proto__" then none else some (key, value)
      | some _, none => none
      | none, _ => none

/-- The name and the value of a part decode, if it has an equals sign. -/
def Decodes (part : String) : Prop :=
  ∀ pair ∈ separate (JsText.trim part), (decodeURIComponent (JsText.trim pair.1)).isSome ∧
    (decodeURIComponent (JsText.trim pair.2)).isSome

instance (part : String) : Decidable (Decodes part) :=
  inferInstanceAs (Decidable (∀ pair ∈ separate (JsText.trim part), _))

/-- The value of the last part whose name decodes to the name. -/
def lastNamed (name : String) (parts : List String) : Option String :=
  ((parts.filterMap cookieOf).reverse.lookup name)

section Decoding

variable {part : String} {parts : List String} (cookies : OrderedMap String String)

theorem addPart_of_decodes (decodes : Decodes part) :
    addPart cookies (JsText.trim part) = .ok (match cookieOf part with
      | none => cookies
      | some cookie => cookies.set cookie.1 cookie.2) := by
  rw [addPart, cookieOf]
  cases separated : separate (JsText.trim part) with
  | none => rfl
  | some pair =>
      rcases pair with ⟨rawKey, rawValue⟩
      rcases decodes _ separated with ⟨key, value⟩
      rcases Option.isSome_iff_exists.mp key with ⟨key, keyDecoded⟩
      rcases Option.isSome_iff_exists.mp value with ⟨value, valueDecoded⟩
      simp only [decoded, keyDecoded, valueDecoded]
      by_cases prototype : key = "__proto__"
      · rw [if_pos prototype]
        exact congrArg Except.ok (if_pos prototype)
      · rw [if_neg prototype]
        exact congrArg Except.ok (if_neg prototype)

theorem addPart_of_not_decodes (throws : ¬Decodes part) :
    addPart cookies (JsText.trim part) = .error .malformed := by
  rw [addPart]
  cases separated : separate (JsText.trim part) with
  | none => exact absurd (fun pair found => by rw [separated] at found; cases found) throws
  | some pair =>
      rcases pair with ⟨rawKey, rawValue⟩
      cases keyDecoded : decodeURIComponent (JsText.trim rawKey) with
      | none =>
          simp only [decoded, keyDecoded]
          rfl
      | some key =>
          cases valueDecoded : decodeURIComponent (JsText.trim rawValue) with
          | none =>
              simp only [decoded, keyDecoded, valueDecoded]
              rfl
          | some value =>
              refine absurd ?_ throws
              intro pair found
              rw [separated] at found
              cases found
              rw [keyDecoded, valueDecoded]
              exact ⟨rfl, rfl⟩

/-- Parts without a text are skipped, and would change nothing. -/
theorem foldlM_addPart_trim : ((parts.map JsText.trim).filter (· ≠ "")).foldlM addPart cookies =
    parts.foldlM (fun cookies part => addPart cookies (JsText.trim part)) cookies := by
  induction parts generalizing cookies with
  | nil => rw [List.map_nil, List.filter_nil, List.foldlM_nil, List.foldlM_nil]
  | cons part rest ih =>
      rw [List.map_cons, List.foldlM_cons]
      by_cases empty : JsText.trim part = ""
      · have skipped : addPart cookies (JsText.trim part) = .ok cookies := by
          simp [addPart, separate, empty]
        rw [List.filter_cons_of_neg (by simpa using empty), ih, skipped]
        rfl
      · rw [List.filter_cons_of_pos (by simpa using empty), List.foldlM_cons]
        exact congrArg (addPart cookies (JsText.trim part) >>= ·) (funext fun next => ih next)

theorem lastNamed_cons (name : String) : lastNamed name (part :: parts) =
    (lastNamed name parts).or (((cookieOf part).filter (·.1 = name)).map Prod.snd) := by
  rw [lastNamed, lastNamed, List.filterMap_cons]
  cases cookieOf part with
  | none => simp
  | some cookie =>
      rcases cookie with ⟨key, value⟩
      rw [List.reverse_cons, List.lookup_append]
      by_cases same : key = name
      · simp [same, Option.filter, Option.or_some]
      · have other : (name == key) = false := by simpa using Ne.symm same
        simp [same, List.lookup_cons, other, Option.filter]

/-- Where all parts decode, the last one of a name is found. -/
theorem foldlM_addPart (decodes : ∀ part ∈ parts, Decodes part) :
    ∃ after, parts.foldlM (fun cookies part => addPart cookies (JsText.trim part)) cookies =
      .ok after ∧ ∀ name, after.get? name = (lastNamed name parts).or (cookies.get? name) := by
  induction parts generalizing cookies with
  | nil => exact ⟨cookies, rfl, fun _ => rfl⟩
  | cons part rest ih =>
      have step := addPart_of_decodes cookies (decodes part List.mem_cons_self)
      rcases ih (match cookieOf part with
        | none => cookies
        | some cookie => cookies.set cookie.1 cookie.2) fun other member =>
          decodes other (List.mem_cons_of_mem _ member) with ⟨after, read, found⟩
      refine ⟨after, ?_, ?_⟩
      · rw [List.foldlM_cons, step]
        exact read
      · intro name
        rw [found, lastNamed_cons, Option.or_assoc]
        refine congrArg (lastNamed name rest).or ?_
        cases cookieOf part with
        | none => rw [Option.filter_none, Option.map_none, Option.none_or]
        | some cookie =>
            rw [OrderedMap.get?_set]
            by_cases same : name = cookie.1
            · simp [same, Option.filter]
            · simp [same, Ne.symm same, Option.filter]

/-- Where a part does not decode, parsing throws. -/
theorem foldlM_addPart_throws (throws : ¬∀ part ∈ parts, Decodes part) :
    parts.foldlM (fun cookies part => addPart cookies (JsText.trim part)) cookies =
      .error .malformed := by
  induction parts generalizing cookies with
  | nil => exact absurd (fun _ absent => absurd absent List.not_mem_nil) throws
  | cons part rest ih =>
      rw [List.foldlM_cons]
      by_cases decodes : Decodes part
      · rw [addPart_of_decodes cookies decodes]
        exact ih _ fun others => throws (List.forall_mem_cons.mpr ⟨decodes, others⟩)
      · rw [addPart_of_not_decodes cookies decodes]
        rfl

end Decoding

/-! ## Reading the session -/

section Sessions

variable {AuthFlowState : Type} {service : AuthCookieService} {sessionId : String}
  {openFlow : String → String → Option AuthFlowState}
  (header : SessionHeader service.cookieName sessionId)

theorem SessionHeader.split_text : JsText.split ';' header.text = header.parts := by
  have some_ : header.parts ≠ [] := by simp [SessionHeader.parts]
  exact JsText.split_join some_ header.parted

/-- The part of the session makes the header a text. -/
theorem SessionHeader.text_ne_empty : header.text ≠ "" := by
  intro empty
  have parts := header.split_text
  rw [empty] at parts
  have own : header.own ∈ JsText.split ';' "" := by
    rw [parts, SessionHeader.parts]
    exact List.mem_append_right _ List.mem_cons_self
  have blank : header.own = "" := List.mem_singleton.mp own
  have written := header.written
  rw [blank] at written
  have sign : '=' ∈ (JsText.trim "").toList := by
    rw [written]
    simp
  exact absurd sign (by decide)

theorem SessionHeader.parse :
    parseCookieHeader (some header.text) =
      header.parts.foldlM (fun cookies part => addPart cookies (JsText.trim part)) .empty := by
  have present : JsText.truthyText (some header.text) = some header.text := by
    simp [JsText.truthyText, Option.filter, header.text_ne_empty]
  rw [parseCookieHeader, present, header.split_text.symm]
  exact foldlM_addPart_trim _

/-- The session is read from exactly those headers in which all parts decode, and of those whose
name decodes to that of the session the last has its id. -/
theorem readsSession_iff : ReadsSession service openFlow header.text sessionId ↔
    (∀ part ∈ header.parts, Decodes part) ∧
      lastNamed service.cookieName header.parts = some sessionId := by
  by_cases decodes : ∀ part ∈ header.parts, Decodes part
  · rcases foldlM_addPart .empty decodes with ⟨cookies, read, found⟩
    rw [← header.parse] at read
    have looked : service.getSessionId (some header.text) =
        .ok (lastNamed service.cookieName header.parts) := by
      rw [AuthCookieService.getSessionId, read]
      have none_ : (OrderedMap.empty : OrderedMap String String).get? service.cookieName = none :=
        rfl
      exact congrArg Except.ok ((found _).trans (by rw [none_, Option.or_none]))
    constructor
    · intro reads
      exact ⟨decodes, Except.ok.inj (looked.symm.trans reads.session)⟩
    · intro last
      refine ⟨looked.trans (congrArg Except.ok last.2), ?_⟩
      rw [AuthCookieService.getAuthFlow, read]
      cases flow : JsText.truthyText (cookies.get? service.authFlowCookieName) with
      | none => exact ⟨none, by simp only [bind, Except.bind, flow, pure, Except.pure]⟩
      | some encrypted =>
          exact ⟨openFlow service.encryptionKey encrypted,
            by simp only [bind, Except.bind, flow, pure, Except.pure]⟩
  · have throws : service.getSessionId (some header.text) = .error .malformed := by
      rw [AuthCookieService.getSessionId, header.parse, foldlM_addPart_throws _ decodes]
      rfl
    constructor
    · intro reads
      exact absurd (throws.symm.trans reads.session) (by simp)
    · exact fun last => absurd last.1 decodes

theorem isWhitespace_of_within {first last character : Char}
    (within : first.val ≤ character.val ∧ character.val ≤ last.val) (low : 48 ≤ first.toNat)
    (high : last.toNat ≤ 122) : JsText.isWhitespace character = false := by
  have least : first.toNat ≤ character.toNat := UInt32.le_iff_toNat_le.mp within.1
  have most : character.toNat ≤ last.toNat := UInt32.le_iff_toNat_le.mp within.2
  simp only [JsText.isWhitespace, Bool.or_eq_false_iff, Bool.and_eq_false_iff,
    decide_eq_false_iff_not, beq_eq_false_iff_ne]
  omega

theorem isWhitespace_of_alphanum {character : Char} (alphanum : character.isAlphanum = true) :
    JsText.isWhitespace character = false := by
  rcases Bool.or_eq_true_iff.mp alphanum with alpha | digit
  · rcases Bool.or_eq_true_iff.mp alpha with upper | lower
    · exact @isWhitespace_of_within 'A' 'Z' character (of_decide_eq_true upper) (by decide)
        (by decide)
    · rcases Bool.and_eq_true_iff.mp lower with ⟨least, most⟩
      exact @isWhitespace_of_within 'a' 'z' character
        ⟨of_decide_eq_true least, of_decide_eq_true most⟩ (by decide) (by decide)
  · rcases Bool.and_eq_true_iff.mp digit with ⟨least, most⟩
    exact @isWhitespace_of_within '0' '9' character
      ⟨of_decide_eq_true least, of_decide_eq_true most⟩ (by decide) (by decide)

theorem not_isWhitespace_of_isToken {character : Char}
    (token : isTokenCharacter character = true) : JsText.isWhitespace character = false := by
  rcases Bool.or_eq_true_iff.mp token with alphanum | listed
  · exact isWhitespace_of_alphanum alphanum
  · have visible : "!#$%&'*+-.^_`|~".toList.any JsText.isWhitespace = false := by decide
    exact Bool.eq_false_iff.mpr
      (List.any_eq_false.mp visible character (List.contains_iff_mem.mp listed))

theorem not_isWhitespace_of_isUnreserved {character : Char}
    (unreserved : isUnreserved character = true) : JsText.isWhitespace character = false := by
  rcases Bool.or_eq_true_iff.mp unreserved with alphanum | listed
  · exact isWhitespace_of_alphanum alphanum
  · have visible : "-_.!~*'()".toList.any JsText.isWhitespace = false := by decide
    exact Bool.eq_false_iff.mpr
      (List.any_eq_false.mp visible character (List.contains_iff_mem.mp listed))

theorem trim_eq_self {text : String}
    (visible : ∀ character ∈ text.toList, JsText.isWhitespace character = false) :
    JsText.trim text = text := by
  rw [JsText.trim, JsText.trimList_eq_self visible, String.ofList_toList]

theorem trim_encodeURIComponent (text : String) :
    JsText.trim (encodeURIComponent text) = encodeURIComponent text := by
  apply trim_eq_self
  intro character member
  rcases mem_encodeURIComponent member with unreserved | percent
  · exact not_isWhitespace_of_isUnreserved unreserved
  · rw [percent]
    rfl

/-- A pair is separated at the sign after its name. -/
theorem separate_pair {name value : String} (apart : '=' ∉ name.toList) :
    separate (name ++ "=" ++ value) = some (name, value) := by
  have sign : "=".toList = ['='] := rfl
  have other : ∀ character ∈ name.toList, (decide (character ≠ '=')) = true := by
    intro character member
    exact decide_eq_true fun same => apart (same ▸ member)
  have listed : (name ++ "=" ++ value).toList = name.toList ++ '=' :: value.toList := by
    rw [String.toList_append, String.toList_append, sign, List.append_assoc]
    rfl
  rw [separate, listed, if_pos (List.mem_append_right _ List.mem_cons_self),
    List.takeWhile_append_of_pos other, List.dropWhile_append_of_pos other]
  simp

theorem SessionHeader.separate_own :
    separate (JsText.trim header.own) =
      some (service.cookieName, encodeURIComponent sessionId) := by
  rw [header.written]
  apply separate_pair
  intro sign
  exact absurd (header.token '=' sign) (by decide)

theorem SessionHeader.trim_cookieName (header : SessionHeader service.cookieName sessionId) :
    JsText.trim service.cookieName = service.cookieName :=
  trim_eq_self fun character member => not_isWhitespace_of_isToken (header.token character member)

/-- Where the name has no percent sign, the other parts decode and none of the later ones has the
name, the session is read. -/
theorem readsSession_of_neighbours (plain : '%' ∉ service.cookieName.toList)
    (ordinary : service.cookieName ≠ "__proto__")
    (decodes : ∀ part ∈ header.before ++ header.after, Decodes part)
    (last : ∀ part ∈ header.after, ∀ cookie ∈ cookieOf part, cookie.1 ≠ service.cookieName) :
    ReadsSession service openFlow header.text sessionId := by
  have name := decodeURIComponent_plain plain
  have value := decodeURIComponent_encodeURIComponent sessionId
  have own : cookieOf header.own = some (service.cookieName, sessionId) := by
    rw [cookieOf, header.separate_own]
    simp only [header.trim_cookieName, trim_encodeURIComponent, name, value, if_neg ordinary]
  apply (readsSession_iff header).mpr
  constructor
  · intro part member
    rcases List.mem_append.mp member with earlier | later
    · exact decodes part (List.mem_append_left _ earlier)
    · rcases List.mem_cons.mp later with same | later
      · rw [same]
        intro pair separated
        cases header.separate_own.symm.trans separated
        rw [header.trim_cookieName, trim_encodeURIComponent, name, value]
        exact ⟨rfl, rfl⟩
      · exact decodes part (List.mem_append_right _ later)
  · have absent : (header.after.filterMap cookieOf).reverse.lookup service.cookieName = none := by
      apply List.lookup_eq_none_iff.mpr
      intro cookie member
      rcases List.mem_filterMap.mp (List.mem_reverse.mp member) with ⟨part, later, found⟩
      simpa using (last part later cookie found).symm
    rw [lastNamed, SessionHeader.parts, List.filterMap_append, List.filterMap_cons_some own,
      List.reverse_append, List.reverse_cons, List.lookup_append, List.lookup_append, absent]
    simp

end Sessions

/-! ## A neighbour that does not decode -/

def sampleService : AuthCookieService where
  cookieName := "reputo_auth_session"
  encryptionKey := "key"

/-- The cookie of another site part has a percent sign that encodes nothing. -/
def discountHeader : SessionHeader sampleService.cookieName "q3Zk_0-7" where
  before := ["banner=100%"]
  own := " reputo_auth_session=q3Zk_0-7"
  after := [" theme=dark"]
  token := List.all_eq_true.mp (by decide +kernel)
  parted := by decide +kernel
  written := by decide +kernel
  apart := by decide +kernel

/-- Reading the session throws. -/
theorem discountHeader_throws :
    ¬ReadsSession sampleService (fun _ _ => (none : Option Unit)) discountHeader.text
      "q3Zk_0-7" := by
  intro reads
  have session := reads.session
  revert session
  decide +kernel

end Cookies

end Reputo.Access

import Reputo.Community.Http
import Reputo.Library.IpAddress

/-!
# Requests to origins that users enter

An origin is checked against the outbound policy and resolved once; requests dial the resolved
addresses only, and redirects are refused.  What the resolver answers may differ from call to
call, and so may the texts in which it spells addresses.
-/

namespace Reputo.Community

open Reputo.Library

namespace SafeFetch

structure SafeOutboundPolicy where
  allowedHosts : List String
  maxResponseBytes : Nat
  deriving DecidableEq, Repr

structure ResolvedAddress where
  address : String
  family : Nat
  deriving DecidableEq, Repr

/-! ## Blocked addresses -/

def BLOCKED_IPV4_RANGES : List (String × Nat) :=
  [("0.0.0.0", 8), ("10.0.0.0", 8), ("100.64.0.0", 10), ("127.0.0.0", 8), ("169.254.0.0", 16),
    ("172.16.0.0", 12), ("192.0.0.0", 24), ("192.0.2.0", 24), ("192.168.0.0", 16),
    ("198.18.0.0", 15), ("198.51.100.0", 24), ("203.0.113.0", 24), ("224.0.0.0", 3)]

def BLOCKED_IPV6_RANGES : List (String × Nat) :=
  [("::", 96), ("64:ff9b::", 96), ("100::", 64), ("2001:db8::", 32), ("fc00::", 7),
    ("fe80::", 10), ("ff00::", 8)]

/-- An address of some bits lies in the subnet of another. -/
def inSubnet (bits value net length : Nat) : Bool :=
  value / 2 ^ (bits - length) = net / 2 ^ (bits - length)

/-- The number that the pieces of an address are. -/
def valueOfPieces (pieces : List Nat) : Nat :=
  pieces.foldl (fun value piece => value * 65536 + piece) 0

def inIpv4Ranges (value : Nat) : Bool :=
  BLOCKED_IPV4_RANGES.any fun range =>
    (IpAddress.parseV4 range.1).any fun net => inSubnet 32 value net range.2

def inIpv6Ranges (pieces : List Nat) : Bool :=
  BLOCKED_IPV6_RANGES.any fun range =>
    (IpAddress.parseV6 range.1).any fun net =>
      inSubnet 128 (valueOfPieces pieces) (valueOfPieces net) range.2

inductive AddressFamily where
  | ipv4
  | ipv6
  deriving DecidableEq, Repr

/-- `blockedRanges.check`, which throws on what is no address of the family. -/
def checkBlockedRanges (address : String) : AddressFamily → Option Bool
  | .ipv4 => (IpAddress.parseV4 address).map inIpv4Ranges
  | .ipv6 => (IpAddress.parseV6 address).map inIpv6Ranges

/-- `isIP(text)`. -/
def isIP (text : String) : Nat :=
  match IpAddress.parse text with
  | none => 0
  | some (.v4 _) => 4
  | some (.v6 _) => 6

/-- `\d{1,3}` and `[0-9a-f]{1,4}`. -/
def isRun (base most : Nat) (text : String) : Bool :=
  1 ≤ text.toList.length && text.toList.length ≤ most &&
    text.toList.all fun character => (JsText.digitValue base character).isSome

def isDotted (text : String) : Bool :=
  (JsText.split '.' text).length = 4 && (JsText.split '.' text).all (isRun 10 3)

/-- `Number.parseInt(text, 16)` of hexadecimal digits. -/
def parseHex (text : String) : Nat := (JsText.digitsValue 16 text.toList).getD 0

/-- What the patterns `::ffff:` with octets or with two groups capture; colons are in neither
capture, so that the parts of the text decide. -/
def toMappedIpv4 (address : String) : Option String :=
  match JsText.split ':' address with
  | ["", "", ffff, dotted] =>
      if ffff.toList.map Char.toLower = "ffff".toList && isDotted dotted then some dotted else none
  | ["", "", ffff, high, low] =>
      if ffff.toList.map Char.toLower = "ffff".toList && isRun 16 4 high && isRun 16 4 low then
        some (JsText.join '.' [toString (parseHex high / 256), toString (parseHex high % 256),
          toString (parseHex low / 256), toString (parseHex low % 256)])
      else none
  | _ => none

def isBlockedAddress (address : String) : Option Bool :=
  if isIP address = 0 then some true
  else if isIP address = 4 then checkBlockedRanges address .ipv4
  else
    match toMappedIpv4 address with
    | some mapped => checkBlockedRanges mapped .ipv4
    | none => checkBlockedRanges address .ipv6

/-! ## Targets -/

structure Url where
  protocol : String
  username : String
  password : String
  hostname : String
  port : String
  deriving DecidableEq, Repr

/-- Removes the brackets around a literal. -/
def unbracketed (hostname : String) : String :=
  let opened := if hostname.toList.head? = some '[' then hostname.toList.drop 1
    else hostname.toList
  String.ofList (if opened.getLast? = some ']' then opened.dropLast else opened)

def bareHostname (js : JsRuntime) (url : Url) : String := js.toLowerCase (unbracketed url.hostname)

/-- `new URL(text)`, which writes addresses of the sixth version in their canonical form. -/
structure UrlRuntime (js : JsRuntime) where
  parse : String → Option Url
  canonical : ∀ {rawUrl : String} {url : Url} {pieces : List Nat}, parse rawUrl = some url →
    IpAddress.parseV6 (bareHostname js url) = some pieces →
      bareHostname js url = IpAddress.serializeV6 pieces

structure PinnedTarget where
  url : Url
  addresses : List ResolvedAddress
  deriving DecidableEq, Repr

/-- The answers of the resolver, call by call. -/
abbrev Resolver := Nat → Except ThrownError (List ResolvedAddress)

/-- What a resolution comes to, and the calls of the resolver that it made. -/
structure Resolution where
  calls : Nat
  outcome : Except HttpFailure PinnedTarget

def invalidAddress : HttpFailure := .thrown ⟨true, "Invalid address", "ERR_INVALID_ADDRESS"⟩

section Resolve

variable (js : JsRuntime) (policy : SafeOutboundPolicy)

/-- What the policy says before anything is resolved. -/
def checkUrl (url : Url) : Option HttpFailure :=
  if url.protocol ≠ "http:" ∧ url.protocol ≠ "https:" then
    some (.outboundPolicy "Only http(s) server URLs are allowed.")
  else if url.username ≠ "" ∨ url.password ≠ "" then
    some (.outboundPolicy "Server URLs must not carry credentials.")
  else if ¬bareHostname js url ∈ policy.allowedHosts ∧ url.protocol ≠ "https:" then
    some (.outboundPolicy "HTTPS is required for servers outside the deployment allowlist.")
  else none

/-- What the policy says of the addresses. -/
def checkAddresses (url : Url) (addresses : List ResolvedAddress) :
    Except HttpFailure PinnedTarget :=
  if addresses = [] then
    .error (.network s!"The hostname \"{bareHostname js url}\" resolved to no addresses.")
  else if bareHostname js url ∈ policy.allowedHosts then .ok ⟨url, addresses⟩
  else
    match addresses.anyM fun entry => isBlockedAddress entry.address with
    | none => .error invalidAddress
    | some true => .error (.outboundPolicy
        "The server resolves to a private or reserved address, which is blocked.")
    | some false => .ok ⟨url, addresses⟩

def resolvePinnedTarget (urls : UrlRuntime js) (rawUrl : String) (resolver : Resolver) :
    Resolution :=
  match urls.parse rawUrl with
  | none => ⟨0, .error (.outboundPolicy "The server URL is not a valid URL.")⟩
  | some url =>
      match checkUrl js policy url with
      | some failure => ⟨0, .error failure⟩
      | none =>
          let hostname := bareHostname js url
          if isIP hostname ≠ 0 then
            ⟨0, checkAddresses js policy url [⟨hostname, isIP hostname⟩]⟩
          else
            match resolver 0 with
            | .error _ =>
                ⟨1, .error (.network s!"The hostname \"{hostname}\" could not be resolved.")⟩
            | .ok addresses => ⟨1, checkAddresses js policy url addresses⟩

end Resolve

/-! ## Requests -/

/-- A dispatcher dials what it looks up: all addresses, or the first one. -/
structure PinnedDispatcher where
  lookup : Bool → List ResolvedAddress

def createPinnedDispatcher (target : PinnedTarget) : PinnedDispatcher where
  lookup all := if all then target.addresses else target.addresses.take 1

/-- An attempt contacts an origin through a dispatcher. -/
structure Contact where
  url : Url
  dispatcher : PinnedDispatcher

/-- The calls of the resolver and the contacts of a request, and its outcome. -/
structure SafeRun where
  calls : Nat
  dispatcher : Option PinnedDispatcher
  contacts : List Contact
  outcome : Except HttpFailure HttpResponse

/-- The attempts that were made. -/
def requestsOf (events : List HttpEvent) : Nat := events.countP (· = .request)

/-- One request, with its retries, through one dispatcher. -/
def executeSafeRequest (js : JsRuntime) (urls : UrlRuntime js) (config : RetryConfig)
    (policy : SafeOutboundPolicy) (options : HttpRequestOptions) (rawUrl : String)
    (resolver : Resolver) (exchanges : Nat → HttpExchange) : SafeRun :=
  let resolution := resolvePinnedTarget js policy urls rawUrl resolver
  match resolution.outcome with
  | .error failure => ⟨resolution.calls, none, [], .error failure⟩
  | .ok target =>
      let dispatcher := createPinnedDispatcher target
      let run := executeRequest js config { options with
        rejectRedirects := true, maxResponseBytes := some policy.maxResponseBytes } exchanges
      ⟨resolution.calls, some dispatcher,
        List.replicate (requestsOf run.events) ⟨target.url, dispatcher⟩, run.outcome⟩

end SafeFetch

end Reputo.Community

import Reputo.Community.HttpOutcome
import Reputo.Community.SafeFetch

/-!
# Pinned origins

A request to an origin outside the allowlist dials public addresses only, as long as the
resolver spells addresses that are mapped from the fourth version in one of the two ways that
the policy knows.
-/

namespace Reputo.Community

open Reputo.Library

namespace SafeFetch

/-! ## What is to be blocked -/

/-- The ranges of the version of an address. -/
def inBlockedRange : IpAddress → Bool
  | .v4 value => inIpv4Ranges value
  | .v6 pieces => inIpv6Ranges pieces

/-- An address, judged as the one that it reaches, is in no blocked range. -/
def ResolvedAddress.IsPublic (entry : ResolvedAddress) : Prop :=
  ∃ ip, IpAddress.parse entry.address = some ip ∧ inBlockedRange ip.unmapped = false

/-- The literal of a URL that is an address. -/
def IsLiteral (js : JsRuntime) (url : Url) (entry : ResolvedAddress) : Prop :=
  entry = ⟨bareHostname js url, isIP (bareHostname js url)⟩ ∧ isIP (bareHostname js url) ≠ 0

/-- A request reaches the origin that was entered, and only where the policy lets it. -/
structure Confined (js : JsRuntime) (urls : UrlRuntime js) (policy : SafeOutboundPolicy)
    (rawUrl : String) (resolver : Resolver) (exchanges : Nat → HttpExchange) (run : SafeRun) :
    Prop where
  resolvedOnce : run.calls ≤ 1
  pinned : ∀ dispatcher ∈ run.dispatcher, ∀ all, ∀ entry ∈ dispatcher.lookup all,
    (∃ answer, run.calls = 1 ∧ resolver 0 = .ok answer ∧ entry ∈ answer) ∨
      ∃ url, urls.parse rawUrl = some url ∧ IsLiteral js url entry
  policed : ∀ dispatcher ∈ run.dispatcher, ∀ url, urls.parse rawUrl = some url →
    bareHostname js url ∉ policy.allowedHosts → url.protocol = "https:" ∧
      ∀ all, ∀ entry ∈ dispatcher.lookup all, entry.IsPublic
  oneOrigin : ∀ contact ∈ run.contacts, urls.parse rawUrl = some contact.url ∧
    run.dispatcher = some contact.dispatcher
  redirected : ∀ attempt statusCode headers size text,
    (exchanges attempt).reply = .response statusCode headers size text →
      300 ≤ statusCode → statusCode < 400 → run.contacts.length ≤ attempt + 1

/-- An address that is mapped from a blocked one, spelled otherwise than with `::ffff:` and
octets, or two groups. -/
def IsMisspelled (address : String) : Prop :=
  ∃ high low, IpAddress.parse address = some (.v6 [0, 0, 0, 0, 0, 65535, high, low]) ∧
    inIpv4Ranges (high * 65536 + low) = true ∧ toMappedIpv4 address = none

/-- Where an answer of the resolver decides, its addresses are spelled as the patterns expect,
or another one among them is blocked. -/
def AnswersPlainly (js : JsRuntime) (urls : UrlRuntime js) (policy : SafeOutboundPolicy)
    (rawUrl : String) (resolver : Resolver) : Prop :=
  ∀ url answer, urls.parse rawUrl = some url → checkUrl js policy url = none →
    bareHostname js url ∉ policy.allowedHosts → isIP (bareHostname js url) = 0 →
    resolver 0 = .ok answer → ∀ entry ∈ answer, IsMisspelled entry.address →
      ∃ other ∈ answer, ¬other.IsPublic ∧ ¬IsMisspelled other.address

/-! ## Mapped addresses -/

section Mapped

variable {address mapped : String}

-- The equations are made here, once for all proofs below.
section
attribute [local simp] isRun isDotted IpAddress.parse IpAddress.parseV6 IpAddress.hexGroup toMappedIpv4 isBlockedAddress isIP checkBlockedRanges
end

theorem not_mem_of_isRun {base most : Nat} {text : String} (run : isRun base most text = true)
    {character : Char} (digitless : JsText.digitValue base character = none) :
    character ∉ text.toList := by
  intro member
  have digit := List.all_eq_true.mp (Bool.and_eq_true_iff.mp run).2 character member
  rw [digitless] at digit
  cases digit

theorem not_mem_of_isDotted {text : String} (dotted : isDotted text = true) {character : Char}
    (digitless : JsText.digitValue 10 character = none) (notDot : character ≠ '.') :
    character ∉ text.toList := by
  intro member
  rcases @JsText.mem_split '.' _ _ member with same | ⟨part, among, inside⟩
  · exact notDot same
  · exact not_mem_of_isRun (List.all_eq_true.mp (Bool.and_eq_true_iff.mp dotted).2 part among)
      digitless inside

theorem dot_mem_of_isDotted {text : String} (dotted : isDotted text = true) :
    '.' ∈ text.toList := by
  by_contra absent
  have four := of_decide_eq_true (Bool.and_eq_true_iff.mp dotted).1
  rw [JsText.split_eq_singleton absent] at four
  cases four

/-- Digits have a value. -/
theorem hexGroup_of_isRun {text : String} (run : isRun 16 4 text = true) :
    IpAddress.hexGroup text = some (parseHex text) := by
  rcases Bool.and_eq_true_iff.mp run with ⟨lengths, digits⟩
  rcases Bool.and_eq_true_iff.mp lengths with ⟨atLeast, atMost⟩
  have nonempty : text.toList.isEmpty = false := by
    cases characters : text.toList with
    | nil =>
        rw [characters] at atLeast
        cases atLeast
    | cons character rest => rfl
  rcases JsText.exists_digitsFrom 0 (List.all_eq_true.mp digits) with ⟨value, read⟩
  have known : JsText.digitsValue 16 text.toList = some value := by
    rw [JsText.digitsValue, if_neg (by rw [nonempty]; decide), read]
  rw [IpAddress.hexGroup, if_pos (of_decide_eq_true atMost), parseHex, known]
  rfl

/-- The letters of the pattern in either case. -/
theorem hexGroup_of_ffff {text : String} (letters : text.toList.map Char.toLower = "ffff".toList) :
    IpAddress.hexGroup text = some 65535 := by
  have four : text.toList.length = 4 := by
    rw [← List.length_map Char.toLower, letters]
    rfl
  have nonempty : text.toList.isEmpty = false := by
    cases characters : text.toList with
    | nil =>
        rw [characters] at four
        cases four
    | cons character rest => rfl
  rw [IpAddress.hexGroup, if_pos (Nat.le_of_eq four), JsText.digitsValue,
    if_neg (by rw [nonempty]; decide), ← JsText.digitsFrom_toLower, letters]
  decide

theorem hexGroup_of_isDotted {text : String} (dotted : isDotted text = true) :
    IpAddress.hexGroup text = none := by
  cases read : IpAddress.hexGroup text with
  | none => rfl
  | some value =>
      rw [IpAddress.hexGroup] at read
      split at read
      · rw [JsText.digitsValue] at read
        split at read
        · cases read
        · have digit := JsText.digitValue_isSome_of_mem read (dot_mem_of_isDotted dotted)
          cases digit
      · cases read

theorem not_mem_of_ffff {text : String} (letters : text.toList.map Char.toLower = "ffff".toList) :
    '%' ∉ text.toList := by
  intro member
  have lowered := List.mem_map_of_mem (f := Char.toLower) member
  rw [letters] at lowered
  exact absurd lowered (by decide)

/-- A text without a zone is read by its parts. -/
theorem parseV6_of_parts {parts : List String} (split : JsText.split ':' address = parts)
    (zoneless : ∀ part ∈ parts, '%' ∉ part.toList) :
    IpAddress.parseV6 address = IpAddress.pieces parts := by
  have absent : '%' ∉ address.toList := by
    intro member
    rcases @JsText.mem_split ':' _ _ member with same | ⟨part, among, inside⟩
    · exact absurd same (by decide)
    · rw [split] at among
      exact zoneless part among inside
  rw [IpAddress.parseV6, JsText.split_eq_singleton absent]
  exact congrArg IpAddress.pieces split

/-- What the patterns capture is the address that is mapped. -/
theorem toMappedIpv4_sound (captured : toMappedIpv4 address = some mapped)
    {pieces : List Nat} (read : IpAddress.parseV6 address = some pieces) :
    ∃ high low, pieces = [0, 0, 0, 0, 0, 65535, high, low] ∧
      IpAddress.parseV4 mapped = some (high * 65536 + low) := by
  rw [toMappedIpv4] at captured
  split at captured
  · rename_i ffff dotted parts
    split at captured
    · rename_i both
      rcases Bool.and_eq_true_iff.mp both with ⟨letters, isDotted⟩
      have same := of_decide_eq_true letters
      rw [← Option.some.inj captured]
      have zoneless : ∀ part ∈ ["", "", ffff, dotted], '%' ∉ part.toList := by
        intro part member
        rcases List.mem_cons.mp member with first | member
        · rw [first]
          decide
        rcases List.mem_cons.mp member with second | member
        · rw [second]
          decide
        rcases List.mem_cons.mp member with third | member
        · rw [third]
          exact not_mem_of_ffff same
        · rw [List.mem_singleton.mp member]
          exact not_mem_of_isDotted isDotted (by decide) (by decide)
      rw [parseV6_of_parts parts zoneless] at read
      simp only [IpAddress.pieces, IpAddress.groupsAfter, IpAddress.groups,
        hexGroup_of_ffff same, hexGroup_of_isDotted isDotted] at read
      cases octets : IpAddress.parseV4 dotted with
      | none =>
          rw [octets] at read
          cases read
      | some value =>
          rw [octets] at read
          cases read
          exact ⟨value / 65536, value % 65536, rfl, congrArg some (by omega)⟩
    · cases captured
  · rename_i ffff high low parts
    split at captured
    · rename_i both
      rcases Bool.and_eq_true_iff.mp both with ⟨both, lowRun⟩
      rcases Bool.and_eq_true_iff.mp both with ⟨letters, highRun⟩
      have same := of_decide_eq_true letters
      rw [← Option.some.inj captured]
      have zoneless : ∀ part ∈ ["", "", ffff, high, low], '%' ∉ part.toList := by
        intro part member
        rcases List.mem_cons.mp member with first | member
        · rw [first]
          decide
        rcases List.mem_cons.mp member with second | member
        · rw [second]
          decide
        rcases List.mem_cons.mp member with third | member
        · rw [third]
          exact not_mem_of_ffff same
        rcases List.mem_cons.mp member with fourth | member
        · rw [fourth]
          exact not_mem_of_isRun highRun (by decide)
        · rw [List.mem_singleton.mp member]
          exact not_mem_of_isRun lowRun (by decide)
      rw [parseV6_of_parts parts zoneless] at read
      have highGroup := hexGroup_of_isRun highRun
      have lowGroup := hexGroup_of_isRun lowRun
      have highBound := IpAddress.hexGroup_lt highGroup
      have lowBound := IpAddress.hexGroup_lt lowGroup
      simp only [IpAddress.pieces, IpAddress.groupsAfter, IpAddress.groups,
        hexGroup_of_ffff same, highGroup, lowGroup] at read
      cases read
      refine ⟨parseHex high, parseHex low, rfl, ?_⟩
      rw [IpAddress.parseV4_join (by omega) (by omega) (by omega) (by omega)]
      exact congrArg some (by omega)
    · cases captured
  · cases captured

/-- Mapped addresses lie in no range of the sixth version. -/
theorem inIpv6Ranges_mapped {high low : Nat} (highBound : high < 65536) (lowBound : low < 65536) :
    inIpv6Ranges [0, 0, 0, 0, 0, 65535, high, low] = false := by
  have outside : ∀ range ∈ BLOCKED_IPV6_RANGES, range.2 ≤ 96 ∧
      (IpAddress.parseV6 range.1).all fun net =>
        65535 / 2 ^ (96 - range.2) ≠ valueOfPieces net / 2 ^ (128 - range.2) := by
    decide +kernel
  have value : valueOfPieces [0, 0, 0, 0, 0, 65535, high, low] / 2 ^ 32 = 65535 := by
    simp only [valueOfPieces, List.foldl_cons, List.foldl_nil]
    omega
  refine List.any_eq_false.mpr fun range member => ?_
  rcases outside range member with ⟨short, apart⟩
  cases read : IpAddress.parseV6 range.1 with
  | none => exact Bool.false_ne_true
  | some net =>
      rw [read] at apart
      intro within
      have same := of_decide_eq_true within
      have parts : 128 - range.2 = 32 + (96 - range.2) := by omega
      refine of_decide_eq_true apart ?_
      rw [← same, parts, pow_add, ← Nat.div_div_eq_div_mul, value]

/-- Canonical texts are spelled as the patterns expect. -/
theorem toMappedIpv4_serializeV6 {high low : Nat} (highBound : high < 65536)
    (lowBound : low < 65536) :
    (toMappedIpv4 (IpAddress.serializeV6 [0, 0, 0, 0, 0, 65535, high, low])).isSome := by
  have isRun_hexText : ∀ {piece}, piece < 65536 → isRun 16 4 (IpAddress.hexText piece) = true := by
    intro piece bound
    rcases IpAddress.hexText_digits bound with ⟨atLeast, atMost, digits⟩
    rw [isRun, decide_eq_true atLeast, decide_eq_true atMost, Bool.true_and, Bool.true_and]
    exact List.all_eq_true.mpr fun character member => (digits character member).1
  have apart : ∀ part ∈ ["", "", "ffff", IpAddress.hexText high, IpAddress.hexText low],
      ':' ∉ part.toList := by
    intro part member
    have fixed : part ∈ ["", "", "ffff"] → ':' ∉ part.toList := by
      intro known
      have all : ∀ part ∈ ["", "", "ffff"], ':' ∉ part.toList := by decide
      exact all part known
    rcases List.mem_append.mp (show part ∈ ["", "", "ffff"] ++
      [IpAddress.hexText high, IpAddress.hexText low] from member) with known | member
    · exact fixed known
    rcases List.mem_cons.mp member with same | member
    · exact fun inside => ((IpAddress.hexText_digits highBound).2.2 _ (same ▸ inside)).2 rfl
    · exact fun inside => ((IpAddress.hexText_digits lowBound).2.2 _
        (List.mem_singleton.mp member ▸ inside)).2 rfl
  rw [IpAddress.serializeV6_mapped, toMappedIpv4, JsText.split_join (List.cons_ne_nil _ _) apart]
  simp only [isRun_hexText highBound, isRun_hexText lowBound]
  rfl

end Mapped

/-! ## What the policy decides -/

section Decides

variable {address : String}

theorem parseV4_of_parse {value : Nat}
    (read : IpAddress.parse address = some (.v4 value)) :
    IpAddress.parseV4 address = some value := by
  rw [IpAddress.parse] at read
  split at read
  · rename_i own parsed
    cases read
    exact parsed
  · rcases Option.map_eq_some_iff.mp read with ⟨pieces, _, same⟩
    cases same

theorem parseV6_of_parse {pieces : List Nat}
    (read : IpAddress.parse address = some (.v6 pieces)) :
    IpAddress.parseV6 address = some pieces := by
  rw [IpAddress.parse] at read
  split at read
  · cases read
  · rcases Option.map_eq_some_iff.mp read with ⟨own, parsed, same⟩
    cases same
    exact parsed

theorem isBlockedAddress_unread (unread : IpAddress.parse address = none) :
    isBlockedAddress address = some true := by
  have family : isIP address = 0 := by rw [isIP, unread]
  rw [isBlockedAddress, if_pos family]

theorem isBlockedAddress_v4 {value : Nat} (read : IpAddress.parse address = some (.v4 value)) :
    isBlockedAddress address = some (inIpv4Ranges value) := by
  have family : isIP address = 4 := by rw [isIP, read]
  rw [isBlockedAddress, if_neg (by omega), if_pos family, checkBlockedRanges,
    parseV4_of_parse read]
  rfl

/-- What the patterns capture is judged as the address that is mapped. -/
theorem isBlockedAddress_captured {pieces : List Nat}
    (read : IpAddress.parse address = some (.v6 pieces))
    (captured : (toMappedIpv4 address).isSome) :
    isBlockedAddress address = some (inBlockedRange (IpAddress.v6 pieces).unmapped) := by
  have family : isIP address = 6 := by rw [isIP, read]
  rcases Option.isSome_iff_exists.mp captured with ⟨mapped, known⟩
  rcases toMappedIpv4_sound known (parseV6_of_parse read) with ⟨high, low, same, value⟩
  rw [same, isBlockedAddress, if_neg (by omega), if_neg (by omega), known]
  simp only [checkBlockedRanges, value]
  rfl

theorem isBlockedAddress_missed {pieces : List Nat}
    (read : IpAddress.parse address = some (.v6 pieces)) (missed : toMappedIpv4 address = none) :
    isBlockedAddress address = some (inIpv6Ranges pieces) := by
  have family : isIP address = 6 := by rw [isIP, read]
  rw [isBlockedAddress, if_neg (by omega), if_neg (by omega), missed]
  simp only [checkBlockedRanges, parseV6_of_parse read]
  rfl

/-- An address that is mapped, or one that reaches itself. -/
theorem unmapped_cases (pieces : List Nat) :
    (∃ high low, pieces = [0, 0, 0, 0, 0, 65535, high, low]) ∨
      (IpAddress.v6 pieces).unmapped = .v6 pieces := by
  unfold IpAddress.unmapped
  split
  · rename_i high low same
    cases same
    exact .inl ⟨high, low, rfl⟩
  · exact .inr rfl

/-- The blocks of the sixth version hold no mapped address, so that a misspelled one passes. -/
theorem isBlockedAddress_misspelled (misspelled : IsMisspelled address) :
    isBlockedAddress address = some false := by
  rcases misspelled with ⟨high, low, read, _, missed⟩
  have bounds := IpAddress.parseV6_lt (parseV6_of_parse read)
  rw [isBlockedAddress_missed read missed, inIpv6Ranges_mapped (bounds high (by simp))
    (bounds low (by simp))]

/-- What the policy passes is public, or misspelled. -/
theorem isPublic_or_misspelled {entry : ResolvedAddress}
    (passed : isBlockedAddress entry.address = some false) :
    entry.IsPublic ∨ IsMisspelled entry.address := by
  cases read : IpAddress.parse entry.address with
  | none =>
      rw [isBlockedAddress_unread read] at passed
      cases passed
  | some ip =>
      cases ip with
      | v4 value =>
          rw [isBlockedAddress_v4 read] at passed
          exact .inl ⟨_, read, Option.some.inj passed⟩
      | v6 pieces =>
          cases known : toMappedIpv4 entry.address with
          | some mapped =>
              rw [isBlockedAddress_captured read (Option.isSome_iff_exists.mpr ⟨_, known⟩)]
                at passed
              exact .inl ⟨_, read, Option.some.inj passed⟩
          | none =>
              rw [isBlockedAddress_missed read known] at passed
              rcases unmapped_cases pieces with ⟨high, low, same⟩ | same
              · rw [same] at read
                cases blocked : inIpv4Ranges (high * 65536 + low) with
                | true => exact .inr ⟨high, low, read, blocked, known⟩
                | false => exact .inl ⟨_, read, blocked⟩
              · refine .inl ⟨_, read, ?_⟩
                rw [same]
                exact Option.some.inj passed

theorem not_isPublic_of_misspelled {entry : ResolvedAddress}
    (misspelled : IsMisspelled entry.address) : ¬entry.IsPublic := by
  rintro ⟨ip, same, passed⟩
  rcases misspelled with ⟨high, low, read, blocked, _⟩
  rw [read] at same
  cases same
  exact absurd blocked (Bool.eq_false_iff.mp passed)

theorem isBlockedAddress_of_isPublic {entry : ResolvedAddress} (known : entry.IsPublic) :
    isBlockedAddress entry.address = some false := by
  rcases known with ⟨ip, read, passed⟩
  cases ip with
  | v4 value =>
      rw [isBlockedAddress_v4 read]
      exact congrArg some passed
  | v6 pieces =>
      cases known : toMappedIpv4 entry.address with
      | some mapped =>
          rw [isBlockedAddress_captured read (Option.isSome_iff_exists.mpr ⟨_, known⟩), passed]
      | none =>
          rw [isBlockedAddress_missed read known]
          rcases unmapped_cases pieces with ⟨high, low, same⟩ | same
          · have bounds := IpAddress.parseV6_lt (parseV6_of_parse read)
            rw [same] at bounds ⊢
            rw [inIpv6Ranges_mapped (bounds high (by simp)) (bounds low (by simp))]
          · rw [same] at passed
            exact congrArg some passed

/-- A literal is written in its canonical form. -/
theorem not_misspelled_literal {js : JsRuntime} (urls : UrlRuntime js) {rawUrl : String} {url : Url}
    (parsed : urls.parse rawUrl = some url) : ¬IsMisspelled (bareHostname js url) := by
  rintro ⟨high, low, read, _, missed⟩
  have bounds := IpAddress.parseV6_lt (parseV6_of_parse read)
  have captured := toMappedIpv4_serializeV6 (bounds high (by simp)) (bounds low (by simp))
  rw [← urls.canonical parsed (parseV6_of_parse read), missed] at captured
  cases captured

end Decides

/-! ## Runs -/

section Runs

variable {js : JsRuntime} {policy : SafeOutboundPolicy} {urls : UrlRuntime js} {rawUrl : String}
  {resolver : Resolver} {target : PinnedTarget}

/-- Where the addresses of a target come from. -/
def Origin (js : JsRuntime) (target : PinnedTarget) (calls : Nat) (resolver : Resolver) : Prop :=
  (calls = 1 ∧ isIP (bareHostname js target.url) = 0 ∧ resolver 0 = .ok target.addresses) ∨
    (isIP (bareHostname js target.url) ≠ 0 ∧
      target.addresses = [⟨bareHostname js target.url, isIP (bareHostname js target.url)⟩])

theorem anyM_eq_some_false {test : ResolvedAddress → Option Bool} {addresses : List ResolvedAddress} :
    addresses.anyM test = some false ↔ ∀ entry ∈ addresses, test entry = some false := by
  induction addresses with
  | nil => exact ⟨fun _ _ none_ => absurd none_ List.not_mem_nil, fun _ => rfl⟩
  | cons entry rest ih =>
      rw [List.anyM]
      constructor
      · intro done
        rcases Option.bind_eq_some_iff.mp done with ⟨verdict, own, done⟩
        cases verdict with
        | true => cases done
        | false =>
            intro other member
            rcases List.mem_cons.mp member with same | later
            · exact same ▸ own
            · exact ih.mp done other later
      · intro all
        rw [all entry List.mem_cons_self]
        exact ih.mpr fun other later => all other (List.mem_cons_of_mem _ later)

theorem checkAddresses_ok {url : Url} {addresses : List ResolvedAddress}
    (passed : checkAddresses js policy url addresses = .ok target) :
    target = ⟨url, addresses⟩ ∧ addresses ≠ [] ∧ (bareHostname js url ∈ policy.allowedHosts ∨
      ∀ entry ∈ addresses, isBlockedAddress entry.address = some false) := by
  rw [checkAddresses] at passed
  split at passed
  · cases passed
  rename_i nonempty
  split at passed
  · rename_i allowed
    cases passed
    exact ⟨rfl, nonempty, .inl allowed⟩
  · split at passed
    · cases passed
    · cases passed
    · rename_i verdict
      cases passed
      exact ⟨rfl, nonempty, .inr (anyM_eq_some_false.mp verdict)⟩

theorem checkAddresses_passed {url : Url} {addresses : List ResolvedAddress}
    (nonempty : addresses ≠ [])
    (passed : ∀ entry ∈ addresses, isBlockedAddress entry.address = some false) :
    checkAddresses js policy url addresses = .ok ⟨url, addresses⟩ := by
  rw [checkAddresses, if_neg nonempty, anyM_eq_some_false.mpr passed]
  exact ite_self _

theorem resolvePinnedTarget_calls :
    (resolvePinnedTarget js policy urls rawUrl resolver).calls ≤ 1 := by
  rw [resolvePinnedTarget]
  split
  · exact Nat.zero_le _
  split
  · exact Nat.zero_le _
  simp only
  split
  · exact Nat.zero_le _
  split
  · exact Nat.le_refl _
  · exact Nat.le_refl _

/-- What a resolved target has passed. -/
theorem resolvePinnedTarget_ok
    (done : (resolvePinnedTarget js policy urls rawUrl resolver).outcome = .ok target) :
    urls.parse rawUrl = some target.url ∧ checkUrl js policy target.url = none ∧
      Origin js target (resolvePinnedTarget js policy urls rawUrl resolver).calls resolver ∧
      (bareHostname js target.url ∈ policy.allowedHosts ∨
        ∀ entry ∈ target.addresses, isBlockedAddress entry.address = some false) := by
  rw [resolvePinnedTarget] at done ⊢
  cases parsed : urls.parse rawUrl with
  | none =>
      rw [parsed] at done
      cases done
  | some url =>
      rw [parsed] at done
      cases checked : checkUrl js policy url with
      | some failure =>
          simp only [checked] at done
          cases done
      | none =>
          simp only [checked] at done ⊢
          by_cases literal : isIP (bareHostname js url) ≠ 0
          · rw [if_pos literal] at done ⊢
            have accepted : checkAddresses js policy url
                [⟨bareHostname js url, isIP (bareHostname js url)⟩] = .ok target := done
            rcases checkAddresses_ok accepted with ⟨same, _, passed⟩
            cases same
            exact ⟨rfl, checked, .inr ⟨literal, rfl⟩, passed⟩
          · rw [if_neg literal] at done ⊢
            cases answered : resolver 0 with
            | error error =>
                rw [answered] at done
                cases done
            | ok answer =>
                rw [answered] at done
                have accepted : checkAddresses js policy url answer = .ok target := done
                rcases checkAddresses_ok accepted with ⟨same, _, passed⟩
                cases same
                exact ⟨rfl, checked, .inl ⟨rfl, not_not.mp literal, answered⟩, passed⟩

/-- An answer that passes is what the request dials. -/
theorem resolvePinnedTarget_answer {url : Url} {answer : List ResolvedAddress}
    (parsed : urls.parse rawUrl = some url) (checked : checkUrl js policy url = none)
    (named : isIP (bareHostname js url) = 0) (answered : resolver 0 = .ok answer)
    (nonempty : answer ≠ [])
    (passed : ∀ entry ∈ answer, isBlockedAddress entry.address = some false) :
    (resolvePinnedTarget js policy urls rawUrl resolver).outcome = .ok ⟨url, answer⟩ := by
  simp only [resolvePinnedTarget, parsed, checked, named, answered, ne_eq, not_true_eq_false,
    if_false]
  exact checkAddresses_passed nonempty passed

theorem protocol_of_checked {url : Url} (checked : checkUrl js policy url = none)
    (outside : bareHostname js url ∉ policy.allowedHosts) : url.protocol = "https:" := by
  rw [checkUrl] at checked
  split at checked
  · cases checked
  split at checked
  · cases checked
  split at checked
  · cases checked
  · rename_i secure
    by_contra other
    exact secure ⟨outside, other⟩

theorem mem_lookup {all : Bool} {entry : ResolvedAddress}
    (member : entry ∈ (createPinnedDispatcher target).lookup all) : entry ∈ target.addresses := by
  rw [createPinnedDispatcher] at member
  cases all with
  | true => exact member
  | false => exact List.mem_of_mem_take member

/-- A redirect ends the request. -/
theorem requestsOf_attemptsFrom {config : RetryConfig} {options : HttpRequestOptions}
    (rejecting : options.rejectRedirects = true) {exchanges : Nat → HttpExchange}
    {redirected statusCode size : Nat} {headers : HttpHeaders} {text : String}
    (reply : (exchanges redirected).reply = .response statusCode headers size text)
    (atLeast : 300 ≤ statusCode) (below : statusCode < 400) (left : Nat) {attempt : Nat}
    (lastError : Option HttpFailure) (early : attempt ≤ redirected) :
    requestsOf (attemptsFrom js config options exchanges left attempt lastError).events ≤
      redirected - attempt + 1 := by
  induction left generalizing attempt lastError with
  | zero => exact Nat.zero_le _
  | succ left ih =>
      rw [attemptsFrom]
      cases tried : attemptRequest js config options attempt (exchanges attempt) with
      | error error => exact Nat.succ_le_succ (Nat.zero_le _)
      | ok step =>
          cases step with
          | inl response => exact Nat.succ_le_succ (Nat.zero_le _)
          | inr another =>
              have notYet : attempt ≠ redirected := by
                intro same
                have refused : refusal options statusCode size = some (.outboundPolicy
                    "Platform answered with a redirect, which the outbound policy refuses.") := by
                  rw [refusal, if_pos (by simp [rejecting, atLeast, below])]
                rw [← same] at reply
                have failed : tryRequest js config options attempt (exchanges attempt) =
                    .error (.outboundPolicy
                      "Platform answered with a redirect, which the outbound policy refuses.") := by
                  simp only [tryRequest, reply, refused]
                rw [attemptRequest_of_error failed (isNetworkError_refusal js refused).1] at tried
                cases tried
              have silent : another.events.countP (fun event => decide (event = .request)) = 0 := by
                refine List.countP_eq_zero.mpr fun event member same => ?_
                exact attemptRequest_silent tried (of_decide_eq_true same ▸ member)
              have rest := ih (another.lastError <|> lastError) (Nat.le_of_lt_succ (by omega) : attempt + 1 ≤ redirected)
              simp only [requestsOf, List.cons_append, List.countP_cons, List.countP_append,
                silent] at rest ⊢
              simp only [decide_true, if_true]
              omega

end Runs

private def hostRuntime : JsRuntime where
  toLowerCase := asciiLowerCase
  toLowerCase_ascii := toList_asciiLowerCase
  number _ := none
  parseJson _ := .ok .null

private def oneHost (rawUrl : String) : Option Url :=
  if rawUrl = "https://chat.example" then some ⟨"https:", "", "", "chat.example", ""⟩ else none

private def hostUrls : UrlRuntime hostRuntime where
  parse := oneHost
  canonical := by
    intro rawUrl url pieces parsed read
    rw [oneHost] at parsed
    split at parsed
    · cases parsed
      have named : IpAddress.parseV6 (bareHostname hostRuntime
        ⟨"https:", "", "", "chat.example", ""⟩) = none := by decide +kernel
      rw [named] at read
      cases read
    · cases parsed

private def loopback : ResolvedAddress := ⟨"0:0:0:0:0:ffff:7f00:1", 6⟩

end SafeFetch

end Reputo.Community

import Mathlib.Data.List.Induction
import Reputo.Library.Base64Url
import Reputo.Library.JsText

/-!
# Sealed credentials

Credentials of communities are sealed in envelopes of texts joined by colons, bound to the
connection that they belong to, and opened with the current or the previous secret.  Tokens
of sessions are encrypted in a similar way, with one secret and without a binding.
-/

namespace Reputo.Community

open Reputo.Library

namespace Credentials

def ENVELOPE_VERSION : String := "ccv1"

def IV_LENGTH : Nat := 12

def KEY_ID_LENGTH : Nat := 8

def MIN_SECRET_LENGTH : Nat := 32

structure CommunityCredentialKeyring where
  currentSecret : String
  previousSecret : Option String
  deriving DecidableEq, Repr

structure CommunityCredentialBinding where
  platform : String
  externalId : String
  deriving DecidableEq, Repr

structure CommunityCredentialError where
  message : String
  deriving DecidableEq, Repr

/-- The runtime: encryption, base64url, and the digests of secrets and of keys. -/
structure CryptoRuntime (κ : Type) where
  aead : Aead κ IV_LENGTH
  base64url : ByteCodec ':'
  digest : String → κ
  digestKey : κ → Bytes

structure DerivedKey (κ : Type) where
  key : κ
  keyId : String

variable {κ : Type} (crypto : CryptoRuntime κ)

def CryptoRuntime.keyId (secret : String) : String :=
  JsText.sliceStart (crypto.base64url.encode (crypto.digestKey (crypto.digest secret)))
    KEY_ID_LENGTH

def deriveKey (secret : String) : Except CommunityCredentialError (DerivedKey κ) :=
  if JsText.length secret < MIN_SECRET_LENGTH then
    .error ⟨s!"Credential encryption secrets must be at least {MIN_SECRET_LENGTH} characters."⟩
  else .ok ⟨crypto.digest secret, crypto.keyId secret⟩

def additionalData (binding : CommunityCredentialBinding) : String :=
  s!"{binding.platform}:{binding.externalId}"

/-- Seals a credential with a random initialisation vector. -/
def sealCommunityCredential (keyring : CommunityCredentialKeyring)
    (binding : CommunityCredentialBinding) (plaintext : String) (iv : Nonce IV_LENGTH) :
    Except CommunityCredentialError String := do
  let derived ← deriveKey crypto keyring.currentSecret
  let (ciphertext, tag) := crypto.aead.encrypt derived.key iv (additionalData binding) plaintext
  return JsText.join ':' [ENVELOPE_VERSION, derived.keyId, crypto.base64url.encode iv,
    crypto.base64url.encode tag, crypto.base64url.encode ciphertext]

/-- The keys of a keyring, the current one first. -/
def CommunityCredentialKeyring.keys (keyring : CommunityCredentialKeyring) :
    Except CommunityCredentialError (List (DerivedKey κ)) := do
  let current ← deriveKey crypto keyring.currentSecret
  match keyring.previousSecret with
  | none => return [current]
  | some previousSecret =>
      let previous ← deriveKey crypto previousSecret
      return [current, previous]

def notEnvelope : CommunityCredentialError :=
  ⟨s!"The sealed credential is not a {ENVELOPE_VERSION} envelope."⟩

def openCommunityCredential (keyring : CommunityCredentialKeyring)
    (binding : CommunityCredentialBinding) (envelope : String) :
    Except CommunityCredentialError String := do
  match JsText.split ':' envelope with
  | [version, keyId, iv, tag, ciphertext] =>
      if version ≠ ENVELOPE_VERSION then .error notEnvelope
      else
      let keys ← keyring.keys crypto
      match keys.find? (·.keyId = keyId) with
      | none => .error ⟨"The sealed credential names a key this deployment does not hold."⟩
      | some candidate =>
          match crypto.aead.decrypt candidate.key (crypto.base64url.decode iv)
              (additionalData binding) (crypto.base64url.decode ciphertext)
              (crypto.base64url.decode tag) with
          | none =>
              .error ⟨"The sealed credential failed authentication — it was tampered with " ++
                "or belongs to another connection."⟩
          | some plaintext => .ok plaintext
  | _ => .error notEnvelope

/-! ## Tokens of sessions -/

def ENCRYPTION_VERSION : String := "enc:v1"

/-- Encrypts a token with a random initialisation vector. -/
def encryptValue (secret plaintext : String) (iv : Nonce IV_LENGTH) : String :=
  let (ciphertext, tag) := crypto.aead.encrypt (crypto.digest secret) iv "" plaintext
  JsText.join ':' [ENCRYPTION_VERSION, crypto.base64url.encode iv, crypto.base64url.encode tag,
    crypto.base64url.encode ciphertext]

/-- Segments after the fifth are ignored. -/
def decryptValue (secret encoded : String) : Except String String :=
  match JsText.split ':' encoded with
  | version :: mark :: iv :: tag :: ciphertext :: _ =>
      if s!"{version}:{mark}" ≠ ENCRYPTION_VERSION ∨ iv = "" ∨ tag = "" ∨ ciphertext = "" then
        .error "Invalid encrypted value format."
      else
        match crypto.aead.decrypt (crypto.digest secret) (crypto.base64url.decode iv) ""
            (crypto.base64url.decode ciphertext) (crypto.base64url.decode tag) with
        | none => .error "Unsupported state or unable to authenticate data"
        | some plaintext => .ok plaintext
  | _ => .error "Invalid encrypted value format."

/-! ## Where credentials belong -/

/-- The secrets of a keyring. -/
def CommunityCredentialKeyring.secrets (keyring : CommunityCredentialKeyring) : List String :=
  keyring.currentSecret :: keyring.previousSecret.toList

/-- The current secret becomes the previous one. -/
def CommunityCredentialKeyring.rotate (keyring : CommunityCredentialKeyring) (secret : String) :
    CommunityCredentialKeyring :=
  ⟨secret, some keyring.currentSecret⟩

/-- The secrets are as long as the environment of a deployment is checked for. -/
def CommunityCredentialKeyring.IsDeployed (keyring : CommunityCredentialKeyring) : Prop :=
  ∀ secret ∈ keyring.secrets, MIN_SECRET_LENGTH ≤ JsText.length secret

/-- The keys of different secrets have different ids. -/
def CryptoRuntime.Apart (secrets : List String) : Prop :=
  ∀ secret ∈ secrets, ∀ other ∈ secrets,
    crypto.keyId secret = crypto.keyId other → secret = other

/-- An envelope that was sealed. -/
def CryptoRuntime.IsSealed (envelope : String) : Prop :=
  ∃ keyring binding plaintext iv,
    sealCommunityCredential crypto keyring binding plaintext iv = .ok envelope

/-- What an envelope says: its version, the id of the key, and the bytes. -/
def CryptoRuntime.contents (envelope : String) : Option (String × String × Bytes × Bytes × Bytes) :=
  match JsText.split ':' envelope with
  | [version, keyId, iv, tag, ciphertext] => some (version, keyId, crypto.base64url.decode iv,
      crypto.base64url.decode tag, crypto.base64url.decode ciphertext)
  | _ => none

/-- A sealed credential opens exactly where it belongs. -/
def OpensWhereItBelongs (keyring opening : CommunityCredentialKeyring)
    (binding other : CommunityCredentialBinding) (plaintext : String) (iv : Nonce IV_LENGTH) :
    Prop :=
  ∀ envelope, sealCommunityCredential crypto keyring binding plaintext iv = .ok envelope →
    if keyring.currentSecret ∈ opening.secrets ∧ binding = other then
      openCommunityCredential crypto opening other envelope = .ok plaintext
    else ∃ error, openCommunityCredential crypto opening other envelope = .error error

/-- What was not sealed does not open. -/
def RefusesUnsealed (opening : CommunityCredentialKeyring) (other : CommunityCredentialBinding)
    (envelope : String) : Prop :=
  ¬crypto.IsSealed envelope →
    ∃ error, openCommunityCredential crypto opening other envelope = .error error

/-- An encrypted value is decrypted with its own secret only. -/
def DecryptsItsOwn (secret otherSecret plaintext : String) (iv : Nonce IV_LENGTH) : Prop :=
  decryptValue crypto secret (encryptValue crypto secret plaintext iv) = .ok plaintext ∧
    (secret ≠ otherSecret →
      ∃ error, decryptValue crypto otherSecret (encryptValue crypto secret plaintext iv) =
        .error error)

/-- Bindings with the same additional data are the same, where the sealing secret is held. -/
def BindingsApart (keyring opening : CommunityCredentialKeyring)
    (binding other : CommunityCredentialBinding) : Prop :=
  keyring.currentSecret ∈ opening.secrets → additionalData binding = additionalData other →
    binding = other

/-- An envelope that says what was sealed with a held secret for the binding was sealed. -/
def NotRespelled (opening : CommunityCredentialKeyring) (other : CommunityCredentialBinding)
    (envelope : String) : Prop :=
  ∀ secret ∈ opening.secrets, ∀ plaintext iv original,
    sealCommunityCredential crypto ⟨secret, none⟩ other plaintext iv = .ok original →
    crypto.contents envelope = crypto.contents original → crypto.IsSealed envelope

/-! ## Envelopes -/

section Envelopes

variable {crypto} {keyring opening : CommunityCredentialKeyring}
  {binding other : CommunityCredentialBinding} {plaintext envelope secret : String}
  {iv : Nonce IV_LENGTH}

theorem mem_of_mem_takeUnits {units : Nat} {characters : List Char} {character : Char}
    (member : character ∈ JsText.takeUnits units characters) : character ∈ characters := by
  induction characters generalizing units with
  | nil => exact absurd member (by simp [JsText.takeUnits])
  | cons head rest ih =>
      have taken : character ∈ head :: rest ∨ character ∈ ([] : List Char) := by
        simp only [JsText.takeUnits] at member
        generalize (if head.toNat < 0x10000 then 1 else 2) = size at member
        by_cases fits : size ≤ units
        · rw [if_pos fits] at member
          rcases List.mem_cons.mp member with same | later
          · exact .inl (same ▸ List.mem_cons_self)
          · exact .inl (List.mem_cons_of_mem _ (ih later))
        · rw [if_neg fits] at member
          exact .inr member
      rcases taken with inside | none_
      · exact inside
      · exact absurd none_ List.not_mem_nil

theorem colon_not_mem_keyId : ':' ∉ (crypto.keyId secret).toList := by
  rw [CryptoRuntime.keyId, JsText.sliceStart, String.toList_ofList]
  exact fun member => crypto.base64url.not_mem_encode _ (mem_of_mem_takeUnits member)

theorem CryptoRuntime.Apart.mono {secrets some_ : List String} (apart : crypto.Apart secrets)
    (among : some_ ⊆ secrets) : crypto.Apart some_ :=
  fun secret member other inside => apart secret (among member) other (among inside)

theorem deriveKey_eq_ok (long : MIN_SECRET_LENGTH ≤ JsText.length secret) :
    deriveKey crypto secret = .ok ⟨crypto.digest secret, crypto.keyId secret⟩ := by
  rw [deriveKey, if_neg (Nat.not_lt.mpr long)]

/-- What sealing writes. -/
theorem split_sealed (sealed_ : sealCommunityCredential crypto keyring binding plaintext iv =
      .ok envelope) :
    MIN_SECRET_LENGTH ≤ JsText.length keyring.currentSecret ∧
      JsText.split ':' envelope = [ENVELOPE_VERSION, crypto.keyId keyring.currentSecret,
        crypto.base64url.encode iv,
        crypto.base64url.encode (crypto.aead.encrypt (crypto.digest keyring.currentSecret) iv
          (additionalData binding) plaintext).2,
        crypto.base64url.encode (crypto.aead.encrypt (crypto.digest keyring.currentSecret) iv
          (additionalData binding) plaintext).1] := by
  by_cases long : MIN_SECRET_LENGTH ≤ JsText.length keyring.currentSecret
  · refine ⟨long, ?_⟩
    rw [sealCommunityCredential, deriveKey_eq_ok long] at sealed_
    rw [← Except.ok.inj sealed_]
    rw [JsText.split_join (List.cons_ne_nil _ _)]
    intro part member
    rcases List.mem_cons.mp member with version | member
    · rw [version]
      decide
    rcases List.mem_cons.mp member with keyId | member
    · rw [keyId]
      exact colon_not_mem_keyId
    rcases List.mem_cons.mp member with nonce | member
    · rw [nonce]
      exact crypto.base64url.not_mem_encode _
    rcases List.mem_cons.mp member with tag | member
    · rw [tag]
      exact crypto.base64url.not_mem_encode _
    rw [List.mem_singleton.mp member]
    exact crypto.base64url.not_mem_encode _
  · rw [sealCommunityCredential, deriveKey, if_pos (Nat.not_le.mp long)] at sealed_
    cases sealed_

theorem contents_sealed (sealed_ : sealCommunityCredential crypto keyring binding plaintext iv =
      .ok envelope) :
    crypto.contents envelope = some (ENVELOPE_VERSION, crypto.keyId keyring.currentSecret, iv.val,
      (crypto.aead.encrypt (crypto.digest keyring.currentSecret) iv (additionalData binding)
        plaintext).2,
      (crypto.aead.encrypt (crypto.digest keyring.currentSecret) iv (additionalData binding)
        plaintext).1) := by
  simp only [CryptoRuntime.contents, (split_sealed sealed_).2, ByteCodec.decode_encode]

/-- The key with which an envelope is opened. -/
def CryptoRuntime.derived (crypto : CryptoRuntime κ) (secret : String) : DerivedKey κ :=
  ⟨crypto.digest secret, crypto.keyId secret⟩

theorem keys_eq_ok (deployed : opening.IsDeployed) :
    opening.keys crypto = .ok (opening.secrets.map crypto.derived) := by
  rcases opening with ⟨currentSecret, previousSecret⟩
  have current := @deriveKey_eq_ok _ crypto _ (deployed currentSecret List.mem_cons_self)
  cases previousSecret with
  | none =>
      simp only [CommunityCredentialKeyring.keys, current]
      rfl
  | some previousSecret =>
      have previous := @deriveKey_eq_ok _ crypto _
        (deployed previousSecret (List.mem_cons_of_mem _ List.mem_cons_self))
      simp only [CommunityCredentialKeyring.keys, current, previous]
      rfl

/-- When an envelope opens, by what it says. -/
theorem open_eq_ok (deployed : opening.IsDeployed) :
    openCommunityCredential crypto opening other envelope = .ok plaintext ↔
      ∃ keyId iv tag ciphertext secret,
        crypto.contents envelope = some (ENVELOPE_VERSION, keyId, iv, tag, ciphertext) ∧
        opening.secrets.find? (fun held => decide (crypto.keyId held = keyId)) = some secret ∧
        crypto.aead.decrypt (crypto.digest secret) iv (additionalData other) ciphertext tag =
          some plaintext := by
  have keys := @keys_eq_ok _ crypto _ deployed
  constructor
  · intro opened
    rw [openCommunityCredential] at opened
    rw [CryptoRuntime.contents]
    split at opened
    · rename_i version keyId iv tag ciphertext parts
      by_cases known : version = ENVELOPE_VERSION
      · rw [if_neg (not_not_intro known), keys] at opened
        cases found : (opening.secrets.map crypto.derived).find? (·.keyId = keyId) with
        | none =>
            simp only [bind, Except.bind, found] at opened
            cases opened
        | some candidate =>
            simp only [bind, Except.bind, found] at opened
            rw [List.find?_map] at found
            rcases Option.map_eq_some_iff.mp found with ⟨secret, held, same⟩
            rw [← same] at opened
            cases text : crypto.aead.decrypt (crypto.digest secret)
                (crypto.base64url.decode iv) (additionalData other)
                (crypto.base64url.decode ciphertext) (crypto.base64url.decode tag) with
            | none =>
                simp only [CryptoRuntime.derived, text] at opened
                cases opened
            | some plain =>
                simp only [CryptoRuntime.derived, text] at opened
                rw [← Except.ok.inj opened]
                exact ⟨keyId, _, _, _, secret, by rw [known], held, text⟩
      · rw [if_pos known] at opened
        cases opened
    · cases opened
  · intro ⟨keyId, iv, tag, ciphertext, secret, said, held, text⟩
    rw [CryptoRuntime.contents] at said
    split at said
    · rename_i version keyId' iv' tag' ciphertext' parts
      cases said
      have found : (opening.secrets.map crypto.derived).find? (·.keyId = keyId) =
          some (crypto.derived secret) := by
        rw [List.find?_map]
        exact Option.map_eq_some_iff.mpr ⟨secret, held, rfl⟩
      rw [openCommunityCredential, parts]
      simp only [ne_eq, not_true_eq_false, if_false, keys, bind, Except.bind, found]
      simp only [CryptoRuntime.derived, text]
    · cases said

theorem raises_of_not_opened
    (closed : ∀ text, openCommunityCredential crypto opening other envelope ≠ .ok text) :
    ∃ error, openCommunityCredential crypto opening other envelope = .error error := by
  cases result : openCommunityCredential crypto opening other envelope with
  | ok text => exact absurd result (closed text)
  | error error => exact ⟨error, rfl⟩

/-- The secret whose key an envelope names is found. -/
theorem find?_held (apart : crypto.Apart opening.secrets) (held : secret ∈ opening.secrets) :
    opening.secrets.find? (fun other => decide (crypto.keyId other = crypto.keyId secret)) =
      some secret := by
  cases found : opening.secrets.find?
      (fun other => decide (crypto.keyId other = crypto.keyId secret)) with
  | none => exact absurd (decide_eq_true rfl) (List.find?_eq_none.mp found secret held)
  | some other =>
      have same : crypto.keyId other = crypto.keyId secret := of_decide_eq_true (by
        simpa using List.find?_some found)
      rw [apart other (List.mem_of_find?_eq_some found) secret held same]

variable (crypto) in
theorem sealed_of_held (deployed : opening.IsDeployed) (held : secret ∈ opening.secrets)
    (previous : Option String) (binding : CommunityCredentialBinding) (plaintext : String)
    (iv : Nonce IV_LENGTH) :
    ∃ envelope, sealCommunityCredential crypto ⟨secret, previous⟩ binding plaintext iv =
      .ok envelope := by
  rw [sealCommunityCredential, deriveKey_eq_ok (deployed secret held)]
  exact ⟨_, rfl⟩

/-- What was sealed with a held secret opens where the additional data is the same. -/
theorem open_sealed (deployed : opening.IsDeployed) (apart : crypto.Apart opening.secrets)
    (sealed_ : sealCommunityCredential crypto keyring binding plaintext iv = .ok envelope)
    (held : keyring.currentSecret ∈ opening.secrets)
    (same : additionalData binding = additionalData other) :
    openCommunityCredential crypto opening other envelope = .ok plaintext := by
  refine (open_eq_ok deployed).mpr ⟨_, _, _, _, _, contents_sealed sealed_,
    find?_held apart held, ?_⟩
  rw [same]
  exact crypto.aead.decrypt_encrypt

/-- What was sealed opens only with the sealing secret and the same additional data. -/
theorem held_of_open_sealed (deployed : opening.IsDeployed)
    (apart : crypto.Apart (keyring.currentSecret :: opening.secrets))
    (sealed_ : sealCommunityCredential crypto keyring binding plaintext iv = .ok envelope)
    {text : String} (opened : openCommunityCredential crypto opening other envelope = .ok text) :
    keyring.currentSecret ∈ opening.secrets ∧
      additionalData binding = additionalData other := by
  rcases (open_eq_ok deployed).mp opened with
    ⟨keyId, iv', tag, ciphertext, secret, said, found, decrypted⟩
  cases (contents_sealed sealed_).symm.trans said
  have member := List.mem_of_find?_eq_some found
  have keyId : crypto.keyId secret = crypto.keyId keyring.currentSecret :=
    of_decide_eq_true (by simpa using List.find?_some found)
  have secrets : secret = keyring.currentSecret :=
    apart secret (List.mem_cons_of_mem _ member) _ List.mem_cons_self keyId
  cases secrets
  refine ⟨member, ?_⟩
  by_contra different
  rw [crypto.aead.decrypt_encrypt_of_ne (.inr different)] at decrypted
  cases decrypted

/-- An envelope that says the same as another opens as that one does. -/
theorem open_of_contents (deployed : opening.IsDeployed) {original text : String}
    (same : crypto.contents envelope = crypto.contents original)
    (opened : openCommunityCredential crypto opening other original = .ok text) :
    openCommunityCredential crypto opening other envelope = .ok text := by
  rw [open_eq_ok deployed] at opened ⊢
  rw [same]
  exact opened

theorem opensWhereItBelongs_iff (deployed : opening.IsDeployed)
    (apart : crypto.Apart (keyring.currentSecret :: opening.secrets)) :
    OpensWhereItBelongs crypto keyring opening binding other plaintext iv ↔
      BindingsApart keyring opening binding other := by
  have among : crypto.Apart opening.secrets :=
    apart.mono fun _ member => List.mem_cons_of_mem _ member
  constructor
  · intro opens held same
    by_contra different
    rcases sealed_of_held crypto deployed held keyring.previousSecret binding plaintext iv with
      ⟨envelope, sealed_⟩
    have raises := opens envelope sealed_
    rw [if_neg fun belongs => different belongs.2] at raises
    rcases raises with ⟨error, raised⟩
    rw [open_sealed deployed among sealed_ held same] at raised
    cases raised
  · intro bindings envelope sealed_
    by_cases belongs : keyring.currentSecret ∈ opening.secrets ∧ binding = other
    · rw [if_pos belongs]
      exact open_sealed deployed among sealed_ belongs.1 (congrArg additionalData belongs.2)
    · rw [if_neg belongs]
      refine raises_of_not_opened fun text opened => belongs ?_
      rcases held_of_open_sealed deployed apart sealed_ opened with ⟨held, same⟩
      exact ⟨held, bindings held same⟩

theorem refusesUnsealed_iff (deployed : opening.IsDeployed)
    (apart : crypto.Apart opening.secrets) :
    RefusesUnsealed crypto opening other envelope ↔
      NotRespelled crypto opening other envelope := by
  constructor
  · intro refuses secret held plaintext iv original sealed_ same
    by_contra unsealed
    rcases refuses unsealed with ⟨error, raised⟩
    rw [open_of_contents deployed same (open_sealed deployed apart sealed_ held rfl)] at raised
    cases raised
  · intro respelled unsealed
    refine raises_of_not_opened fun text opened => unsealed ?_
    rcases (open_eq_ok deployed).mp opened with
      ⟨keyId, iv, tag, ciphertext, secret, said, found, decrypted⟩
    have held := List.mem_of_find?_eq_some found
    have sameKey : crypto.keyId secret = keyId :=
      of_decide_eq_true (by simpa using List.find?_some found)
    rcases crypto.aead.decrypt_eq_some.mp decrypted with ⟨nonce, bytes, encrypted⟩
    rcases sealed_of_held crypto deployed held none other text nonce with ⟨original, sealed_⟩
    refine respelled secret held text nonce original sealed_ ?_
    rw [said, contents_sealed sealed_, encrypted, bytes, sameKey]

end Envelopes

/-! ## Encrypted values -/

section Values

variable {crypto} {secret otherSecret plaintext : String} {iv : Nonce IV_LENGTH}

/-- The version of encrypted values is two parts. -/
theorem join_version (iv tag ciphertext : String) :
    JsText.join ':' [ENCRYPTION_VERSION, iv, tag, ciphertext] =
      JsText.join ':' ["enc", "v1", iv, tag, ciphertext] := by
  have version : ENCRYPTION_VERSION.toList = "enc".toList ++ ':' :: "v1".toList := by decide
  simp only [JsText.join, List.map_cons, version, List.intercalate, List.intersperse]
  rfl

theorem split_encryptValue : JsText.split ':' (encryptValue crypto secret plaintext iv) =
    ["enc", "v1", crypto.base64url.encode iv,
      crypto.base64url.encode (crypto.aead.encrypt (crypto.digest secret) iv "" plaintext).2,
      crypto.base64url.encode (crypto.aead.encrypt (crypto.digest secret) iv "" plaintext).1] := by
  simp only [encryptValue, join_version]
  rw [JsText.split_join (List.cons_ne_nil _ _)]
  intro part member
  rcases List.mem_cons.mp member with version | member
  · rw [version]
    decide
  rcases List.mem_cons.mp member with mark | member
  · rw [mark]
    decide
  rcases List.mem_cons.mp member with nonce | member
  · rw [nonce]
    exact crypto.base64url.not_mem_encode _
  rcases List.mem_cons.mp member with tag | member
  · rw [tag]
    exact crypto.base64url.not_mem_encode _
  rw [List.mem_singleton.mp member]
  exact crypto.base64url.not_mem_encode _

/-- An empty value is taken for a missing one. -/
theorem decrypt_empty :
    decryptValue crypto otherSecret (encryptValue crypto secret "" iv) =
      .error "Invalid encrypted value format." := by
  have missing : crypto.base64url.encode
      (crypto.aead.encrypt (crypto.digest secret) iv "" "").1 = "" :=
    crypto.base64url.encode_eq_empty.mpr (crypto.aead.ciphertext_eq_nil.mpr rfl)
  rw [decryptValue, split_encryptValue]
  simp only [missing, or_true, if_true]

theorem decrypt_nonempty (nonempty : plaintext ≠ "") :
    decryptValue crypto otherSecret (encryptValue crypto secret plaintext iv) =
      (crypto.aead.decrypt (crypto.digest otherSecret) iv.val ""
        (crypto.aead.encrypt (crypto.digest secret) iv "" plaintext).1
        (crypto.aead.encrypt (crypto.digest secret) iv "" plaintext).2).elim
          (.error "Unsupported state or unable to authenticate data") .ok := by
  have nonce : crypto.base64url.encode iv.val ≠ "" := by
    intro empty
    have short := iv.property
    rw [crypto.base64url.encode_eq_empty.mp empty] at short
    exact absurd short (by decide)
  have tag : crypto.base64url.encode
      (crypto.aead.encrypt (crypto.digest secret) iv "" plaintext).2 ≠ "" :=
    fun empty => crypto.aead.tag_ne_nil (crypto.base64url.encode_eq_empty.mp empty)
  have ciphertext : crypto.base64url.encode
      (crypto.aead.encrypt (crypto.digest secret) iv "" plaintext).1 ≠ "" :=
    fun empty => nonempty (crypto.aead.ciphertext_eq_nil.mp
      (crypto.base64url.encode_eq_empty.mp empty))
  have version : toString "enc" ++ toString ":" ++ toString "v1" = ENCRYPTION_VERSION := by
    decide
  rw [decryptValue, split_encryptValue]
  simp only [version, ne_eq, not_true_eq_false, nonce, tag, ciphertext, or_self, if_false,
    ByteCodec.decode_encode]
  cases crypto.aead.decrypt (crypto.digest otherSecret) iv.val ""
      (crypto.aead.encrypt (crypto.digest secret) iv "" plaintext).1
      (crypto.aead.encrypt (crypto.digest secret) iv "" plaintext).2 with
  | none => rfl
  | some text => rfl

theorem decryptsItsOwn_iff (apart : crypto.Apart [secret, otherSecret]) :
    DecryptsItsOwn crypto secret otherSecret plaintext iv ↔ plaintext ≠ "" := by
  constructor
  · intro ⟨own, _⟩ empty
    rw [empty, decrypt_empty] at own
    cases own
  · intro nonempty
    constructor
    · rw [decrypt_nonempty nonempty, crypto.aead.decrypt_encrypt]
      rfl
    · intro different
      have keys : crypto.digest secret ≠ crypto.digest otherSecret := by
        intro same
        refine different (apart secret List.mem_cons_self otherSecret
          (List.mem_cons_of_mem _ List.mem_cons_self) ?_)
        rw [CryptoRuntime.keyId, CryptoRuntime.keyId, same]
      rw [decrypt_nonempty nonempty, crypto.aead.decrypt_encrypt_of_ne (.inl keys)]
      exact ⟨_, rfl⟩

end Values

/-! ## Rotations -/

/-- A keyring after secrets were set as current ones, one after the other. -/
def CommunityCredentialKeyring.rotated (keyring : CommunityCredentialKeyring)
    (secrets : List String) : CommunityCredentialKeyring :=
  secrets.foldl CommunityCredentialKeyring.rotate keyring

/-- Without a rotation the keyring stays, after one its current secret is the previous one, and
after more of them only the last two secrets are held. -/
theorem secrets_rotated (keyring : CommunityCredentialKeyring) (secrets : List String) :
    (keyring.rotated secrets).secrets =
      ((secrets.reverse ++ keyring.secrets).take 2) := by
  induction secrets using List.reverseRecOn with
  | nil =>
      rcases keyring with ⟨currentSecret, previousSecret⟩
      cases previousSecret with
      | none => rfl
      | some previousSecret => rfl
  | append_singleton secrets secret ih =>
      have last : (keyring.rotated (secrets ++ [secret])).secrets =
          [secret, (keyring.rotated secrets).currentSecret] := by
        rw [CommunityCredentialKeyring.rotated, List.foldl_append]
        rfl
      rw [last, List.reverse_append, List.reverse_singleton, List.singleton_append,
        List.cons_append, List.take_succ_cons]
      have current := congrArg (List.take 1) ih
      rw [List.take_take] at current
      exact congrArg (secret :: ·) current

/-- What was sealed before rotations still opens as long as the sealing secret is among the
last two. -/
theorem open_rotated {crypto : CryptoRuntime κ} {keyring : CommunityCredentialKeyring}
    {binding : CommunityCredentialBinding} {plaintext envelope : String} {iv : Nonce IV_LENGTH}
    {secrets : List String} (deployed : (keyring.rotated secrets).IsDeployed)
    (apart : crypto.Apart (keyring.currentSecret :: (keyring.rotated secrets).secrets))
    (sealed_ : sealCommunityCredential crypto keyring binding plaintext iv = .ok envelope) :
    openCommunityCredential crypto (keyring.rotated secrets) binding envelope = .ok plaintext ↔
      keyring.currentSecret ∈ (secrets.reverse ++ keyring.secrets).take 2 := by
  rw [← secrets_rotated]
  constructor
  · exact fun opened => (held_of_open_sealed deployed apart sealed_ opened).1
  · intro held
    have among : crypto.Apart (keyring.rotated secrets).secrets :=
      apart.mono fun _ member => List.mem_cons_of_mem _ member
    exact open_sealed deployed among sealed_ held rfl

end Credentials

/-! ## Credentials open where they belong -/

section

open Credentials

variable {κ : Type}

/-- Credentials open exactly where they belong, and values are decrypted by their own secret,
as long as bindings do not share their additional data, an envelope is not spelled in another
way, and the value is not empty. -/
theorem openCommunityCredential_iff (crypto : CryptoRuntime κ)
    (keyring opening : CommunityCredentialKeyring) (binding other : CommunityCredentialBinding)
    (plaintext envelope secret otherSecret : String) (iv : Nonce IV_LENGTH)
    (deployed : opening.IsDeployed)
    (apart : crypto.Apart (secret :: otherSecret :: keyring.currentSecret :: opening.secrets)) :
    (OpensWhereItBelongs crypto keyring opening binding other plaintext iv ∧
        RefusesUnsealed crypto opening other envelope ∧
        DecryptsItsOwn crypto secret otherSecret plaintext iv) ↔
      BindingsApart keyring opening binding other ∧
        NotRespelled crypto opening other envelope ∧ plaintext ≠ "" := by
  have values : crypto.Apart [secret, otherSecret] := apart.mono (by simp)
  have sealing : crypto.Apart (keyring.currentSecret :: opening.secrets) :=
    apart.mono (fun _ member => List.mem_cons_of_mem _ (List.mem_cons_of_mem _ member))
  have held : crypto.Apart opening.secrets :=
    sealing.mono fun _ member => List.mem_cons_of_mem _ member
  rw [opensWhereItBelongs_iff deployed sealing, refusesUnsealed_iff deployed held,
    decryptsItsOwn_iff values]

/-! A deployment whose keys are the secrets, with ids of their first characters. -/

def sampleCrypto : CryptoRuntime String where
  aead := Aead.transparent IV_LENGTH
  base64url := base64url
  digest secret := secret
  digestKey key := (key.toList.take 6).map fun character => UInt8.ofNat character.toNat

def sampleNonce : Nonce IV_LENGTH := ⟨List.replicate 12 7, rfl⟩

def sampleKeyring : CommunityCredentialKeyring where
  currentSecret := "second secret of the deployment."
  previousSecret := some "first secret of the deployment.."

/-- A credential that was sealed before a rotation, and a token. -/
theorem openCommunityCredential_sample :
    sampleKeyring.IsDeployed ∧
      (OpensWhereItBelongs sampleCrypto ⟨"first secret of the deployment..", none⟩ sampleKeyring
          ⟨"discord", "7"⟩ ⟨"discord", "7"⟩ "token" sampleNonce ∧
        RefusesUnsealed sampleCrypto sampleKeyring ⟨"discord", "7"⟩ "ccv1:key" ∧
        DecryptsItsOwn sampleCrypto "alpha" "beta" "token" sampleNonce) := by
  have deployed : sampleKeyring.IsDeployed := by
    intro secret member
    rcases List.mem_cons.mp member with current | previous
    · rw [current]
      decide +kernel
    · rw [List.mem_singleton.mp previous]
      decide +kernel
  refine ⟨deployed, (openCommunityCredential_iff sampleCrypto
    ⟨"first secret of the deployment..", none⟩ sampleKeyring ⟨"discord", "7"⟩ ⟨"discord", "7"⟩
    "token" "ccv1:key" "alpha" "beta" sampleNonce deployed ?_).mpr ⟨?_, ?_, ?_⟩⟩
  · have apart : ∀ secret ∈ ["alpha", "beta", "first secret of the deployment..",
        "second secret of the deployment.", "first secret of the deployment.."],
        ∀ other ∈ ["alpha", "beta", "first secret of the deployment..",
          "second secret of the deployment.", "first secret of the deployment.."],
        sampleCrypto.keyId secret = sampleCrypto.keyId other → secret = other := by
      decide +kernel
    exact apart
  · exact fun _ _ => rfl
  · intro secret _ plaintext iv original sealed_ said
    rw [contents_sealed sealed_] at said
    have none_ : sampleCrypto.contents "ccv1:key" = none := by decide +kernel
    rw [none_] at said
    cases said
  · decide

/-- An encrypted empty value is not decrypted. -/
theorem decryptValue_empty :
    decryptValue sampleCrypto "alpha" (encryptValue sampleCrypto "alpha" "" sampleNonce) ≠
      .ok "" := by
  rw [decrypt_empty]
  intro opened
  cases opened

end

end Reputo.Community

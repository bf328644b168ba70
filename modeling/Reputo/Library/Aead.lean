import Mathlib.Data.List.Basic

/-!
# Ideal authenticated encryption

An encryption of a text is a ciphertext and a tag.  It opens under the key, the nonce and the
additional data under which it was made, and under no others; nothing else opens.
-/

namespace Reputo.Library

universe u

abbrev Bytes := List UInt8

/-- Bytes of a given number. -/
abbrev Nonce (length : Nat) := { bytes : Bytes // bytes.length = length }

/-- Authenticated encryption of texts with additional data. -/
structure Aead (κ : Type u) (nonceLength : Nat) where
  encrypt : κ → Nonce nonceLength → String → String → Bytes × Bytes
  decrypt : κ → Bytes → String → Bytes → Bytes → Option String
  /-- What opens was encrypted. -/
  decrypt_eq_some : ∀ {key : κ} {bytes : Bytes} {data : String} {ciphertext tag : Bytes}
    {plaintext : String}, decrypt key bytes data ciphertext tag = some plaintext ↔
      ∃ nonce : Nonce nonceLength, nonce.val = bytes ∧
        encrypt key nonce data plaintext = (ciphertext, tag)
  /-- Different encryptions are different. -/
  encrypt_injective : ∀ {key otherKey : κ} {nonce : Nonce nonceLength}
    {data otherData plaintext other : String},
    encrypt key nonce data plaintext = encrypt otherKey nonce otherData other →
      key = otherKey ∧ data = otherData ∧ plaintext = other
  /-- A ciphertext is as long as its plaintext, so that it is empty where that is. -/
  ciphertext_eq_nil : ∀ {key : κ} {nonce : Nonce nonceLength} {data plaintext : String},
    (encrypt key nonce data plaintext).1 = [] ↔ plaintext = ""
  tag_ne_nil : ∀ {key : κ} {nonce : Nonce nonceLength} {data plaintext : String},
    (encrypt key nonce data plaintext).2 ≠ []

namespace Aead

variable {κ : Type u} {nonceLength : Nat} (aead : Aead κ nonceLength) {key other : κ}
  {nonce : Nonce nonceLength} {data otherData plaintext : String}

theorem decrypt_encrypt :
    aead.decrypt key nonce data (aead.encrypt key nonce data plaintext).1
      (aead.encrypt key nonce data plaintext).2 = some plaintext :=
  aead.decrypt_eq_some.mpr ⟨nonce, rfl, rfl⟩

/-- An encryption does not open under another key, or for other data. -/
theorem decrypt_encrypt_of_ne (apart : key ≠ other ∨ data ≠ otherData) :
    aead.decrypt other nonce otherData (aead.encrypt key nonce data plaintext).1
      (aead.encrypt key nonce data plaintext).2 = none := by
  cases opened : aead.decrypt other nonce otherData (aead.encrypt key nonce data plaintext).1
      (aead.encrypt key nonce data plaintext).2 with
  | none => rfl
  | some text =>
      rcases aead.decrypt_eq_some.mp opened with ⟨used, same, encrypted⟩
      cases Subtype.ext same
      rcases aead.encrypt_injective encrypted with ⟨sameKey, sameData, _⟩
      rcases apart with otherKey | otherText
      · exact absurd sameKey.symm otherKey
      · exact absurd sameData.symm otherText

end Aead

/-! ## An encryption that hides nothing -/

/-- The code of a character, in ones up to a zero. -/
def spellChar (character : Char) : Bytes := List.replicate character.toNat 1 ++ [0]

def spell (text : String) : Bytes := text.toList.flatMap spellChar

/-- The characters that are spelled, after a number of ones. -/
def unspell : Nat → Bytes → List Char
  | _, [] => []
  | ones, byte :: rest =>
      if byte = 0 then Char.ofNat ones :: unspell 0 rest else unspell (ones + 1) rest

theorem unspell_replicate (ones count : Nat) (rest : Bytes) :
    unspell ones (List.replicate count 1 ++ 0 :: rest) =
      Char.ofNat (ones + count) :: unspell 0 rest := by
  induction count generalizing ones with
  | zero => rfl
  | succ count ih =>
      rw [List.replicate_succ, List.cons_append, unspell, if_neg (by decide), ih]
      rw [Nat.add_assoc, Nat.add_comm 1]

theorem unspell_spell (text : String) : String.ofList (unspell 0 (spell text)) = text := by
  have spelled : ∀ characters : List Char,
      unspell 0 (characters.flatMap spellChar) = characters := by
    intro characters
    induction characters with
    | nil => rfl
    | cons character rest ih =>
        rw [List.flatMap_cons, spellChar, List.append_assoc, List.singleton_append,
          unspell_replicate, ih, Nat.zero_add, Char.ofNat_toNat]
  rw [spell, spelled, String.ofList_toList]

theorem spell_injective {text other : String} (same : spell text = spell other) :
    text = other := by
  rw [← unspell_spell text, same, unspell_spell]

theorem two_not_mem_spell (text : String) : (2 : UInt8) ∉ spell text := by
  intro member
  rcases List.mem_flatMap.mp member with ⟨character, _, inside⟩
  rcases List.mem_append.mp inside with one | zero
  · exact absurd (List.eq_of_mem_replicate one) (by decide)
  · exact absurd (List.mem_singleton.mp zero) (by decide)

/-- Texts that are spelled before and after a two are told apart. -/
theorem spell_pair_injective {text other data otherData : String}
    (same : spell text ++ 2 :: spell data = spell other ++ 2 :: spell otherData) :
    text = other ∧ data = otherData := by
  rcases List.append_eq_append_iff.mp same with ⟨between, whole, rest⟩ | ⟨between, whole, rest⟩
  · cases between with
    | nil =>
        rw [List.append_nil] at whole
        exact ⟨(spell_injective whole).symm, spell_injective (List.cons_eq_cons.mp rest).2⟩
    | cons head tail =>
        rw [← (List.cons_eq_cons.mp rest).1] at whole
        exact absurd (whole ▸ List.mem_append_right _ List.mem_cons_self)
          (two_not_mem_spell other)
  · cases between with
    | nil =>
        rw [List.append_nil] at whole
        exact ⟨spell_injective whole, (spell_injective (List.cons_eq_cons.mp rest).2).symm⟩
    | cons head tail =>
        rw [← (List.cons_eq_cons.mp rest).1] at whole
        exact absurd (whole ▸ List.mem_append_right _ List.mem_cons_self)
          (two_not_mem_spell text)

/-- Plaintexts are spelled, and tags spell the key and the data. -/
def Aead.transparent (nonceLength : Nat) : Aead String nonceLength where
  encrypt key _ data plaintext := (spell plaintext, spell key ++ 2 :: spell data)
  decrypt key bytes data ciphertext tag :=
    if bytes.length = nonceLength ∧ tag = spell key ++ 2 :: spell data ∧
        spell (String.ofList (unspell 0 ciphertext)) = ciphertext then
      some (String.ofList (unspell 0 ciphertext))
    else none
  decrypt_eq_some := by
    intro key bytes data ciphertext tag plaintext
    constructor
    · intro opened
      split at opened
      · rename_i sound
        cases opened
        exact ⟨⟨bytes, sound.1⟩, rfl, Prod.ext sound.2.2 sound.2.1.symm⟩
      · cases opened
    · intro ⟨nonce, same, encrypted⟩
      cases same
      cases encrypted
      rw [unspell_spell, if_pos ⟨nonce.property, rfl, rfl⟩]
  encrypt_injective := by
    intro key otherKey nonce data otherData plaintext other same
    rcases Prod.ext_iff.mp same with ⟨texts, tags⟩
    rcases spell_pair_injective tags with ⟨keys, datas⟩
    exact ⟨keys, datas, spell_injective texts⟩
  ciphertext_eq_nil := by
    intro key nonce data plaintext
    constructor
    · exact fun empty => spell_injective (empty.trans rfl)
    · intro empty
      rw [empty]
      rfl
  tag_ne_nil := by
    intro key nonce data plaintext empty
    exact absurd (List.append_eq_nil_iff.mp empty).2 (List.cons_ne_nil _ _)

end Reputo.Library

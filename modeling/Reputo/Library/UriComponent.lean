import Reputo.Library.JsText

/-!
# URI components

`encodeURIComponent` writes characters as octets of their UTF-8 encoding, each with a percent sign
and two digits; `decodeURIComponent` reads them back, and throws where they are no UTF-8.
-/

namespace Reputo.Library

namespace UriComponent

/-! ## Encoding -/

/-- Characters that are written as they are. -/
def isUnreserved (character : Char) : Bool :=
  character.isAlphanum || "-_.!~*'()".toList.contains character

def hexDigit (value : Nat) : Char := (Nat.digitChar value).toUpper

/-- `%` and two digits. -/
def percentEncode (octet : UInt8) : List Char :=
  ['%', hexDigit (octet.toNat / 16), hexDigit (octet.toNat % 16)]

def encodeChar (character : Char) : List Char :=
  if isUnreserved character then [character]
  else (String.utf8EncodeChar character).flatMap percentEncode

/-- `encodeURIComponent(text)`. -/
def encodeURIComponent (text : String) : String := String.ofList (text.toList.flatMap encodeChar)

/-! ## Decoding -/

/-- Characters, and octets that were written with a percent sign. -/
def readOctets : List Char → Option (List (Char ⊕ UInt8))
  | [] => some []
  | '%' :: high :: low :: rest =>
      match JsText.digitValue 16 high, JsText.digitValue 16 low with
      | some high, some low => (readOctets rest).map (.inr (UInt8.ofNat (16 * high + low)) :: ·)
      | some _, none => none
      | none, _ => none
  | character :: rest =>
      if character = '%' then none else (readOctets rest).map (.inl character :: ·)

/-- Octets are collected until they are a character; no character has more than four. -/
def assemble : List UInt8 → List (Char ⊕ UInt8) → Option (List Char)
  | [], [] => some []
  | _ :: _, [] => none
  | [], .inl character :: rest => (assemble [] rest).map (character :: ·)
  | _ :: _, .inl _ :: _ => none
  | collected, .inr octet :: rest =>
      let collected := collected ++ [octet]
      match collected.toByteArray.utf8DecodeChar? 0 with
      | some character => (assemble [] rest).map (character :: ·)
      | none => if collected.length < 4 then assemble collected rest else none

/-- `decodeURIComponent(text)`; it throws where there is none. -/
def decodeURIComponent (text : String) : Option String :=
  ((readOctets text.toList).bind (assemble [])).map String.ofList

/-! ## What was encoded is decoded -/

/-- A character as it is read from what was encoded. -/
def marks (character : Char) : List (Char ⊕ UInt8) :=
  if isUnreserved character then [.inl character]
  else (String.utf8EncodeChar character).map .inr

-- The equations are made here, once for all proofs below.
section
attribute [local simp] readOctets assemble
end

theorem digitValue_hexDigit {value : Nat} (small : value < 16) :
    JsText.digitValue 16 (hexDigit value) = some value := by
  revert value
  decide +kernel

theorem readOctets_percentEncode (octet : UInt8) (rest : List Char) :
    readOctets (percentEncode octet ++ rest) = (readOctets rest).map (.inr octet :: ·) := by
  have small := octet.toNat_lt
  have whole : 16 * (octet.toNat / 16) + octet.toNat % 16 = octet.toNat :=
    Nat.div_add_mod octet.toNat 16
  have high := @digitValue_hexDigit (octet.toNat / 16) (by omega)
  have low := @digitValue_hexDigit (octet.toNat % 16) (by omega)
  rw [percentEncode, List.cons_append, List.cons_append, List.cons_append, List.nil_append,
    readOctets, high, low]
  dsimp only
  rw [whole, UInt8.ofNat_toNat]

theorem readOctets_cons {character : Char} (plain : character ≠ '%') (rest : List Char) :
    readOctets (character :: rest) = (readOctets rest).map (.inl character :: ·) := by
  rw [readOctets, if_neg plain]
  intro high low others escaped
  exact absurd escaped plain

theorem ne_percent_of_isUnreserved {character : Char} (unreserved : isUnreserved character = true) :
    character ≠ '%' := by
  intro same
  rw [same] at unreserved
  exact absurd unreserved (by decide)

theorem readOctets_flatMap_percentEncode (octets : List UInt8) (rest : List Char) :
    readOctets (octets.flatMap percentEncode ++ rest) =
      (readOctets rest).map (octets.map .inr ++ ·) := by
  induction octets with
  | nil => simp
  | cons octet others ih =>
      rw [List.flatMap_cons, List.append_assoc, readOctets_percentEncode, ih, Option.map_map]
      rfl

theorem readOctets_encodeChar (character : Char) (rest : List Char) :
    readOctets (encodeChar character ++ rest) =
      (readOctets rest).map (marks character ++ ·) := by
  rw [encodeChar, marks]
  cases unreserved : isUnreserved character with
  | true => exact readOctets_cons (ne_percent_of_isUnreserved unreserved) rest
  | false => exact readOctets_flatMap_percentEncode _ rest

theorem readOctets_encode (characters : List Char) :
    readOctets (characters.flatMap encodeChar) = some (characters.flatMap marks) := by
  induction characters with
  | nil => rfl
  | cons character rest ih =>
      rw [List.flatMap_cons, readOctets_encodeChar, ih]
      rfl

/-- A part of the octets of a character is no other character. -/
theorem utf8DecodeChar?_part {character : Char} {collected remaining : List UInt8}
    (parts : collected ++ remaining = String.utf8EncodeChar character) (more : remaining ≠ []) :
    collected.toByteArray.utf8DecodeChar? 0 = none := by
  cases decoded : collected.toByteArray.utf8DecodeChar? 0 with
  | none => rfl
  | some other =>
      have front := ByteArray.eq_of_utf8DecodeChar?_eq_some decoded
      have whole : (String.utf8EncodeChar character).toByteArray ++ ByteArray.empty =
          (String.utf8EncodeChar other).toByteArray ++
            (collected.toByteArray.extract other.utf8Size collected.toByteArray.size ++
              remaining.toByteArray) := by
        rw [ByteArray.append_empty, ← parts, List.toByteArray_append, ← ByteArray.append_assoc,
          ← front]
      have same : some character = some other := by
        rw [← @ByteArray.utf8DecodeChar?_utf8EncodeChar_append ByteArray.empty character, whole,
          ByteArray.utf8DecodeChar?_utf8EncodeChar_append]
      cases same
      have sizes := congrArg ByteArray.size front
      have lengths := congrArg List.length parts
      have positive := List.length_pos_iff.mpr more
      rw [ByteArray.size_append, List.size_toByteArray, List.size_toByteArray] at sizes
      rw [List.length_append] at lengths
      omega

/-- The octets of a character are assembled. -/
theorem assemble_octets {character : Char} {collected remaining : List UInt8}
    (parts : collected ++ remaining = String.utf8EncodeChar character) (more : remaining ≠ [])
    (rest : List (Char ⊕ UInt8)) :
    assemble collected (remaining.map .inr ++ rest) =
      (assemble [] rest).map (character :: ·) := by
  induction remaining generalizing collected with
  | nil => exact absurd rfl more
  | cons octet others ih =>
      have joined : (collected ++ [octet]) ++ others = String.utf8EncodeChar character := by
        rw [List.append_assoc]
        exact parts
      rw [List.map_cons, List.cons_append, assemble]
      cases others with
      | nil =>
          rw [List.append_nil] at joined
          have decoded := @ByteArray.utf8DecodeChar?_utf8EncodeChar_append ByteArray.empty character
          rw [ByteArray.append_empty, ← joined] at decoded
          rw [decoded]
          rfl
      | cons next later =>
          have short : (collected ++ [octet]).length < 4 := by
            have lengths := congrArg List.length joined
            have most := character.utf8Size_le_four
            rw [String.length_utf8EncodeChar, List.length_append, List.length_cons] at lengths
            omega
          rw [utf8DecodeChar?_part joined (List.cons_ne_nil _ _)]
          dsimp only
          rw [if_pos short]
          exact ih joined (List.cons_ne_nil _ _)

theorem assemble_marks (character : Char) (rest : List (Char ⊕ UInt8)) :
    assemble [] (marks character ++ rest) = (assemble [] rest).map (character :: ·) := by
  rw [marks]
  cases isUnreserved character with
  | true => rfl
  | false => exact assemble_octets (List.nil_append _) String.utf8EncodeChar_ne_nil rest

theorem assemble_flatMap_marks (characters : List Char) :
    assemble [] (characters.flatMap marks) = some characters := by
  induction characters with
  | nil => rfl
  | cons character rest ih =>
      rw [List.flatMap_cons, assemble_marks, ih]
      rfl

/-- What was encoded is decoded. -/
theorem decodeURIComponent_encodeURIComponent (text : String) :
    decodeURIComponent (encodeURIComponent text) = some text := by
  rw [decodeURIComponent, encodeURIComponent, String.toList_ofList, readOctets_encode,
    Option.bind_some, assemble_flatMap_marks, Option.map_some, String.ofList_toList]

/-- A text without percent signs is as it is read. -/
theorem decodeURIComponent_plain {text : String} (plain : '%' ∉ text.toList) :
    decodeURIComponent text = some text := by
  have read : ∀ characters : List Char, '%' ∉ characters →
      (readOctets characters).bind (assemble []) = some characters := by
    intro characters absent
    induction characters with
    | nil => rfl
    | cons character rest ih =>
        have other : character ≠ '%' := fun same => absent (same ▸ List.mem_cons_self)
        have later := ih fun member => absent (List.mem_cons_of_mem _ member)
        rw [readOctets_cons other]
        cases octets : readOctets rest with
        | none =>
            rw [octets] at later
            cases later
        | some octets' =>
            rw [octets, Option.bind_some] at later
            rw [Option.map_some, Option.bind_some, assemble, later]
            rfl
  rw [decodeURIComponent, read text.toList plain, Option.map_some, String.ofList_toList]

/-- Characters of what was encoded are unreserved, or percent signs. -/
theorem mem_encodeURIComponent {text : String} {character : Char}
    (member : character ∈ (encodeURIComponent text).toList) :
    isUnreserved character = true ∨ character = '%' := by
  rw [encodeURIComponent, String.toList_ofList] at member
  rcases List.mem_flatMap.mp member with ⟨source, _, written⟩
  rw [encodeChar] at written
  cases unreserved : isUnreserved source with
  | true =>
      rw [unreserved, if_pos rfl, List.mem_singleton] at written
      exact .inl (written ▸ unreserved)
  | false =>
      rw [unreserved, if_neg Bool.false_ne_true] at written
      rcases List.mem_flatMap.mp written with ⟨octet, _, digits⟩
      have digit : ∀ value < 16, isUnreserved (hexDigit value) = true := by decide +kernel
      have small := octet.toNat_lt
      rw [percentEncode, List.mem_cons, List.mem_cons, List.mem_singleton] at digits
      rcases digits with same | same | same
      · exact .inr same
      · exact .inl (same ▸ digit _ (by omega))
      · exact .inl (same ▸ digit _ (by omega))

end UriComponent

end Reputo.Library

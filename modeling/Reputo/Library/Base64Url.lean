import Reputo.Library.Aead

/-!
# Bytes in texts

A codec carries bytes in texts without a separator and decodes texts leniently.  Three bytes
are carried in four characters of base64url.
-/

namespace Reputo.Library

/-- Texts that carry bytes, without a separator. -/
structure ByteCodec (separator : Char) where
  encode : Bytes → String
  decode : String → Bytes
  decode_encode : ∀ bytes, decode (encode bytes) = bytes
  encode_nil : encode [] = ""
  not_mem_encode : ∀ bytes, separator ∉ (encode bytes).toList

namespace ByteCodec

variable {separator : Char} (codec : ByteCodec separator)

theorem encode_injective {bytes other : Bytes} (same : codec.encode bytes = codec.encode other) :
    bytes = other := by
  rw [← codec.decode_encode bytes, same, codec.decode_encode]

theorem encode_eq_empty {bytes : Bytes} : codec.encode bytes = "" ↔ bytes = [] := by
  constructor
  · intro empty
    exact codec.encode_injective (empty.trans codec.encode_nil.symm)
  · intro none_
    rw [none_, codec.encode_nil]

end ByteCodec

/-! ## Base64url -/

namespace Base64Url

def alphabet : List Char :=
  "ABCDEFGHIJKLMNOPQRSTUVWXYZabcdefghijklmnopqrstuvwxyz0123456789-_".toList

def charOf (value : Nat) : Char := alphabet.getD value 'A'

/-- The value of a character; those of plain base64 are read too. -/
def valueOf (character : Char) : Option Nat :=
  if character = '+' then some 62 else if character = '/' then some 63
  else alphabet.idxOf? character

def encodeList : Bytes → List Char
  | first :: second :: third :: rest =>
      charOf (first.toNat / 4) :: charOf (first.toNat % 4 * 16 + second.toNat / 16) ::
        charOf (second.toNat % 16 * 4 + third.toNat / 64) :: charOf (third.toNat % 64) ::
        encodeList rest
  | [first, second] =>
      [charOf (first.toNat / 4), charOf (first.toNat % 4 * 16 + second.toNat / 16),
        charOf (second.toNat % 16 * 4)]
  | [first] => [charOf (first.toNat / 4), charOf (first.toNat % 4 * 16)]
  | [] => []

def decodeValues : List Nat → Bytes
  | first :: second :: third :: fourth :: rest =>
      UInt8.ofNat (first * 4 + second / 16) :: UInt8.ofNat (second % 16 * 16 + third / 4) ::
        UInt8.ofNat (third % 4 * 64 + fourth) :: decodeValues rest
  | [first, second, third] =>
      [UInt8.ofNat (first * 4 + second / 16), UInt8.ofNat (second % 16 * 16 + third / 4)]
  | [first, second] => [UInt8.ofNat (first * 4 + second / 16)]
  | _ => []

-- The equations are made here, once for all proofs below.
section
attribute [local simp] encodeList decodeValues
end

theorem valueOf_charOf {value : Nat} (small : value < 64) :
    valueOf (charOf value) = some value := by
  have all : ∀ value < 64, valueOf (charOf value) = some value := by decide +kernel
  exact all value small

theorem charOf_ne_colon (value : Nat) : charOf value ≠ ':' := by
  have absent : ':' ∉ 'A' :: alphabet := by decide +kernel
  intro same
  rw [charOf, List.getD_eq_getElem?_getD] at same
  cases found : alphabet[value]? with
  | none =>
      rw [found] at same
      exact absurd same (by decide)
  | some character =>
      rw [found] at same
      have member := List.mem_of_getElem? found
      rw [show character = ':' from same] at member
      exact absent (List.mem_cons_of_mem _ member)

theorem ofNat_eq {byte : UInt8} {value : Nat} (same : value = byte.toNat) :
    UInt8.ofNat value = byte := by
  rw [same, UInt8.ofNat_toNat]

theorem decodeValues_encodeList (bytes : Bytes) :
    decodeValues ((encodeList bytes).filterMap valueOf) = bytes := by
  induction bytes using encodeList.induct with
  | case1 first second third rest ih =>
      have := first.toNat_lt
      have := second.toNat_lt
      have := third.toNat_lt
      simp only [encodeList, List.filterMap_cons, valueOf_charOf (show first.toNat / 4 < 64 by omega),
        valueOf_charOf (show first.toNat % 4 * 16 + second.toNat / 16 < 64 by omega),
        valueOf_charOf (show second.toNat % 16 * 4 + third.toNat / 64 < 64 by omega),
        valueOf_charOf (show third.toNat % 64 < 64 by omega), decodeValues, ih]
      rw [@ofNat_eq first _ (by omega), @ofNat_eq second _ (by omega),
        @ofNat_eq third _ (by omega)]
  | case2 first second =>
      have := first.toNat_lt
      have := second.toNat_lt
      simp only [encodeList, List.filterMap_cons, List.filterMap_nil,
        valueOf_charOf (show first.toNat / 4 < 64 by omega),
        valueOf_charOf (show first.toNat % 4 * 16 + second.toNat / 16 < 64 by omega),
        valueOf_charOf (show second.toNat % 16 * 4 < 64 by omega), decodeValues]
      rw [@ofNat_eq first _ (by omega), @ofNat_eq second _ (by omega)]
  | case3 first =>
      have := first.toNat_lt
      simp only [encodeList, List.filterMap_cons, List.filterMap_nil,
        valueOf_charOf (show first.toNat / 4 < 64 by omega),
        valueOf_charOf (show first.toNat % 4 * 16 < 64 by omega), decodeValues]
      rw [@ofNat_eq first _ (by omega)]
  | case4 => rfl

theorem colon_not_mem_encodeList (bytes : Bytes) : ':' ∉ encodeList bytes := by
  induction bytes using encodeList.induct with
  | case1 first second third rest ih =>
      simp [encodeList, Ne.symm (charOf_ne_colon _), ih]
  | case2 first second => simp [encodeList, Ne.symm (charOf_ne_colon _)]
  | case3 first => simp [encodeList, Ne.symm (charOf_ne_colon _)]
  | case4 => exact List.not_mem_nil

end Base64Url

/-- Base64url without padding; other characters are skipped. -/
def base64url : ByteCodec ':' where
  encode bytes := String.ofList (Base64Url.encodeList bytes)
  decode text := Base64Url.decodeValues (text.toList.filterMap Base64Url.valueOf)
  decode_encode bytes := by
    rw [String.toList_ofList, Base64Url.decodeValues_encodeList]
  encode_nil := rfl
  not_mem_encode bytes := by
    rw [String.toList_ofList]
    exact Base64Url.colon_not_mem_encodeList bytes

end Reputo.Library

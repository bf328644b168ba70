import Reputo.Library.JsText

/-!
# Internet addresses

Addresses in text, as they are read and written: four octets, or eight pieces of sixteen bits,
of which a run of zeros may be left out, the last two may be written as octets, and which may
be followed by a zone.  An address of the fourth version may be mapped into the sixth.
-/

namespace Reputo.Library

inductive IpAddress where
  | v4 (value : Nat)
  | v6 (pieces : List Nat)
  deriving DecidableEq, Repr

namespace IpAddress

/-! ## Reading -/

/-- A decimal number up to 255 without leading zeros. -/
def octet (text : String) : Option Nat :=
  if text.toList.length ≤ 3 ∧ (text.toList.head? ≠ some '0' ∨ text.toList.length = 1) then
    (JsText.digitsValue 10 text.toList).filter (· ≤ 255)
  else none

def octets : List String → Option Nat
  | [first, second, third, fourth] =>
      match octet first, octet second, octet third, octet fourth with
      | some first, some second, some third, some fourth =>
          some (((first * 256 + second) * 256 + third) * 256 + fourth)
      | _, _, _, _ => none
  | _ => none

def parseV4 (text : String) : Option Nat := octets (JsText.split '.' text)

/-- Up to four hexadecimal digits. -/
def hexGroup (text : String) : Option Nat :=
  if text.toList.length ≤ 4 then JsText.digitsValue 16 text.toList else none

/-- Pieces, the last two of which may be written as octets. -/
def groups : List String → Option (List Nat)
  | [] => some []
  | [last] =>
      match hexGroup last with
      | some piece => some [piece]
      | none => (parseV4 last).map fun value => [value / 65536, value % 65536]
  | group :: rest =>
      match hexGroup group, groups rest with
      | some piece, some pieces => some (piece :: pieces)
      | _, _ => none

/-- What follows a run of zeros that was left out. -/
def groupsAfter : List String → Option (List Nat)
  | [] => none
  | [""] => some []
  | rest => groups rest

/-- Puts the zeros back that were left out. -/
def expand (front back : List Nat) : Option (List Nat) :=
  if front.length + back.length ≤ 7 then
    some (front ++ List.replicate (8 - (front.length + back.length)) 0 ++ back)
  else none

/-- The pieces of a text that was split at its colons. -/
def pieces : List String → Option (List Nat)
  | "" :: "" :: rest => (groupsAfter rest).bind (expand [])
  | parts =>
      match parts.takeWhile (· ≠ ""), parts.dropWhile (· ≠ "") with
      | front, [] => (groups front).filter (·.length = 8)
      | [], _ :: _ => none
      | front, _ :: rest =>
          (front.mapM hexGroup).bind fun front => (groupsAfter rest).bind (expand front)

def isZoneChar (character : Char) : Bool :=
  character.isAlphanum || character = '-' || character = '.' || character = ':'

/-- The pieces of an address; its zone does not matter. -/
def parseV6 (text : String) : Option (List Nat) :=
  match JsText.split '%' text with
  | [address] => pieces (JsText.split ':' address)
  | [address, zone] =>
      if zone ≠ "" ∧ zone.toList.all isZoneChar then pieces (JsText.split ':' address) else none
  | _ => none

def parse (text : String) : Option IpAddress :=
  match parseV4 text with
  | some value => some (.v4 value)
  | none => (parseV6 text).map .v6

/-- The address of the fourth version that is reached, where one is mapped. -/
def unmapped : IpAddress → IpAddress
  | .v6 [0, 0, 0, 0, 0, 65535, high, low] => .v4 (high * 65536 + low)
  | address => address

/-! ## Writing -/

def hexDigit (value : Nat) : Char := "0123456789abcdef".toList.getD value '0'

/-- Hexadecimal digits without leading zeros. -/
def hexDigits (piece : Nat) : List Nat :=
  if piece < 16 then [piece]
  else if piece < 256 then [piece / 16, piece % 16]
  else if piece < 4096 then [piece / 256, piece / 16 % 16, piece % 16]
  else [piece / 4096, piece / 256 % 16, piece / 16 % 16, piece % 16]

def hexText (piece : Nat) : String := String.ofList ((hexDigits piece).map hexDigit)

/-- The first of the longest runs of more than one zero: where it starts, and its length. -/
def longestRun (pieces : List Nat) : Option (Nat × Nat) :=
  (List.range pieces.length).foldl (fun best start =>
    let length := ((pieces.drop start).takeWhile (· = 0)).length
    if (best.map Prod.snd).getD 1 < length then some (start, length) else best) none

def serializeV6 (pieces : List Nat) : String :=
  match longestRun pieces with
  | none => JsText.join ':' (pieces.map hexText)
  | some (start, length) =>
      JsText.join ':' ((pieces.take start).map hexText) ++ "::" ++
        JsText.join ':' ((pieces.drop (start + length)).map hexText)

/-! ## Octets -/

theorem octet_toString {value : Nat} (small : value < 256) :
    octet (toString value) = some value ∧ '.' ∉ (toString value).toList := by
  have all : ∀ value < 256,
      octet (toString value) = some value ∧ '.' ∉ (toString value).toList := by
    decide +kernel
  exact all value small

/-- Octets are read as they are written. -/
theorem parseV4_join {first second third fourth : Nat} (firstSmall : first < 256)
    (secondSmall : second < 256) (thirdSmall : third < 256) (fourthSmall : fourth < 256) :
    parseV4 (JsText.join '.' [toString first, toString second, toString third,
      toString fourth]) = some (((first * 256 + second) * 256 + third) * 256 + fourth) := by
  rw [parseV4, JsText.split_join (List.cons_ne_nil _ _)]
  · simp only [octets, (octet_toString firstSmall).1, (octet_toString secondSmall).1,
      (octet_toString thirdSmall).1, (octet_toString fourthSmall).1]
  · intro part member
    rcases List.mem_cons.mp member with same | member
    · exact same ▸ (octet_toString firstSmall).2
    rcases List.mem_cons.mp member with same | member
    · exact same ▸ (octet_toString secondSmall).2
    rcases List.mem_cons.mp member with same | member
    · exact same ▸ (octet_toString thirdSmall).2
    rw [List.mem_singleton.mp member]
    exact (octet_toString fourthSmall).2

theorem octet_le {text : String} {value : Nat} (read : octet text = some value) :
    value ≤ 255 := by
  rw [octet] at read
  split at read
  · exact of_decide_eq_true (Option.mem_filter_iff.mp read).2
  · cases read

theorem parseV4_lt {text : String} {value : Nat} (read : parseV4 text = some value) :
    value < 4294967296 := by
  rw [parseV4] at read
  unfold octets at read
  split at read
  · split at read
    · rename_i first second third fourth firstRead secondRead thirdRead fourthRead
      have firstBound := octet_le firstRead
      have secondBound := octet_le secondRead
      have thirdBound := octet_le thirdRead
      have fourthBound := octet_le fourthRead
      have same := Option.some.inj read
      omega
    · cases read
  · cases read

/-! ## Pieces -/

theorem hexGroup_lt {text : String} {piece : Nat} (read : hexGroup text = some piece) :
    piece < 65536 := by
  rw [hexGroup] at read
  split at read
  · rename_i short
    rw [JsText.digitsValue] at read
    split at read
    · cases read
    · calc piece < 16 ^ text.toList.length := JsText.digitsFrom_lt read
        _ ≤ 16 ^ 4 := Nat.pow_le_pow_right (by decide) short
  · cases read

theorem groups_lt {parts : List String} {read : List Nat} (done : groups parts = some read) :
    ∀ piece ∈ read, piece < 65536 := by
  induction parts using groups.induct generalizing read with
  | case1 =>
      cases done
      exact fun _ none_ => absurd none_ List.not_mem_nil
  | case2 last piece own =>
      simp only [groups, own] at done
      cases done
      intro other member
      rw [List.mem_singleton.mp member]
      exact hexGroup_lt own
  | case3 last own =>
      simp only [groups, own] at done
      rcases Option.map_eq_some_iff.mp done with ⟨value, octets, same⟩
      have bound := parseV4_lt octets
      rw [← same]
      intro other member
      rcases List.mem_cons.mp member with high | member
      · omega
      · have low := List.mem_singleton.mp member
        omega
  | case4 group rest several piece pieces own others ih =>
      simp only [groups, own, others] at done
      rw [← Option.some.inj done]
      intro other member
      rcases List.mem_cons.mp member with same | later
      · exact same ▸ hexGroup_lt others
      · exact ih own other later
  | case5 group rest several unread ih =>
      simp only [groups] at done
      cases done

theorem groupsAfter_lt {parts : List String} {read : List Nat}
    (done : groupsAfter parts = some read) : ∀ piece ∈ read, piece < 65536 := by
  unfold groupsAfter at done
  split at done
  · cases done
  · cases done
    exact fun _ none_ => absurd none_ List.not_mem_nil
  · exact groups_lt done

theorem expand_lt {front back read : List Nat} (done : expand front back = some read)
    (frontBound : ∀ piece ∈ front, piece < 65536) (backBound : ∀ piece ∈ back, piece < 65536) :
    ∀ piece ∈ read, piece < 65536 := by
  rw [expand] at done
  split at done
  · rw [← Option.some.inj done]
    intro piece member
    rcases List.mem_append.mp member with member | late
    · rcases List.mem_append.mp member with early | zero
      · exact frontBound piece early
      · rw [List.eq_of_mem_replicate zero]
        decide
    · exact backBound piece late
  · cases done

theorem mapM_hexGroup_lt {parts : List String} {read : List Nat}
    (done : parts.mapM hexGroup = some read) : ∀ piece ∈ read, piece < 65536 := by
  induction parts generalizing read with
  | nil =>
      cases done
      exact fun _ none_ => absurd none_ List.not_mem_nil
  | cons part rest ih =>
      rw [List.mapM_cons] at done
      rcases Option.bind_eq_some_iff.mp done with ⟨piece, own, done⟩
      rcases Option.bind_eq_some_iff.mp done with ⟨pieces, others, same⟩
      rw [← Option.some.inj same]
      intro other member
      rcases List.mem_cons.mp member with first | later
      · exact first ▸ hexGroup_lt own
      · exact ih others other later

theorem pieces_lt {parts : List String} {read : List Nat} (done : pieces parts = some read) :
    ∀ piece ∈ read, piece < 65536 := by
  unfold pieces at done
  split at done
  · rcases Option.bind_eq_some_iff.mp done with ⟨back, after, expanded⟩
    exact expand_lt expanded (fun _ none_ => absurd none_ List.not_mem_nil)
      (groupsAfter_lt after)
  · split at done
    · exact groups_lt (Option.mem_filter_iff.mp done).1
    · cases done
    · rcases Option.bind_eq_some_iff.mp done with ⟨front, before, done⟩
      rcases Option.bind_eq_some_iff.mp done with ⟨back, after, expanded⟩
      exact expand_lt expanded (mapM_hexGroup_lt before) (groupsAfter_lt after)

theorem parseV6_lt {text : String} {read : List Nat} (done : parseV6 text = some read) :
    ∀ piece ∈ read, piece < 65536 := by
  unfold parseV6 at done
  split at done
  · exact pieces_lt done
  · split at done
    · exact pieces_lt done
    · cases done
  · cases done

/-! ## Canonical texts -/

theorem hexDigit_isSome {value : Nat} (small : value < 16) :
    (JsText.digitValue 16 (hexDigit value)).isSome ∧ hexDigit value ≠ ':' := by
  have all : ∀ value < 16,
      (JsText.digitValue 16 (hexDigit value)).isSome ∧ hexDigit value ≠ ':' := by decide +kernel
  exact all value small

/-- One to four digits are written. -/
theorem hexDigits_lt {piece : Nat} (bound : piece < 65536) :
    1 ≤ (hexDigits piece).length ∧ (hexDigits piece).length ≤ 4 ∧
      ∀ digit ∈ hexDigits piece, digit < 16 := by
  unfold hexDigits
  split
  · simp
    omega
  split
  · simp
    omega
  split
  · simp
    omega
  · simp
    omega

theorem hexText_digits {piece : Nat} (bound : piece < 65536) :
    1 ≤ (hexText piece).toList.length ∧ (hexText piece).toList.length ≤ 4 ∧
      ∀ character ∈ (hexText piece).toList,
        (JsText.digitValue 16 character).isSome ∧ character ≠ ':' := by
  rcases hexDigits_lt bound with ⟨atLeast, atMost, digits⟩
  rw [hexText, String.toList_ofList, List.length_map]
  refine ⟨atLeast, atMost, fun character member => ?_⟩
  rcases List.mem_map.mp member with ⟨digit, digitMember, same⟩
  exact same ▸ hexDigit_isSome (digits digit digitMember)

/-- The zeros before a mapped address are the longest run. -/
theorem longestRun_mapped (high low : Nat) :
    longestRun [0, 0, 0, 0, 0, 65535, high, low] = some (0, 5) := by
  have short : ([high, low].takeWhile (· = 0)).length ≤ 2 :=
    (List.takeWhile_sublist _).length_le
  have shorter : ([low].takeWhile (· = 0)).length ≤ 1 := (List.takeWhile_sublist _).length_le
  have notLonger : ¬5 < ([high, low].takeWhile (· = 0)).length := by omega
  have notLongest : ¬5 < ([low].takeWhile (· = 0)).length := by omega
  have range : List.range 8 = [0, 1, 2, 3, 4, 5, 6, 7] := by decide
  simp only [longestRun, List.length_cons, List.length_nil, range, List.foldl_cons,
    List.foldl_nil]
  simp [notLonger, notLongest]

theorem serializeV6_mapped (high low : Nat) :
    serializeV6 [0, 0, 0, 0, 0, 65535, high, low] =
      JsText.join ':' ["", "", "ffff", hexText high, hexText low] := by
  have piece : hexText 65535 = "ffff" := by decide +kernel
  simp only [serializeV6, longestRun_mapped, List.take_zero, List.map_nil, List.drop_succ_cons,
    List.drop_zero, List.map_cons, piece]
  simp only [JsText.join, List.map_cons, List.map_nil, List.intercalate, List.intersperse]
  apply String.toList_inj.mp
  simp

example : parse "64:ff9b::10.0.0.1" = some (.v6 [100, 65435, 0, 0, 0, 0, 2560, 1]) := by
  decide +kernel

example : serializeV6 [0, 0, 0, 0, 0, 65535, 32512, 1] = "::ffff:7f00:1" := by decide +kernel

end IpAddress

end Reputo.Library

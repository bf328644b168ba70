import Mathlib.Data.List.Infix
import Mathlib.Tactic.Ring

/-!
# Text and number conversions of JavaScript

Conversions between texts and integers as ECMAScript defines them, on lists of
characters so that they evaluate.
-/

namespace Reputo.Library.JsText

/-- White space and line terminators. -/
def isWhitespace (character : Char) : Bool :=
  let code := character.toNat
  (9 ≤ code && code ≤ 13) || code == 0x20 || code == 0xa0 || code == 0x1680 ||
    (0x2000 ≤ code && code ≤ 0x200a) || code == 0x2028 || code == 0x2029 || code == 0x202f ||
    code == 0x205f || code == 0x3000 || code == 0xfeff

/-- Characters without leading and trailing white space. -/
def trimList (characters : List Char) : List Char :=
  ((characters.dropWhile isWhitespace).reverse.dropWhile isWhitespace).reverse

/-- `text.trim()`. -/
def trim (text : String) : String :=
  String.ofList (trimList text.toList)

/-- Text that is neither missing nor empty, so that it passes as a condition. -/
def truthyText (text : Option String) : Option String := text.filter (· ≠ "")

/-- `text.includes(part)`. -/
def includes (text part : String) : Bool :=
  decide (part.toList <:+: text.toList)

/-- `text.split(separator)`. -/
def split (separator : Char) (text : String) : List String :=
  (text.toList.splitOn separator).map String.ofList

/-- `parts.join(separator)`. -/
def join (separator : Char) (parts : List String) : String :=
  String.ofList ([separator].intercalate (parts.map String.toList))

/-- What is before and after `text.lastIndexOf(separator)`. -/
def splitLast (separator : Char) (text : String) : Option (String × String) :=
  let reversed := text.toList.reverse
  match reversed.dropWhile (· ≠ separator) with
  | [] => none
  | _ :: before =>
      some (String.ofList before.reverse,
        String.ofList (reversed.takeWhile (· ≠ separator)).reverse)

/-- `text.length`, in UTF-16 units. -/
def length (text : String) : Nat :=
  (text.toList.map fun character => if character.toNat < 0x10000 then 1 else 2).sum

/-- The characters that fit into a number of UTF-16 units, without half a pair. -/
def takeUnits : Nat → List Char → List Char
  | _, [] => []
  | units, character :: rest =>
      let size := if character.toNat < 0x10000 then 1 else 2
      if size ≤ units then character :: takeUnits (units - size) rest else []

/-- `text.slice(0, units)`. -/
def sliceStart (text : String) (units : Nat) : String :=
  String.ofList (takeUnits units text.toList)

/-- Value of one digit in a base of at most 16. -/
def digitValue (base : Nat) (character : Char) : Option Nat :=
  let code := character.toNat
  let value :=
    if 48 ≤ code && code ≤ 57 then some (code - 48)
    else if 97 ≤ code && code ≤ 102 then some (code - 87)
    else if 65 ≤ code && code ≤ 70 then some (code - 55)
    else none
  value.filter (· < base)

/-- Value of digits after a number already read. -/
def digitsFrom (base : Nat) : Nat → List Char → Option Nat
  | value, [] => some value
  | value, character :: rest =>
      match digitValue base character with
      | some digit => digitsFrom base (value * base + digit) rest
      | none => none

/-- Value of a nonempty run of digits. -/
def digitsValue (base : Nat) (characters : List Char) : Option Nat :=
  if characters.isEmpty then none else digitsFrom base 0 characters

/-- `BigInt(text)`; `none` where it throws a `SyntaxError`. -/
def bigInt (text : String) : Option Int :=
  match trimList text.toList with
  | [] => some 0
  | '0' :: 'x' :: rest | '0' :: 'X' :: rest => (digitsValue 16 rest).map Int.ofNat
  | '0' :: 'o' :: rest | '0' :: 'O' :: rest => (digitsValue 8 rest).map Int.ofNat
  | '0' :: 'b' :: rest | '0' :: 'B' :: rest => (digitsValue 2 rest).map Int.ofNat
  | '-' :: rest => (digitsValue 10 rest).map fun value => -Int.ofNat value
  | '+' :: rest => (digitsValue 10 rest).map Int.ofNat
  | characters => (digitsValue 10 characters).map Int.ofNat

/-- `value.toString(16)`. -/
def toString16 (value : Int) : String :=
  (if value < 0 then "-" else "") ++ String.ofList (Nat.toDigits 16 value.natAbs)

/-- `text.padStart(length, character)`. -/
def padStart (length : Nat) (character : Char) (text : String) : String :=
  String.ofList (List.replicate (length - text.toList.length) character) ++ text

example : bigInt " 0x1b4 " = some 436 := by decide

example : toString16 436 = "1b4" := by decide

/-- Decimal texts tell their numbers. -/
theorem toString_injective {left right : Nat} (same : toString left = toString right) :
    left = right := by
  have digits : Nat.toDigits 10 left = Nat.toDigits 10 right := by
    rw [← Nat.toList_repr, ← Nat.toList_repr]
    exact congrArg String.toList same
  rw [← @Nat.ofDigitChars_ten_toDigits left, digits, Nat.ofDigitChars_ten_toDigits]

/-! ## Parts of texts -/

theorem takeWhile_append_cons {separator : Char} {first rest : List Char}
    (absent : separator ∉ first) :
    (first ++ separator :: rest).takeWhile (· ≠ separator) = first := by
  have passes : ∀ character ∈ first, decide (character ≠ separator) = true := by
    intro character member
    exact decide_eq_true fun same => absent (same ▸ member)
  rw [List.takeWhile_append_of_pos passes]
  simp

/-- What is before and after the first separator is determined. -/
theorem append_cons_inj {front other back others : List Char} {separator : Char}
    (absent : separator ∉ front) (absent' : separator ∉ other)
    (same : front ++ separator :: back = other ++ separator :: others) :
    front = other ∧ back = others := by
  have first := congrArg (List.takeWhile fun character => decide (character ≠ separator)) same
  rw [takeWhile_append_cons absent, takeWhile_append_cons absent'] at first
  subst first
  exact ⟨rfl, List.cons_inj_right separator |>.mp (List.append_cancel_left same)⟩

theorem split_join {separator : Char} {parts : List String} (nonempty : parts ≠ [])
    (separated : ∀ part ∈ parts, separator ∉ part.toList) :
    split separator (join separator parts) = parts := by
  rw [split, join, String.toList_ofList, List.splitOn_intercalate]
  · rw [List.map_map]
    exact (List.map_congr_left fun part _ => String.ofList_toList).trans (List.map_id parts)
  · intro characters member
    rcases List.mem_map.mp member with ⟨part, partMember, same⟩
    rw [← same]
    exact separated part partMember
  · exact fun empty => nonempty (List.map_eq_nil_iff.mp empty)

theorem join_split (separator : Char) (text : String) :
    join separator (split separator text) = text := by
  have parts : String.toList ∘ String.ofList = id := funext fun _ => String.toList_ofList
  rw [join, split, List.map_map, parts, List.map_id, List.intercalate_splitOn,
    String.ofList_toList]

/-- The first part is what is before the first separator. -/
theorem split_append {separator : Char} {first between : String} (rest : String)
    (separates : between.toList = [separator]) (absent : separator ∉ first.toList) :
    split separator (first ++ between ++ rest) = first :: split separator rest := by
  have text : (first ++ between ++ rest).toList = first.toList ++ separator :: rest.toList := by
    rw [String.toList_append, String.toList_append, separates, List.append_assoc]
    rfl
  rw [split, text, List.splitOn_append_cons_self_of_not_mem absent, List.map_cons,
    String.ofList_toList]
  rfl

theorem dropWhile_append_cons {separator : Char} {first rest : List Char}
    (absent : separator ∉ first) :
    (first ++ separator :: rest).dropWhile (· ≠ separator) = separator :: rest := by
  have passes : ∀ character ∈ first, decide (character ≠ separator) = true := by
    intro character member
    exact decide_eq_true fun same => absent (same ▸ member)
  rw [List.dropWhile_append_of_pos passes]
  simp

/-- A text is split at the last separator exactly if what is behind it has none. -/
theorem splitLast_eq_some {separator : Char} {between text before after : String}
    (separates : between.toList = [separator]) :
    splitLast separator text = some (before, after) ↔
      text = before ++ between ++ after ∧ separator ∉ after.toList := by
  constructor
  · intro found
    rw [splitLast] at found
    have parts := List.takeWhile_append_dropWhile (p := (· ≠ separator)) (l := text.toList.reverse)
    cases dropped : text.toList.reverse.dropWhile (· ≠ separator) with
    | nil =>
        simp only [dropped] at found
        cases found
    | cons last front =>
        simp only [dropped] at found
        cases found
        have nonempty : text.toList.reverse.dropWhile (· ≠ separator) ≠ [] := by
          rw [dropped]
          exact List.cons_ne_nil last front
        have isSeparator : last = separator := by
          have head := List.head_dropWhile_not (· ≠ separator) nonempty
          simp only [dropped, List.head_cons] at head
          simpa using head
        subst isSeparator
        rw [dropped] at parts
        have whole : text.toList = front.reverse ++
            last :: (text.toList.reverse.takeWhile (· ≠ last)).reverse := by
          have turned := congrArg List.reverse parts
          rw [List.reverse_reverse, List.reverse_append, List.reverse_cons,
            List.append_assoc] at turned
          exact turned.symm
        constructor
        · apply String.toList_inj.mp
          rw [String.toList_append, String.toList_append, separates, String.toList_ofList,
            String.toList_ofList, List.append_assoc]
          exact whole
        · rw [String.toList_ofList, List.mem_reverse]
          intro member
          have passes := List.all_eq_true.mp List.all_takeWhile _ member
          simp at passes
  · rintro ⟨rfl, absent⟩
    have reversed : (before ++ between ++ after).toList.reverse =
        after.toList.reverse ++ separator :: before.toList.reverse := by
      simp [separates]
    have absent : separator ∉ after.toList.reverse := by rwa [List.mem_reverse]
    rw [splitLast, reversed]
    simp only [takeWhile_append_cons absent, dropWhile_append_cons absent, List.reverse_reverse,
      String.ofList_toList]

/-- A text without the separator is one part. -/
theorem split_eq_singleton {separator : Char} {text : String}
    (absent : separator ∉ text.toList) : split separator text = [text] := by
  rw [split, List.splitOn_eq_singleton absent, List.map_singleton, String.ofList_toList]

/-- What is in a text is in one of its parts, or separates them. -/
theorem mem_splitOn {α : Type} [DecidableEq α] {separator item : α} {items : List α}
    (member : item ∈ items) :
    item = separator ∨ ∃ part ∈ items.splitOn separator, item ∈ part := by
  induction items with
  | nil => cases member
  | cons head rest ih =>
      rw [List.splitOn_cons_eq_if_modifyHead]
      by_cases separates : head = separator
      · rw [if_pos (beq_iff_eq.mpr separates)]
        rcases List.mem_cons.mp member with same | later
        · exact .inl (same.trans separates)
        · rcases ih later with same | ⟨part, among, inside⟩
          · exact .inl same
          · exact .inr ⟨part, List.mem_cons_of_mem _ among, inside⟩
      · rw [if_neg fun same => separates (beq_iff_eq.mp same)]
        cases parts : rest.splitOn separator with
        | nil => exact absurd parts (List.splitOn_ne_nil _ _)
        | cons first others =>
            rw [List.modifyHead_cons]
            rcases List.mem_cons.mp member with same | later
            · exact .inr ⟨_, List.mem_cons_self, same ▸ List.mem_cons_self⟩
            · rcases ih later with same | ⟨part, among, inside⟩
              · exact .inl same
              · rw [parts] at among
                rcases List.mem_cons.mp among with isFirst | isOther
                · exact .inr ⟨_, List.mem_cons_self,
                    List.mem_cons_of_mem _ (isFirst ▸ inside)⟩
                · exact .inr ⟨part, List.mem_cons_of_mem _ isOther, inside⟩

theorem mem_split {separator character : Char} {text : String}
    (member : character ∈ text.toList) :
    character = separator ∨ ∃ part ∈ split separator text, character ∈ part.toList := by
  rcases @mem_splitOn _ _ separator _ _ member with same | ⟨part, among, inside⟩
  · exact .inl same
  · refine .inr ⟨String.ofList part, List.mem_map_of_mem among, ?_⟩
    rw [String.toList_ofList]
    exact inside

section Parts

variable {α : Type} {part front back : List α} {item : α}

/-- A part without an item that separates two lists is in one of them. -/
theorem infix_of_not_mem (apart : item ∉ part) (within : part <:+: front ++ item :: back) :
    part <:+: front ∨ part <:+: back := by
  rcases within with ⟨before, after, whole⟩
  rw [List.append_assoc] at whole
  rcases List.append_eq_append_iff.mp whole with ⟨between, same, rest⟩ | ⟨between, same, rest⟩
  · rcases List.append_eq_append_iff.mp rest with ⟨left, split, _⟩ | ⟨left, split, others⟩
    · exact .inl ⟨before, left, by rw [same, split, List.append_assoc]⟩
    · cases left with
      | nil => exact .inl ⟨before, [], by rw [same, split]; simp⟩
      | cons head tail =>
          rcases List.cons_eq_cons.mp others with ⟨own, _⟩
          rw [split, own] at apart
          exact absurd (List.mem_append_right _ List.mem_cons_self) apart
  · cases between with
    | nil =>
        rcases part with _ | ⟨head, tail⟩
        · exact .inl (List.nil_infix)
        · rcases List.cons_eq_cons.mp rest with ⟨own, _⟩
          rw [own] at apart
          exact absurd List.mem_cons_self apart
    | cons head tail =>
        rcases List.cons_eq_cons.mp rest with ⟨_, others⟩
        exact .inr ⟨tail, after, by rw [List.append_assoc]; exact others.symm⟩

/-- A part is on one side of a run of items that it does not have. -/
theorem infix_of_apart {between : List α} (nonempty : between ≠ [])
    (apart : ∀ item ∈ between, item ∉ part) (within : part <:+: front ++ (between ++ back)) :
    part <:+: front ∨ part <:+: back := by
  induction between generalizing front with
  | nil => exact absurd rfl nonempty
  | cons item rest ih =>
      rcases infix_of_not_mem (apart item List.mem_cons_self) within with left | right
      · exact .inl left
      · cases rest with
        | nil => exact .inr right
        | cons next rest =>
            have inside : part <:+: [] ++ ((next :: rest) ++ back) := right
            rcases ih (fun absent => nomatch absent)
              (fun item member => apart item (List.mem_cons_of_mem _ member)) inside with
              left | right
            · exact .inl (left.trans List.nil_infix)
            · exact .inr right

end Parts

/-! ## Values of digits -/

attribute [local simp] digitsFrom

theorem digitValue_lt {base : Nat} {character : Char} {digit : Nat}
    (value : digitValue base character = some digit) : digit < base := by
  simp only [digitValue] at value
  simpa using (Option.mem_filter_iff.mp value).2

/-- Digits read after a number shift it by their count. -/
theorem digitsFrom_eq (base value : Nat) (characters : List Char) :
    digitsFrom base value characters =
      (digitsFrom base 0 characters).map (value * base ^ characters.length + ·) := by
  induction characters generalizing value with
  | nil => simp [digitsFrom]
  | cons character rest ih =>
      simp only [digitsFrom]
      cases digitValue base character with
      | none => rfl
      | some digit =>
          simp only
          rw [ih, ih (0 * base + digit), Option.map_map]
          congr 1
          funext tail
          simp only [Function.comp_apply, List.length_cons, Nat.pow_succ]
          ring

theorem digitsFrom_lt {base : Nat} {characters : List Char} {value : Nat}
    (read : digitsFrom base 0 characters = some value) : value < base ^ characters.length := by
  induction characters generalizing value with
  | nil =>
      cases read
      simp
  | cons character rest ih =>
      simp only [digitsFrom] at read
      cases first : digitValue base character with
      | none => simp [first] at read
      | some digit =>
          simp only [first] at read
          rw [digitsFrom_eq] at read
          rcases Option.map_eq_some_iff.mp read with ⟨tail, tailRead, sum⟩
          have tailBound := ih tailRead
          have digitBound : digit + 1 ≤ base := digitValue_lt first
          calc value = (0 * base + digit) * base ^ rest.length + tail := sum.symm
            _ < (digit + 1) * base ^ rest.length := by
                rw [Nat.zero_mul, Nat.zero_add, Nat.add_mul, Nat.one_mul]
                omega
            _ ≤ base * base ^ rest.length := Nat.mul_le_mul_right _ digitBound
            _ = base ^ (character :: rest).length := by
                rw [List.length_cons, Nat.pow_succ, Nat.mul_comm]

/-- Leading zeros do not count. -/
theorem digitsFrom_zeros (count : Nat) (characters : List Char) :
    digitsFrom 16 0 (List.replicate count '0' ++ characters) = digitsFrom 16 0 characters := by
  induction count with
  | zero => rfl
  | succ count ih => exact ih

theorem digitsFrom_dropZeros (characters : List Char) :
    digitsFrom 16 0 (characters.dropWhile (· == '0')) = digitsFrom 16 0 characters := by
  induction characters with
  | nil => rfl
  | cons character rest ih =>
      rw [List.dropWhile_cons]
      split
      · rename_i zero
        rw [ih, beq_iff_eq.mp zero]
        rfl
      · rfl

theorem toNat_toLower (character : Char) :
    character.toLower.toNat =
      if 65 ≤ character.toNat ∧ character.toNat ≤ 90 then character.toNat + 32
      else character.toNat := by
  by_cases upper : character.val ≥ 'A'.val ∧ character.val ≤ 'Z'.val
  · have range : 65 ≤ character.toNat ∧ character.toNat ≤ 90 :=
      ⟨UInt32.le_iff_toNat_le.mp upper.1, UInt32.le_iff_toNat_le.mp upper.2⟩
    have lower : character.toLower.toNat = (character.val + ('a'.val - 'A'.val)).toNat :=
      congrArg Char.toNat (dif_pos upper)
    have small : character.val.toNat + 32 < 2 ^ 32 := by
      have code : character.val.toNat = character.toNat := rfl
      omega
    rw [lower, if_pos range, UInt32.toNat_add]
    exact Nat.mod_eq_of_lt small
  · have range : ¬ (65 ≤ character.toNat ∧ character.toNat ≤ 90) := fun range =>
      upper ⟨UInt32.le_iff_toNat_le.mpr range.1, UInt32.le_iff_toNat_le.mpr range.2⟩
    have same : character.toLower.toNat = character.toNat := congrArg Char.toNat (dif_neg upper)
    rw [same, if_neg range]

/-- Upper-case digits count as lower-case ones. -/
theorem digitValue_toLower (base : Nat) (character : Char) :
    digitValue base character.toLower = digitValue base character := by
  simp only [digitValue, toNat_toLower]
  congr 1
  simp only [Bool.and_eq_true, decide_eq_true_eq]
  split <;> rename_i upper
  · by_cases letter : character.toNat ≤ 70
    · rw [if_neg (by omega), if_pos (by omega), if_neg (by omega), if_neg (by omega),
        if_pos (by omega)]
      congr 1
    · rw [if_neg (by omega), if_neg (by omega), if_neg (by omega), if_neg (by omega),
        if_neg (by omega), if_neg (by omega)]
  · rfl

theorem digitsFrom_toLower (base value : Nat) (characters : List Char) :
    digitsFrom base value (characters.map Char.toLower) = digitsFrom base value characters := by
  induction characters generalizing value with
  | nil => rfl
  | cons character rest ih =>
      simp only [List.map_cons, digitsFrom, digitValue_toLower, ih]

/-- A first digit that is not zero bounds the value from below. -/
theorem pow_le_of_digitsFrom {character : Char} {rest : List Char} {value : Nat}
    (nonzero : character ≠ '0') (read : digitsFrom 16 0 (character :: rest) = some value) :
    16 ^ rest.length ≤ value := by
  simp only [digitsFrom] at read
  cases first : digitValue 16 character with
  | none => simp [first] at read
  | some digit =>
      simp only [first] at read
      rw [digitsFrom_eq] at read
      rcases Option.map_eq_some_iff.mp read with ⟨tail, _, sum⟩
      have positive : 1 ≤ digit := by
        rw [Nat.one_le_iff_ne_zero]
        intro zero
        subst zero
        have code : character.toNat = 48 := by
          simp only [digitValue, Bool.and_eq_true, decide_eq_true_eq] at first
          have value := (Option.mem_filter_iff.mp first).1
          split at value
          · have difference := Option.mem_some.mp value
            omega
          · split at value
            · have difference := Option.mem_some.mp value
              omega
            · split at value
              · have difference := Option.mem_some.mp value
                omega
              · cases value
        exact nonzero (Char.toNat_inj.mp code)
      have total : digit * 16 ^ rest.length + tail = value := by simpa using sum
      calc 16 ^ rest.length = 1 * 16 ^ rest.length := (Nat.one_mul _).symm
        _ ≤ digit * 16 ^ rest.length := Nat.mul_le_mul_right _ positive
        _ ≤ value := by omega

/-! ## Hexadecimal texts -/

theorem digitValue_isSome_of_mem {base value result : Nat} {characters : List Char}
    (read : digitsFrom base value characters = some result) {character : Char}
    (member : character ∈ characters) : (digitValue base character).isSome := by
  induction characters generalizing value with
  | nil => simp at member
  | cons head rest ih =>
      simp only [digitsFrom] at read
      cases first : digitValue base head with
      | none => simp [first] at read
      | some digit =>
          simp only [first] at read
          rcases List.mem_cons.mp member with same | tailMember
          · rw [same, first]
            rfl
          · exact ih read tailMember

/-- Digits have a value. -/
theorem exists_digitsFrom {base : Nat} (value : Nat) {characters : List Char}
    (digits : ∀ character ∈ characters, (digitValue base character).isSome) :
    ∃ result, digitsFrom base value characters = some result := by
  induction characters generalizing value with
  | nil => exact ⟨value, rfl⟩
  | cons character rest ih =>
      rcases Option.isSome_iff_exists.mp (digits character List.mem_cons_self) with ⟨digit, own⟩
      simp only [digitsFrom, own]
      exact ih _ fun later member => digits later (List.mem_cons_of_mem _ member)

theorem not_isWhitespace_of_digit {base : Nat} {character : Char}
    (digit : (digitValue base character).isSome) : isWhitespace character = false := by
  have range : (48 ≤ character.toNat ∧ character.toNat ≤ 57) ∨
      (97 ≤ character.toNat ∧ character.toNat ≤ 102) ∨
      (65 ≤ character.toNat ∧ character.toNat ≤ 70) := by
    rcases Option.isSome_iff_exists.mp digit with ⟨value, found⟩
    simp only [digitValue, Bool.and_eq_true, decide_eq_true_eq] at found
    have read := (Option.mem_filter_iff.mp found).1
    split at read
    · rename_i decimal
      exact Or.inl decimal
    · split at read
      · rename_i lower
        exact Or.inr (Or.inl lower)
      · split at read
        · rename_i upper
          exact Or.inr (Or.inr upper)
        · cases read
  simp only [isWhitespace, Bool.or_eq_false_iff, Bool.and_eq_false_iff, decide_eq_false_iff_not,
    beq_eq_false_iff_ne]
  omega

theorem trimList_eq_self {characters : List Char}
    (visible : ∀ character ∈ characters, isWhitespace character = false) :
    trimList characters = characters := by
  have kept : ∀ {listed : List Char}, (∀ character ∈ listed, isWhitespace character = false) →
      listed.dropWhile isWhitespace = listed := by
    intro listed visible
    cases listed with
    | nil => rfl
    | cons head rest => rw [List.dropWhile_cons, visible head List.mem_cons_self]; rfl
  rw [trimList, kept visible, kept, List.reverse_reverse]
  intro character member
  exact visible character (List.mem_reverse.mp member)

theorem dropWhile_eq_self_of_head {characters : List Char}
    (visible : ∀ character ∈ characters.head?, isWhitespace character = false) :
    characters.dropWhile isWhitespace = characters := by
  cases characters with
  | nil => rfl
  | cons head rest =>
      have shown := visible head rfl
      rw [List.dropWhile_cons, shown]
      rfl

theorem head_dropWhile (characters : List Char) :
    ∀ character ∈ (characters.dropWhile isWhitespace).head?, isWhitespace character = false := by
  induction characters with
  | nil =>
      intro character first
      cases first
  | cons head rest ih =>
      rw [List.dropWhile_cons]
      split
      · exact ih
      · rename_i shown
        intro character first
        cases first
        exact Bool.eq_false_iff.mpr shown

/-- Dropping from the end leaves the first character, if any. -/
theorem head_trimList (characters : List Char) :
    ∀ character ∈ (trimList characters).head?, isWhitespace character = false := by
  intro character first
  have front : trimList characters <+: characters.dropWhile isWhitespace := by
    have suffix : (characters.dropWhile isWhitespace).reverse.dropWhile isWhitespace <:+
        (characters.dropWhile isWhitespace).reverse := List.dropWhile_suffix isWhitespace
    rw [← List.reverse_prefix, List.reverse_reverse] at suffix
    exact suffix
  rcases front with ⟨back, whole⟩
  apply head_dropWhile characters
  rw [← whole]
  cases shape : trimList characters with
  | nil =>
      rw [shape] at first
      cases first
  | cons head rest =>
      rw [shape] at first
      exact first

theorem trimList_trimList (characters : List Char) :
    trimList (trimList characters) = trimList characters := by
  have back : (trimList characters).reverse.dropWhile isWhitespace =
      (trimList characters).reverse := by
    apply dropWhile_eq_self_of_head
    rw [trimList, List.reverse_reverse]
    exact head_dropWhile _
  rw [trimList, dropWhile_eq_self_of_head (head_trimList characters), back, List.reverse_reverse]

@[simp] theorem trim_trim (text : String) : trim (trim text) = trim text := by
  rw [trim, trim, String.toList_ofList, trimList_trimList]
/-- `BigInt` reads the hexadecimal digits after `0x`. -/
theorem bigInt_hex {text : String} {digits : List Char} {value : Nat}
    (shape : text.toList = '0' :: 'x' :: digits) (read : digitsValue 16 digits = some value) :
    bigInt text = some (value : Int) := by
  have digitsRead : digitsFrom 16 0 digits = some value := by
    simp only [digitsValue] at read
    split at read
    · cases read
    · exact read
  have trimmed : trimList text.toList = '0' :: 'x' :: digits := by
    rw [shape]
    apply trimList_eq_self
    intro character member
    rcases List.mem_cons.mp member with zero | member
    · rw [zero]
      rfl
    · rcases List.mem_cons.mp member with letter | member
      · rw [letter]
        rfl
      · exact not_isWhitespace_of_digit (digitValue_isSome_of_mem digitsRead member)
  simp only [bigInt, trimmed, read, Option.map_some]
  rfl

end Reputo.Library.JsText

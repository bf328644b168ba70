import Reputo.Library.Json
import Reputo.Library.OrderedMap

/-!
# Schemas of JSON values

A schema accepts values and says what they are read as: texts may be trimmed, numbers read
from texts, and fields that a record has beside those of its schema are left out.  A parser of
schemas is any function that succeeds as they say; what it reports otherwise is its own.  Where
nothing that a schema changes would be changed again, what it reads a value as is read as
itself.
-/

namespace Reputo.Library

variable {ν : Type}

/-- A check of a text, or a change of it before the checks that follow. -/
inductive StringCheck where
  | transform (change : String → String)
  | check (holds : String → Bool) (message : String)

structure NumberCheck (ν : Type) where
  holds : ν → Bool
  message : String

structure LengthCheck where
  holds : Nat → Bool
  message : String

/-- Schemas; `none` is `undefined`. -/
inductive Schema (ν : Type) where
  | string (checks : List StringCheck)
  | number (error : String) (checks : List (NumberCheck ν))
  | boolean
  | enum (values : List String) (error : String)
  | unknown
  | array (item : Schema ν) (checks : List LengthCheck)
  | object (shape : List (String × Schema ν))
  | optional (inner : Schema ν)
  | preprocess (before : Option (Json ν) → Option (Json ν)) (inner : Schema ν)
  | refine (inner : Schema ν) (holds : Option (Json ν) → Bool) (message : String)

/-- What a schema has against a value. -/
structure Issue where
  path : List String
  message : String
  code : String
  deriving DecidableEq, Repr

/-- The text after all checks, if it passes them. -/
def runChecks : List StringCheck → String → Option String
  | [], text => some text
  | .transform change :: rest, text => runChecks rest (change text)
  | .check holds _ :: rest, text => if holds text then runChecks rest text else none

/-! ## What a schema reads -/

theorem bind_asString_eq_some {value : Option (Json ν)} {text : String} :
    value.bind Json.asString = some text ↔ value = some (.str text) := by
  rcases value with _ | value
  · simp
  · cases value <;> simp [Json.asString]

theorem bind_asNumber_eq_some {value : Option (Json ν)} {number : ν} :
    value.bind Json.asNumber = some number ↔ value = some (.num number) := by
  rcases value with _ | value
  · simp
  · cases value <;> simp [Json.asNumber]

theorem bind_asArray_eq_some {value : Option (Json ν)} {items : List (Json ν)} :
    value.bind Json.asArray = some items ↔ value = some (.arr items) := by
  rcases value with _ | value
  · simp
  · cases value <;> simp [Json.asArray]

theorem bind_asRecord_eq_some {value : Option (Json ν)} {fields : List (String × Json ν)} :
    value.bind Json.asRecord = some fields ↔ value = some (.obj fields) := by
  rcases value with _ | value
  · simp
  · cases value <;> simp [Json.asRecord]

namespace Schema

variable [JsNumber ν]

mutual

/-- What a value is read as, if it is accepted. -/
def parse : Schema ν → Option (Json ν) → Option (Option (Json ν))
  | .string checks, value =>
      ((value.bind Json.asString).bind (runChecks checks)).map fun text => some (.str text)
  | .number _ checks, value =>
      ((value.bind Json.asNumber).filter fun number =>
        JsNumber.isFinite number && checks.all fun check => check.holds number).map
          fun number => some (.num number)
  | .boolean, value =>
      match value with
      | some (.bool flag) => some (some (.bool flag))
      | _ => none
  | .enum values _, value =>
      ((value.bind Json.asString).filter fun text => text ∈ values).map fun text => some (.str text)
  | .unknown, value => some value
  | .array item checks, value =>
      ((value.bind Json.asArray).bind fun items =>
        (items.mapM fun entry => (item.parse (some entry)).bind id).filter fun others =>
          checks.all fun check => check.holds others.length).map fun others => some (.arr others)
  | .object shape, value =>
      ((value.bind Json.asRecord).bind (parseFields shape)).map fun fields => some (.obj fields)
  | .optional inner, value =>
      match value with
      | none => some none
      | some present => inner.parse (some present)
  | .preprocess before inner, value => inner.parse (before value)
  | .refine inner holds _, value => (inner.parse value).filter holds

/-- What the fields of a record are read as; a field that is read as `undefined` is left out. -/
def parseFields :
    List (String × Schema ν) → List (String × Json ν) → Option (List (String × Json ν))
  | [], _ => some []
  | (key, schema) :: rest, fields =>
      (schema.parse (fields.lookup key)).bind fun read =>
        (parseFields rest fields).map fun others =>
          match read with
          | none => others
          | some value => (key, value) :: others

end

/-- What an entry of an array is read as; it is not read as `undefined`. -/
def parseEntry (item : Schema ν) (entry : Json ν) : Option (Json ν) :=
  (item.parse (some entry)).bind id

theorem parseEntry_eq_some {item : Schema ν} {entry read : Json ν} :
    item.parseEntry entry = some read ↔ item.parse (some entry) = some (some read) := by
  rw [parseEntry]
  cases item.parse (some entry) <;> simp

section Reads

attribute [local simp] parse

variable {value read : Option (Json ν)}

theorem parse_string {checks : List StringCheck} : (string checks).parse value = some read ↔
    ∃ text after, value = some (.str text) ∧ runChecks checks text = some after ∧
      read = some (.str after) := by
  rw [parse]
  constructor
  · intro parsed
    rcases Option.map_eq_some_iff.mp parsed with ⟨after, passed, rfl⟩
    rcases Option.bind_eq_some_iff.mp passed with ⟨text, given, checked⟩
    exact ⟨text, after, bind_asString_eq_some.mp given, checked, rfl⟩
  · rintro ⟨text, after, rfl, checked, rfl⟩
    exact Option.map_eq_some_iff.mpr ⟨after, checked, rfl⟩

theorem parse_number {error : String} {checks : List (NumberCheck ν)} :
    (number error checks).parse value = some read ↔ ∃ exactly, value = some (.num exactly) ∧
      JsNumber.isFinite exactly = true ∧ (∀ check ∈ checks, check.holds exactly = true) ∧
        read = value := by
  simp only [parse, Option.map_eq_some_iff, Option.filter_eq_some_iff, bind_asNumber_eq_some,
    Bool.and_eq_true, List.all_eq_true]
  constructor
  · rintro ⟨exactly, ⟨given, finite, checked⟩, rfl⟩
    exact ⟨exactly, given, finite, checked, given.symm⟩
  · rintro ⟨exactly, given, finite, checked, rfl⟩
    exact ⟨exactly, ⟨given, finite, checked⟩, given.symm⟩

theorem parse_boolean : (boolean : Schema ν).parse value = some read ↔
    ∃ flag, value = some (.bool flag) ∧ read = value := by
  rcases value with _ | value
  · simp [parse]
  · cases value <;> simp [parse, eq_comm]

theorem parse_enum {values : List String} {error : String} :
    (enum values error : Schema ν).parse value = some read ↔
      ∃ text ∈ values, value = some (.str text) ∧ read = value := by
  simp only [parse, Option.map_eq_some_iff, Option.filter_eq_some_iff, bind_asString_eq_some,
    decide_eq_true_iff]
  constructor
  · rintro ⟨text, ⟨given, listed⟩, rfl⟩
    exact ⟨text, listed, given, given.symm⟩
  · rintro ⟨text, listed, given, rfl⟩
    exact ⟨text, ⟨given, listed⟩, given.symm⟩

theorem parse_array {item : Schema ν} {checks : List LengthCheck} :
    (array item checks).parse value = some read ↔ ∃ items others, value = some (.arr items) ∧
      items.mapM item.parseEntry = some others ∧
        (∀ check ∈ checks, check.holds others.length = true) ∧ read = some (.arr others) := by
  rw [parse]
  constructor
  · intro parsed
    rcases Option.map_eq_some_iff.mp parsed with ⟨others, passed, rfl⟩
    rcases Option.bind_eq_some_iff.mp passed with ⟨items, given, kept⟩
    rcases Option.filter_eq_some_iff.mp kept with ⟨mapped, checked⟩
    exact ⟨items, others, bind_asArray_eq_some.mp given, mapped, List.all_eq_true.mp checked, rfl⟩
  · rintro ⟨items, others, rfl, mapped, checked, rfl⟩
    exact Option.map_eq_some_iff.mpr
      ⟨others, Option.filter_eq_some_iff.mpr ⟨mapped, List.all_eq_true.mpr checked⟩, rfl⟩

theorem parse_object {shape : List (String × Schema ν)} :
    (object shape).parse value = some read ↔ ∃ fields others, value = some (.obj fields) ∧
      parseFields shape fields = some others ∧ read = some (.obj others) := by
  rw [parse]
  constructor
  · intro parsed
    rcases Option.map_eq_some_iff.mp parsed with ⟨others, passed, rfl⟩
    rcases Option.bind_eq_some_iff.mp passed with ⟨fields, given, parsedFields⟩
    exact ⟨fields, others, bind_asRecord_eq_some.mp given, parsedFields, rfl⟩
  · rintro ⟨fields, others, rfl, parsedFields, rfl⟩
    exact Option.map_eq_some_iff.mpr ⟨others, parsedFields, rfl⟩

theorem parse_refine {inner : Schema ν} {holds : Option (Json ν) → Bool} {message : String} :
    (refine inner holds message).parse value = some read ↔
      inner.parse value = some read ∧ holds read = true := by
  rw [parse, Option.filter_eq_some_iff]

theorem parse_optional {inner : Schema ν} {present : Json ν} :
    (optional inner).parse (some present) = inner.parse (some present) := by
  rw [parse]

theorem parse_optional_none {inner : Schema ν} :
    (optional inner).parse none = some none := by
  rw [parse]

end Reads

/-- The schema of a record with fields, a later one in the place of an earlier one. -/
def record (fields : List (String × Schema ν)) : Schema ν :=
  .object (OrderedMap.ofPairs fields).entries

end Schema

/-- A parser that succeeds as schemas say, and otherwise reports at least one issue. -/
structure Parser (ν : Type) [JsNumber ν] where
  safeParse : Schema ν → Option (Json ν) → Except (List Issue) (Option (Json ν))
  ok_iff : ∀ schema value read,
    safeParse schema value = .ok read ↔ schema.parse value = some read
  reports : ∀ schema value, safeParse schema value ≠ .error []

/-- The reading of a schema, with one issue where there is none. -/
def Schema.plainParse [JsNumber ν] (schema : Schema ν) (value : Option (Json ν)) :
    Except (List Issue) (Option (Json ν)) :=
  (schema.parse value).elim
    (.error [{ path := [], message := "Invalid input", code := "custom" }]) .ok

theorem Schema.plainParse_eq_ok [JsNumber ν] (schema : Schema ν) (value read : Option (Json ν)) :
    schema.plainParse value = .ok read ↔ schema.parse value = some read := by
  rw [plainParse]
  cases schema.parse value <;> simp

theorem Schema.plainParse_reports [JsNumber ν] (schema : Schema ν) (value : Option (Json ν)) :
    schema.plainParse value ≠ .error [] := by
  rw [plainParse]
  cases schema.parse value <;> simp

/-- The parser that reports the same of everything. -/
def Parser.plain [JsNumber ν] : Parser ν where
  safeParse := Schema.plainParse
  ok_iff := Schema.plainParse_eq_ok
  reports := Schema.plainParse_reports

/-! ## Reading again -/

theorem mapM_again {α : Type} {read : α → Option α}
    (again : ∀ before after, read before = some after → read after = some after)
    {items others : List α} (all : items.mapM read = some others) :
    others.mapM read = some others := by
  induction items generalizing others with
  | nil =>
      cases Option.some.inj all
      rfl
  | cons item rest ih =>
      rw [List.mapM_cons] at all
      rcases Option.bind_eq_some_iff.mp all with ⟨head, first, tail⟩
      rcases Option.bind_eq_some_iff.mp tail with ⟨others, remaining, last⟩
      cases Option.some.inj last
      rw [List.mapM_cons, again item head first, ih remaining]
      rfl

namespace Schema

variable [JsNumber ν]

/-- Nothing that the schema changes would be changed again. -/
inductive Stable : Schema ν → Prop
  | string {checks : List StringCheck} (again : ∀ text read, runChecks checks text = some read →
      runChecks checks read = some read) : Stable (.string checks)
  | number (error : String) (checks : List (NumberCheck ν)) : Stable (.number error checks)
  | boolean : Stable .boolean
  | enum (values : List String) (error : String) : Stable (.enum values error)
  | unknown : Stable .unknown
  | array {item : Schema ν} (stable : Stable item) (checks : List LengthCheck) :
      Stable (.array item checks)
  | object {shape : List (String × Schema ν)} (nodup : (shape.map Prod.fst).Nodup)
      (stable : ∀ field ∈ shape, Stable field.2) : Stable (.object shape)
  | optional {inner : Schema ν} (stable : Stable inner) : Stable (.optional inner)
  | preprocess {before : Option (Json ν) → Option (Json ν)} {inner : Schema ν}
      (stable : Stable inner)
      (kept : ∀ value read, inner.parse value = some read → before read = read) :
      Stable (.preprocess before inner)
  | refine {inner : Schema ν} (stable : Stable inner) (holds : Option (Json ν) → Bool)
      (message : String) : Stable (.refine inner holds message)

theorem parseFields_cons {key : String} {schema : Schema ν} {rest : List (String × Schema ν)}
    {fields read : List (String × Json ν)} :
    parseFields ((key, schema) :: rest) fields = some read ↔ ∃ value others,
      schema.parse (fields.lookup key) = some value ∧ parseFields rest fields = some others ∧
        read = (value.map (key, ·)).toList ++ others := by
  rw [parseFields]
  constructor
  · intro parsed
    rcases Option.bind_eq_some_iff.mp parsed with ⟨value, first, tail⟩
    rcases Option.map_eq_some_iff.mp tail with ⟨others, remaining, rfl⟩
    refine ⟨value, others, first, remaining, ?_⟩
    cases value <;> rfl
  · rintro ⟨value, others, first, remaining, rfl⟩
    rw [first, remaining]
    cases value <;> rfl

/-- Fields that are read are fields of the shape. -/
theorem keys_parseFields {shape : List (String × Schema ν)} {fields read : List (String × Json ν)}
    (parsed : parseFields shape fields = some read) {key : String}
    (absent : key ∉ shape.map Prod.fst) :
    read.lookup key = none := by
  induction shape generalizing read with
  | nil =>
      cases Option.some.inj parsed
      rfl
  | cons field rest ih =>
      rcases field with ⟨own, schema⟩
      rcases parseFields_cons.mp parsed with ⟨value, others, _, remaining, rfl⟩
      rw [List.map_cons, List.mem_cons, not_or] at absent
      have later := ih remaining absent.2
      cases value with
      | none => exact later
      | some value =>
          rw [Option.map_some, Option.toList_some, List.singleton_append,
            OrderedMap.lookup_cons_of_ne _ _ absent.1]
          exact later

/-- A field of the shape is read as its schema reads it. -/
theorem lookup_parseFields {shape : List (String × Schema ν)} {fields read : List (String × Json ν)}
    (nodup : (shape.map Prod.fst).Nodup) (parsed : parseFields shape fields = some read)
    {key : String} {schema : Schema ν} (member : (key, schema) ∈ shape) :
    schema.parse (fields.lookup key) = some (read.lookup key) := by
  induction shape generalizing read with
  | nil => cases member
  | cons field rest ih =>
      rcases field with ⟨own, inner⟩
      rcases parseFields_cons.mp parsed with ⟨value, others, first, remaining, rfl⟩
      rw [List.map_cons, List.nodup_cons] at nodup
      rcases List.mem_cons.mp member with same | later
      · cases same
        rw [first]
        cases value with
        | none => exact congrArg some (keys_parseFields remaining nodup.1).symm
        | some value => simp
      · have different : key ≠ own := by
          rintro rfl
          exact nodup.1 (List.mem_map.mpr ⟨_, later, rfl⟩)
        rw [ih nodup.2 remaining later]
        cases value with
        | none => rfl
        | some value =>
            rw [Option.map_some, Option.toList_some, List.singleton_append,
              OrderedMap.lookup_cons_of_ne _ _ different]

/-- Fields are read from any record that has the same values for them. -/
theorem parseFields_congr {shape : List (String × Schema ν)}
    {fields others : List (String × Json ν)}
    (same : ∀ field ∈ shape, field.2.parse (fields.lookup field.1) =
      field.2.parse (others.lookup field.1)) :
    parseFields shape fields = parseFields shape others := by
  induction shape with
  | nil => rfl
  | cons field rest ih =>
      rcases field with ⟨key, schema⟩
      rw [parseFields, parseFields, same (key, schema) List.mem_cons_self,
        ih fun field member => same field (List.mem_cons_of_mem _ member)]

/-- What a stable schema reads a value as is read as itself. -/
theorem Stable.parse_again {schema : Schema ν} (stable : schema.Stable)
    {value read : Option (Json ν)}
    (parsed : schema.parse value = some read) : schema.parse read = some read := by
  induction stable generalizing value read with
  | string again =>
      rcases parse_string.mp parsed with ⟨text, after, _, checked, rfl⟩
      exact parse_string.mpr ⟨after, after, rfl, again text after checked, rfl⟩
  | number error checks =>
      rcases parse_number.mp parsed with ⟨exactly, rfl, finite, checked, rfl⟩
      exact parsed
  | boolean =>
      rcases parse_boolean.mp parsed with ⟨flag, rfl, rfl⟩
      exact parsed
  | enum values error =>
      rcases parse_enum.mp parsed with ⟨text, listed, rfl, rfl⟩
      exact parsed
  | unknown => rw [parse]
  | array stable checks ih =>
      rcases parse_array.mp parsed with ⟨items, others, _, mapped, checked, rfl⟩
      have again := mapM_again (fun before after entry =>
        parseEntry_eq_some.mpr (ih (parseEntry_eq_some.mp entry))) mapped
      exact parse_array.mpr ⟨others, others, rfl, again, checked, rfl⟩
  | object nodup stable ih =>
      rcases parse_object.mp parsed with ⟨fields, others, _, parsedFields, rfl⟩
      refine parse_object.mpr ⟨others, others, rfl, ?_, rfl⟩
      refine (parseFields_congr ?_).trans parsedFields
      intro field member
      have first := lookup_parseFields nodup parsedFields member
      rw [first]
      exact ih field member first
  | optional stable ih =>
      cases value with
      | none =>
          rw [parse_optional_none] at parsed
          cases parsed
          exact parse_optional_none
      | some present =>
          rw [parse_optional] at parsed
          cases read with
          | none => exact parse_optional_none
          | some later =>
              rw [parse_optional]
              exact ih parsed
  | preprocess stable kept ih =>
      rw [parse] at parsed ⊢
      rw [kept _ _ parsed]
      exact ih parsed
  | refine stable holds message ih =>
      rcases parse_refine.mp parsed with ⟨inner, held⟩
      exact parse_refine.mpr ⟨ih inner, held⟩

theorem stable_record {fields : List (String × Schema ν)}
    (stable : ∀ field ∈ fields, field.2.Stable) : (record fields).Stable := by
  refine .object (OrderedMap.ofPairs fields).keys_nodup ?_
  intro field member
  have found := (OrderedMap.ofPairs fields).get?_of_mem_entries member
  exact stable field (OrderedMap.mem_of_get?_ofPairs found)

end Schema

end Reputo.Library

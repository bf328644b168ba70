import Mathlib.Algebra.Order.Ring.Rat

/-!
# JSON values

Values as `JSON.parse` yields them, over any type of numbers.  What a program asks
of the numbers is a class, so that statements hold for whatever arithmetic they
have.
-/

namespace Reputo.Library

universe u

/-- Numbers of JavaScript, as far as they are asked anything. -/
class JsNumber (ν : Type u) where
  zero : ν
  add : ν → ν → ν
  /-- `left < right`. -/
  lt : ν → ν → Bool
  /-- `Number.isFinite(value)`. -/
  isFinite : ν → Bool

/-- Exact numbers, all of them finite. -/
instance : JsNumber Rat where
  zero := 0
  add := (· + ·)
  lt left right := left < right
  isFinite _ := true

@[simp] theorem jsNumber_zero : (JsNumber.zero : Rat) = 0 := rfl

@[simp] theorem jsNumber_add (left right : Rat) : JsNumber.add left right = left + right := rfl

@[simp] theorem jsNumber_lt (left right : Rat) : JsNumber.lt left right = decide (left < right) :=
  rfl

@[simp] theorem jsNumber_isFinite (value : Rat) : JsNumber.isFinite value = true := rfl

/-- A JSON value; the fields of an object have different names. -/
inductive Json (ν : Type u) where
  | null
  | bool (value : Bool)
  | num (value : ν)
  | str (value : String)
  | arr (items : List (Json ν))
  | obj (fields : List (String × Json ν))

namespace Json

variable {ν : Type u}

/-- The value where `typeof value === 'string'`. -/
def asString : Json ν → Option String
  | .str value => some value
  | _ => none

/-- The value where `typeof value === 'number'`. -/
def asNumber : Json ν → Option ν
  | .num value => some value
  | _ => none

/-- The items where `Array.isArray(value)`. -/
def asArray : Json ν → Option (List (Json ν))
  | .arr items => some items
  | _ => none

/-- The fields of an object that is no array and not `null`. -/
def asRecord : Json ν → Option (List (String × Json ν))
  | .obj fields => some fields
  | _ => none

/-- `value.name`; `none` is `undefined`. -/
def field (value : Json ν) (name : String) : Option (Json ν) :=
  value.asRecord.bind (·.lookup name)

theorem sizeOf_lookup_lt {fields : List (String × Json ν)} {name : String} {inner : Json ν}
    (found : fields.lookup name = some inner) : sizeOf inner < sizeOf fields := by
  induction fields with
  | nil => cases found
  | cons field rest ih =>
      rcases field with ⟨own, value⟩
      rw [List.lookup_cons] at found
      simp only [List.cons.sizeOf_spec, Prod.mk.sizeOf_spec]
      split at found
      · cases found
        omega
      · have smaller := ih found
        omega

/-- A field is smaller than its record. -/
theorem sizeOf_field_lt {value inner : Json ν} {name : String}
    (found : value.field name = some inner) : sizeOf inner < sizeOf value := by
  rcases Option.bind_eq_some_iff.mp found with ⟨fields, record, held⟩
  cases value <;> cases record
  have smaller := sizeOf_lookup_lt held
  simp only [Json.obj.sizeOf_spec]
  omega

/-- `Boolean(value)`. -/
def isTruthy [JsNumber ν] : Json ν → Bool
  | .null => false
  | .bool value => value
  | .num value => JsNumber.lt JsNumber.zero value || JsNumber.lt value JsNumber.zero
  | .str value => value ≠ ""
  | .arr _ | .obj _ => true

end Json

end Reputo.Library

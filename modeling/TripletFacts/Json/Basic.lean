/-!
# JSON values

Values of the data format in which settings and expressions are exchanged. Integers and floats are
kept apart, and the fields of an object keep their order.

## Main definitions

* `Json`: values.
* `Json.field?`, `Json.setField`: a field of an object, and an object with one field set.

## Main results

* `Json.lookup_setField_self`, `Json.lookup_setField_of_ne`: setting a field sets that field and no
  other.
-/

namespace TripletFacts

/-- JSON values. -/
inductive Json where
  | null
  | bool (b : Bool)
  | int (i : Int)
  | float (x : Float)
  | str (s : String)
  | arr (items : List Json)
  | obj (fields : List (String × Json))

namespace Json

/-- The fields of an object. -/
abbrev Fields := List (String × Json)

/-- A field of an object; other values have none. -/
def field? (key : String) : Json → Option Json
  | obj fields => fields.lookup key
  | _ => none

/-- The fields with one of them set: its value is replaced in place, or it is appended. -/
def setField (key : String) (v : Json) : Fields → Fields
  | [] => [(key, v)]
  | (k, w) :: rest => if k = key then (key, v) :: rest else (k, w) :: setField key v rest

/-- A field that has been set has its new value. -/
theorem lookup_setField_self (key : String) (v : Json) :
    (fields : Fields) → (setField key v fields).lookup key = some v
  | [] => by simp [setField]
  | (k, w) :: rest => by
      by_cases h : k = key
      · simp [setField, h]
      · have hk : (key == k) = false := by simpa using fun e => h e.symm
        simp [setField, h, List.lookup_cons, hk, lookup_setField_self key v rest]

/-- Other fields keep their values. -/
theorem lookup_setField_of_ne {key other : String} (hne : other ≠ key) (v : Json) :
    (fields : Fields) → (setField key v fields).lookup other = fields.lookup other
  | [] => by
      have hk : (other == key) = false := by simpa using hne
      simp [setField, List.lookup_cons, hk]
  | (k, w) :: rest => by
      have hk : (other == key) = false := by simpa using hne
      by_cases h : k = key
      · subst h
        simp [setField, List.lookup_cons, hk]
      · simp [setField, h, List.lookup_cons, lookup_setField_of_ne hne v rest]

end Json

end TripletFacts

import DryRun.Json.Basic

/-!
# Records in JSON

A record is an object with its fields by name, or an array with its fields in order. Members of
other names do not count; a field that is given twice is an error.
-/

namespace DryRun

namespace Json

/-- The fields of a record as they are given. -/
structure Fields where
  /-- Whether the fields are given by name. -/
  byName : Bool
  /-- The values of the fields in order; none for a field that is not given. -/
  values : List (Option Json)

/-- The value of the field with one of the given names, if it is given at most once. -/
def fieldOf? (members : List (Text × Json)) (names : List String) : Option (Option Json) :=
  match members.filter fun (key, _) => names.any (key == ·.toList) with
  | [] => some none
  | [(_, value)] => some (some value)
  | _ => none

/-- Members with the texts of their keys. -/
def keyed? (members : List (Option Text × Json)) : Option (List (Text × Json)) :=
  members.mapM fun (key, value) => key.map (·, value)

/-- The fields of a record whose fields have the given names; `spare` says whether an array may
have more items than there are fields. -/
def fields? (spare : Bool) (names : List (List String)) : Json → Option Fields
  | object members => do
    let members ← keyed? members
    return ⟨true, ← names.mapM (fieldOf? members)⟩
  | array items =>
    if items.length ≤ names.length || spare then
      let given := (items.take names.length).map some
      some ⟨false, given ++ List.replicate (names.length - given.length) none⟩
    else none
  | _ => none

/-- The value of a field that has to be given. -/
def required? (decode : Json → Option α) (value : Option Json) : Option α := value.bind decode

/-- The value of a field with a default. -/
def defaulted? (default : α) (decode : Json → Option α) : Option Json → Option α
  | none => some default
  | some value => decode value

/-- The value of a field that may be null. -/
def nullable? (decode : Json → Option α) : Json → Option (Option α)
  | null => some none
  | value => (decode value).map some

/-- The value of a field that may be null, which it is if it is left out of an object. -/
def Fields.nullable? (fields : Fields) (decode : Json → Option α) (value : Option Json) :
    Option (Option α) :=
  match value with
  | some value => Json.nullable? decode value
  | none => if fields.byName then some none else none

end Json

end DryRun

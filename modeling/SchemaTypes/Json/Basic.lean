import SchemaTypes.Json.Binary64

/-!
# `SchemaTypes.Json.Basic`: JSON values

An object is the list of its fields in the order in which they were
written, because that order is visible wherever an object is merged,
sorted or written back. Integers are unbounded and kept apart from
numbers with a fraction or an exponent.
-/

set_option autoImplicit false

namespace SchemaTypes

/-- A JSON value. -/
inductive Json where
  | null
  | bool (b : Bool)
  | int (n : Int)
  | real (r : Json.Binary64)
  | str (s : String)
  | arr (items : List Json)
  | obj (fields : List (String × Json))
deriving Repr, Inhabited, BEq

namespace Json

/-- The value of the first field with a name. -/
def lookup (fields : List (String × Json)) (key : String) : Option Json :=
  fields.lookup key

/-- Sets a field. A name that is present keeps its place; a new one goes
to the end. -/
def setField {α : Type} (key : String) (value : α) : List (String × α) → List (String × α)
  | [] => [(key, value)]
  | field :: rest =>
    if field.1 == key then (key, value) :: rest else field :: setField key value rest

/-- Sets fields one after the other. -/
def setFields {α : Type} (updates fields : List (String × α)) : List (String × α) :=
  updates.foldl (fun acc update => setField update.1 update.2 acc) fields

/-- The fields whose value is not null. -/
def dropNulls (fields : List (String × Json)) : List (String × Json) :=
  fields.filter fun field =>
    match field.2 with
    | .null => false
    | _ => true

/-- A text field, if there is a text. -/
def strOrNull : Option String → Json
  | some s => .str s
  | none => .null

mutual

/-- A value with null in place of every number that is not finite. -/
def finite : Json → Json
  | .real (.finite negative mantissa exponent) => .real (.finite negative mantissa exponent)
  | .real _ => .null
  | .arr items => .arr (finiteItems items)
  | .obj fields => .obj (finiteFields fields)
  | .null => .null
  | .bool b => .bool b
  | .int n => .int n
  | .str s => .str s

/-- Every item with null in place of numbers that are not finite. -/
def finiteItems : List Json → List Json
  | [] => []
  | item :: items => finite item :: finiteItems items

/-- Every field with null in place of numbers that are not finite. -/
def finiteFields : List (String × Json) → List (String × Json)
  | [] => []
  | (key, value) :: fields => (key, finite value) :: finiteFields fields

end

/-- The list of texts as an array. -/
def ofStrings (texts : List String) : Json :=
  .arr (texts.map .str)

end Json

end SchemaTypes

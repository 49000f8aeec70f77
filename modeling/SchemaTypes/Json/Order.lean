import SchemaTypes.Json.Basic

/-!
# `SchemaTypes.Json.Order`: the order of a written value

Every JSON artifact is put into one order before it is written, so that
two runs on the same input differ in nothing. In an object the field
`name` comes first, then the fields with a simple value, then those with
an array or an object, each group by name. An array whose items are all
objects with a text for `name` is sorted by it; any other array keeps its
order.
-/

set_option autoImplicit false

namespace SchemaTypes.Json

/-- Whether a value is an array or an object. -/
def isNested : Json → Bool
  | .arr _ => true
  | .obj _ => true
  | _ => false

/-- The group of a field inside its object. -/
def fieldRank (field : String × Json) : Nat :=
  if field.1 == "name" then 0 else if field.2.isNested then 2 else 1

/-- Whether one field may stand before another. -/
def fieldLe (a b : String × Json) : Bool :=
  fieldRank a < fieldRank b || (fieldRank a == fieldRank b && a.1 ≤ b.1)

/-- The text in the field `name` of an object. -/
def recordName? : Json → Option String
  | .obj fields =>
    match lookup fields "name" with
    | some (.str name) => some name
    | _ => none
  | _ => none

/-- Whether one item may stand before another in an array of named
objects. -/
def nameLe (a b : Json) : Bool :=
  (recordName? a).getD "" ≤ (recordName? b).getD ""

/-- The items of an array in their order. -/
def sortItems (items : List Json) : List Json :=
  if items.all fun item => (recordName? item).isSome then items.mergeSort nameLe else items

mutual

/-- A value with every object and every array of named objects inside it
in order. -/
def sorted : Json → Json
  | .arr items => .arr (sortItems (sortedItems items))
  | .obj fields => .obj ((sortedFields fields).mergeSort fieldLe)
  | .null => .null
  | .bool b => .bool b
  | .int n => .int n
  | .real r => .real r
  | .str s => .str s

/-- Every item with its inside in order. -/
def sortedItems : List Json → List Json
  | [] => []
  | item :: items => sorted item :: sortedItems items

/-- Every field with the inside of its value in order. -/
def sortedFields : List (String × Json) → List (String × Json)
  | [] => []
  | (key, value) :: fields => (key, sorted value) :: sortedFields fields

end

end SchemaTypes.Json

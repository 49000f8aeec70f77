import SchemaTypes.TypeMap.Mapping
import SchemaTypes.Text.Case

/-!
# `SchemaTypes.Model.Basic`: generated types

A table gives two types, one for the rows that are read and one for the
rows that are inserted, and an enum gives one. A record keeps beside the
type itself what the targets need to order and to spell it: the name that
its variants share, the variant, and the values of an enum.

Records are ordered with enums first, because table types refer to them,
then by base name without regard to case, and the type for reading before
the type for inserting.
-/

set_option autoImplicit false

namespace SchemaTypes

/-- What a type was declared as. -/
inductive TypeKind where
  | table
  | enum
deriving Repr, DecidableEq, Inhabited

/-- The name of a kind. -/
def TypeKind.text : TypeKind → String
  | .table => "table"
  | .enum => "enum"

/-- The kind with a name. -/
def TypeKind.ofText? (text : String) : Option TypeKind :=
  if text == "table" then some .table
  else if text == "enum" then some .enum
  else none

/-- The variant of a declaration that a type stands for. -/
inductive Shape where
  | read
  | insert
  | enum
deriving Repr, DecidableEq, Inhabited

/-- The name of a variant. -/
def Shape.text : Shape → String
  | .read => "read"
  | .insert => "insert"
  | .enum => "enum"

/-- The variant with a name. -/
def Shape.ofText? (text : String) : Option Shape :=
  if text == "read" then some .read
  else if text == "insert" then some .insert
  else if text == "enum" then some .enum
  else none

/-- A property of a generated type, which comes from a column. -/
structure Property where
  name : String
  type : TypeMapping
  primary : Bool := false
  description : Option String := none
  sqlDef : Option String := none
  optional : Bool := false
  hasDefault : Bool := false
  isArray : Bool := false
  arrayDimensions : Nat := 0
deriving Repr, Inhabited, BEq

/-- A generated type. -/
structure TypeDef where
  name : String
  description : Option String := none
  kind : TypeKind
  primaryKey : Option String := none
  insertFor : Option String := none
  sqlTable : Option String := none
  sqlSchema : Option String := none
  props : List Property := []
deriving Repr, Inhabited, BEq

/-- A generated type with what its targets need besides. -/
structure TypeRecord where
  typeDef : TypeDef
  baseName : String
  shape : Shape
  enumValues : List String := []
deriving Repr, Inhabited, BEq

namespace TypeRecord

/-- The name of the type. -/
def name (r : TypeRecord) : String :=
  r.typeDef.name

/-- The group of a record: enums stand before tables. -/
def rank (r : TypeRecord) : Nat :=
  if r.shape = .enum then 1 else 2

/-- The place of a record among those of one base name. -/
def shapeOrder (r : TypeRecord) : Nat :=
  if r.shape = .insert then 1 else 0

/-- Whether one record may stand before another. -/
def le (a b : TypeRecord) : Bool :=
  if a.rank ≠ b.rank then a.rank < b.rank
  else if Text.lower a.baseName ≠ Text.lower b.baseName then
    Text.lower a.baseName < Text.lower b.baseName
  else if a.baseName ≠ b.baseName then a.baseName < b.baseName
  else a.shapeOrder ≤ b.shapeOrder

/-- Records in their order; equal ones keep the order they had. -/
def sort (records : List TypeRecord) : List TypeRecord :=
  records.mergeSort le

end TypeRecord

end SchemaTypes

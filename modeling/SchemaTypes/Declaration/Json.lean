import SchemaTypes.Declaration.Basic
import SchemaTypes.Json.Basic

/-!
# `SchemaTypes.Declaration.Json`: declarations as JSON

Every field of a declaration is written, with null for what is not
known, so that the listing shows what was understood of a schema.
-/

set_option autoImplicit false

namespace SchemaTypes

/-- A type as JSON, its element type inside it. -/
def DataType.toJson : DataType → Json
  | .named name => .obj [("name", .str name), ("array_of", .null)]
  | .array name element => .obj [("name", .str name), ("array_of", element.toJson)]

/-- A position, if it is known. -/
def Extent.position : Option Int → Json
  | some p => .int p
  | none => .null

/-- The two fields for a piece of the source. -/
def Extent.fields (e : Extent) : List (String × Json) :=
  [("start", position e.start), ("end", position e.stop)]

/-- A column as JSON. -/
def Column.toJson (c : Column) : Json :=
  .obj ([("name", .str c.name), ("data_type", c.dataType.toJson), ("not_null", .bool c.notNull),
    ("primary", .bool c.primary), ("has_default", .bool c.hasDefault)] ++ c.extent.fields)

/-- A table constraint as JSON. -/
def TableConstraint.toJson (c : TableConstraint) : Json :=
  .obj [("kind", .str c.kind.text), ("name", Json.strOrNull c.name),
    ("columns", Json.ofStrings c.columns)]

/-- A declaration as JSON. -/
def Declaration.toJson : Declaration → Json
  | .table t =>
    .obj ([("node", .str "TableDeclaration"), ("name", .str t.name),
      ("columns", .arr (t.columns.map Column.toJson)),
      ("constraints", .arr (t.constraints.map TableConstraint.toJson)),
      ("schema", Json.strOrNull t.schema)] ++ t.extent.fields)
  | .enum e =>
    .obj ([("node", .str "EnumDeclaration"), ("name", .str e.name),
      ("values", Json.ofStrings e.values), ("schema", Json.strOrNull e.schema)] ++
      e.extent.fields)
  | .unsupported kind extent =>
    .obj ([("node", .str "UnsupportedDeclaration"), ("kind", .str kind)] ++ extent.fields)
  | .foreign kind => .obj [("node", .str kind)]

end SchemaTypes

import SchemaTypes.Model.Basic

/-!
# `SchemaTypes.Model.Json`: generated types as JSON

Writing leaves out what is not set: null fields, flags that are off, the
dimensions of what is no array, and the property list of a type without
properties. Reading accepts each field under its written name and under
its name in snake case, and lists everything that is wrong at once.
-/

set_option autoImplicit false

namespace SchemaTypes

namespace Property

/-- A flag as a field, if it is on. -/
def flag (key : String) (on : Bool) : List (String × Json) :=
  if on then [(key, .bool true)] else []

/-- The fields of a property around the JSON of its type. Texts that are
not set are null. -/
def fieldsWith (p : Property) (type : Json) : List (String × Json) :=
  [("name", .str p.name), ("type", type)] ++ flag "primary" p.primary ++
    [("description", Json.strOrNull p.description), ("sqlDef", Json.strOrNull p.sqlDef)] ++
    flag "optional" p.optional ++ flag "hasDefault" p.hasDefault ++ flag "isArray" p.isArray ++
    (if p.arrayDimensions = 0 then [] else [("arrayDimensions", .int p.arrayDimensions)])

/-- A property as an object in which texts that are not set are null. -/
def toFullJson (p : Property) : Json :=
  .obj (p.fieldsWith (.obj p.type.fields))

/-- A property as an object of what is set. -/
def toJson (p : Property) : Json :=
  .obj (Json.dropNulls (p.fieldsWith p.type.toJson))

/-- The property that a list of fields describes. -/
def ofFields (fields : List (String × Json)) : Json.Checked Property :=
  Property.mk
    <$> Json.required fields "name" Json.checkText
    <*> Json.required fields "type" TypeMapping.ofJson
    <*> Json.optional fields "primary" false Json.checkSwitch
    <*> Json.optional fields "description" none Json.checkTextOrNull
    <*> Json.optionalEither fields "sqlDef" "sql_def" none Json.checkTextOrNull
    <*> Json.optional fields "optional" false Json.checkSwitch
    <*> Json.optionalEither fields "hasDefault" "has_default" false Json.checkSwitch
    <*> Json.optionalEither fields "isArray" "is_array" false Json.checkSwitch
    <*> Json.optionalEither fields "arrayDimensions" "array_dimensions" 0 Json.checkNatural

/-- The property that an object describes. -/
def ofJson : Json → Json.Checked Property :=
  Json.checkObject ofFields

end Property

namespace TypeDef

/-- The fields of a type before its properties, null for what is not
set. -/
def headFields (t : TypeDef) : List (String × Json) :=
  [("name", .str t.name), ("description", Json.strOrNull t.description),
   ("kind", .str t.kind.text), ("primaryKey", Json.strOrNull t.primaryKey),
   ("insertFor", Json.strOrNull t.insertFor), ("sqlTable", Json.strOrNull t.sqlTable),
   ("sqlSchema", Json.strOrNull t.sqlSchema)]

/-- A type as an object of what is set, each property written by
`item`. -/
def toJsonWith (item : Property → Json) (t : TypeDef) : Json :=
  .obj (Json.dropNulls t.headFields ++
    (if t.props.isEmpty then [] else [("props", .arr (t.props.map item))]))

/-- A type as an object of what is set. -/
def toJson (t : TypeDef) : Json :=
  t.toJsonWith Property.toJson

/-- A type as an object in which a property is only its name. -/
def toShortJson (t : TypeDef) : Json :=
  t.toJsonWith fun p => .str p.name

/-- The kind of a type. -/
def checkKind : Json → Json.Checked TypeKind
  | .str s =>
    match TypeKind.ofText? s with
    | some kind => .valid kind
    | none => .refuse .notMember
  | _ => .refuse .notMember

/-- The type that a list of fields describes. -/
def ofFields (fields : List (String × Json)) : Json.Checked TypeDef :=
  TypeDef.mk
    <$> Json.required fields "name" Json.checkText
    <*> Json.optional fields "description" none Json.checkTextOrNull
    <*> Json.required fields "kind" checkKind
    <*> Json.optionalEither fields "primaryKey" "primary_key" none Json.checkTextOrNull
    <*> Json.optionalEither fields "insertFor" "insert_for" none Json.checkTextOrNull
    <*> Json.optionalEither fields "sqlTable" "sql_table" none Json.checkTextOrNull
    <*> Json.optionalEither fields "sqlSchema" "sql_schema" none Json.checkTextOrNull
    <*> Json.optional fields "props" [] (Json.checkList Property.ofJson)

/-- The type that an object describes. -/
def ofJson : Json → Json.Checked TypeDef :=
  Json.checkObject ofFields

end TypeDef

end SchemaTypes

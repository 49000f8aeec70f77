import SchemaTypes.Json.Decode

/-!
# `SchemaTypes.TypeMap.Mapping`: how one column type is spelled

A mapping gives the name of a type in the generated code and, where a
target spells it differently, that target's spelling. Fields that no
target knows are kept as they were written, so that they come back in
the computed type map.
-/

set_option autoImplicit false

namespace SchemaTypes

/-- How one column type is spelled in every target. -/
structure TypeMapping where
  name : String := "string"
  ts : Option String := none
  zod : Option String := none
  convo : Option String := none
  sql : Option String := none
  extras : List (String × Json) := []
deriving Repr, Inhabited, BEq

namespace TypeMapping

/-- The TypeScript type. -/
def tsType (m : TypeMapping) : String :=
  m.ts.getD m.name

/-- The Zod validator. -/
def zodType (m : TypeMapping) : String :=
  m.zod.getD ("z." ++ m.name ++ "()")

/-- The Convo-Lang type. -/
def convoType (m : TypeMapping) : String :=
  m.convo.getD m.name

/-- The fields with a meaning of their own. -/
def knownFields : List String := ["name", "ts", "zod", "convo", "sql"]

/-- Every field of a mapping, with null for what is not set. -/
def fields (m : TypeMapping) : List (String × Json) :=
  [("name", .str m.name), ("ts", Json.strOrNull m.ts), ("zod", Json.strOrNull m.zod),
   ("convo", Json.strOrNull m.convo), ("sql", Json.strOrNull m.sql)] ++ m.extras

/-- The fields of a mapping that are set. -/
def setFields (m : TypeMapping) : List (String × Json) :=
  Json.dropNulls m.fields

/-- A mapping as an object of the fields that are set. Numbers that are
not finite have no place in a document and are written as null. -/
def toJson (m : TypeMapping) : Json :=
  .obj (Json.finiteFields m.setFields)

/-- The mapping that a list of fields describes. -/
def ofFields (fields : List (String × Json)) : Json.Checked TypeMapping :=
  let spelling (key : String) := Json.optional fields key none Json.checkTextOrNull
  let extras := fields.filter fun field => !knownFields.contains field.1
  (fun name ts zod convo sql => (⟨name, ts, zod, convo, sql, extras⟩ : TypeMapping))
    <$> Json.optional fields "name" "string" Json.checkText
    <*> spelling "ts" <*> spelling "zod" <*> spelling "convo" <*> spelling "sql"

/-- The mapping that an object describes. -/
def ofJson : Json → Json.Checked TypeMapping :=
  Json.checkObject ofFields

end TypeMapping

end SchemaTypes

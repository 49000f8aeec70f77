import SchemaTypes.Declaration.Json
import SchemaTypes.Emit.Zod
import SchemaTypes.Json.Order
import SchemaTypes.Model.Build
import SchemaTypes.Model.Json

/-!
# `SchemaTypes.Emit.Documents`: JSON documents and the type index

The documents other than the listing of declarations are put in order
before they are written. The type index is a TypeScript module around
such a document, and so is one form of the table map.
-/

set_option autoImplicit false

namespace SchemaTypes.Emit

/-- The types of a model by name. -/
def typeListPayload (item : TypeDef → Json) (model : TypeModel) : Json :=
  let types := (model.records.map TypeRecord.typeDef).mergeSort fun a b => a.name ≤ b.name
  (Json.arr (types.map item)).sorted

/-- The list of types. -/
def typeList (model : TypeModel) : String :=
  (typeListPayload TypeDef.toJson model).pretty ++ "\n"

/-- The list of types with properties given by name only. -/
def shortTypeList (model : TypeModel) : String :=
  (typeListPayload TypeDef.toShortJson model).pretty ++ "\n"

/-- The mappings by type name. -/
def typeMapPayload (model : TypeModel) : Json :=
  (Json.obj (model.typeMap.map fun entry => (entry.1, entry.2.toJson))).sorted

/-- The computed type map. -/
def typeMapDocument (model : TypeModel) : String :=
  (typeMapPayload model).pretty ++ "\n"

/-- The table map in order. -/
def tableMapPayload (model : TypeModel) : Json :=
  model.tableMap.toJson.sorted

/-- The table map. -/
def tableMapDocument (model : TypeModel) : String :=
  (tableMapPayload model).pretty ++ "\n"

/-- The table map as an exported constant. -/
def tableMapModule (model : TypeModel) : String :=
  "export const tableMap=" ++ (tableMapPayload model).pretty ++ ";\n"

/-- The listing of declarations. -/
def declarationList (declarations : List Declaration) : String :=
  (Json.arr (declarations.map Declaration.toJson)).pretty ++ "\n"

/-- The interface of the entries of the type index. -/
def indexHeader : String :=
  joinText ["/**",
    " * Links a generated interface and its Zod schema to the declaration it came from",
    " */", "export interface TypeDescription", "\x7b", "    name:string;",
    "    interfaceName:string;", "    schemaName:string;", "    kind:\"table\"|\"enum\";",
    "    typeDef:Record<string,any>;", "\x7d"]

/-- The entry of a type in the type index. -/
def indexEntry (t : TypeDef) : Json :=
  .obj [("name", .str t.name), ("interfaceName", .str t.name),
    ("schemaName", .str (schemaName t.name)), ("kind", .str t.kind.text),
    ("typeDef", t.toJson)]

/-- The entries of the type index; of two types with one name the later
is kept. -/
def typeIndexPayload (model : TypeModel) : Json :=
  let entries := (TypeRecord.sort model.records).map fun r => (r.name, indexEntry r.typeDef)
  (Json.obj (Json.setFields entries [])).sorted

/-- The type index. -/
def typeIndex (model : TypeModel) : String :=
  indexHeader ++ "\n\nexport const typeDescriptions:Record<string,TypeDescription>=" ++
    (typeIndexPayload model).pretty ++ ";\n"

end SchemaTypes.Emit

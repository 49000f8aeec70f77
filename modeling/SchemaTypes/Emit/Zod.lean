import SchemaTypes.Emit.TypeScript

/-!
# `SchemaTypes.Emit.Zod`: Zod schemas

Every type has a schema constant named after it. The schema of a property
is that of its type, then one `.array()` for each dimension, then the mark
of a property that may be left out, then its description.
-/

set_option autoImplicit false

namespace SchemaTypes.Emit

/-- The import in front of the schemas. -/
def zodHeader : String := "import \x7b z \x7d from \"zod\";\n\n"

/-- The name of the schema of a type. -/
def schemaName (typeName : String) : String :=
  typeName ++ "Schema"

/-- The call that attaches a description, if there is one. -/
def describe (description : Option String) : String :=
  match present? description with
  | some text => ".describe(" ++ Json.quote text ++ ")"
  | none => ""

/-- The schema of a property. -/
def propertySchema (p : Property) : String :=
  p.type.zodType ++ String.join (List.replicate p.arrayDimensions ".array()") ++
    (if p.optional then ".optional()" else "") ++ describe p.description

/-- The line of a property in an object schema. -/
def schemaProperty (p : Property) : String :=
  indent ++ propertyKey p.name ++ ":" ++ propertySchema p ++ ","

/-- The schema of a table type. -/
def objectSchema (r : TypeRecord) : String :=
  let t := r.typeDef
  joinText (["/**", " * Zod schema for the \"" ++ t.name ++ "\" interface"] ++ tableTags t ++
    [" */", "export const " ++ schemaName t.name ++ "=z.object(\x7b"] ++
    t.props.map schemaProperty ++ ["\x7d)" ++ describe t.description ++ ";"])

/-- The schema of an enum. -/
def enumSchema (r : TypeRecord) : String :=
  let t := r.typeDef
  let schema :=
    if r.enumValues.isEmpty then "z.never()"
    else "z.enum([" ++ Text.joinWith "," (r.enumValues.map Json.quote) ++ "])"
  joinText (["/**"] ++ ((present? t.description).map docLines).toList ++
    [" * Zod schema for the \"" ++ t.name ++ "\" union", " */",
     "export const " ++ schemaName t.name ++ "=" ++ schema ++ describe t.description ++ ";"])

/-- The schemas of all types. -/
def zod (records : List TypeRecord) : String :=
  joinBlocks ((TypeRecord.sort records).map fun r =>
    if r.shape = .enum then enumSchema r else objectSchema r) zodHeader

end SchemaTypes.Emit

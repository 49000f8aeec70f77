import SchemaTypes.Emit.Layout
import SchemaTypes.Json.Printer

/-!
# `SchemaTypes.Emit.Convo`: Convo-Lang definitions

A table type is a struct and an enum is an enum of string literals. An
array type is its element type inside `array(…)`, once for each
dimension.
-/

set_option autoImplicit false

namespace SchemaTypes.Emit

/-- The command in front of the definitions. -/
def convoHeader : String := "> define\n\n"

/-- A type inside a number of array levels. -/
def arrayType (type : String) : Nat → String
  | 0 => type
  | depth + 1 => "array(" ++ arrayType type depth ++ ")"

/-- The lines of a property of a struct. -/
def structProperty (p : Property) : List String :=
  ((present? p.description).map (hashComment · indent)).toList ++
    [indent ++ p.name ++ (if p.optional then "?" else "") ++ ": " ++
      arrayType p.type.convoType p.arrayDimensions]

/-- The struct of a table type. -/
def structText (r : TypeRecord) : String :=
  let t := r.typeDef
  joinText (((present? t.description).map hashComment).toList ++
    (tableFacts t).map (fun fact => "# " ++ fact.1 ++ ": " ++ fact.2) ++
    [t.name ++ " = struct("] ++ t.props.flatMap structProperty ++ [")"])

/-- The enum of an enum type. -/
def enumText (r : TypeRecord) : String :=
  let t := r.typeDef
  joinText (((present? t.description).map hashComment).toList ++
    [t.name ++ " = enum(" ++ Text.joinWith " " (r.enumValues.map Json.quote) ++ ")"])

/-- The definitions of all types. -/
def convo (records : List TypeRecord) : String :=
  joinBlocks ((TypeRecord.sort records).map fun r =>
    if r.shape = .enum then enumText r else structText r) convoHeader

end SchemaTypes.Emit

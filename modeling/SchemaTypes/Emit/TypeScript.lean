import SchemaTypes.Emit.Layout
import SchemaTypes.Json.Printer
import SchemaTypes.Text.Word

/-!
# `SchemaTypes.Emit.TypeScript`: TypeScript declarations

A table type is an interface and an enum is a union of string literals.
A property name that is no identifier is written as a string literal. An
identifier may be followed by a single newline and is then still written
as it is.
-/

set_option autoImplicit false

namespace SchemaTypes.Emit

/-- Whether a character may start a property name that is not quoted. -/
def startsIdentifier (c : Char) : Bool :=
  ('A' ≤ c && c ≤ 'Z') || ('a' ≤ c && c ≤ 'z') || c == '_' || c == '$'

/-- Whether a character may go on in a property name that is not
quoted. -/
def continuesIdentifier (c : Char) : Bool :=
  Text.isWordChar c || c == '$'

/-- Whether a text is an identifier. -/
def isIdentifier : List Char → Bool
  | [] => false
  | c :: rest => startsIdentifier c && rest.all continuesIdentifier

/-- The text without one newline at its end. -/
def dropFinalNewline (s : List Char) : List Char :=
  if s.getLast? == some '\n' then s.dropLast else s

/-- A property name as it is written. -/
def propertyKey (name : String) : String :=
  if isIdentifier (dropFinalNewline name.toList) then name else Json.quote name

/-- The tags in the comment of a table type. -/
def tableTags (t : TypeDef) : List String :=
  (tableFacts t).map fun fact => " * @" ++ fact.1 ++ " " ++ fact.2

/-- The mark of a property that may be left out. -/
def optionalMark (p : Property) : String :=
  if p.optional then "?" else ""

/-- The lines of a property of an interface. -/
def interfaceProperty (p : Property) : List String :=
  ((present? p.description).map (docBlock · indent)).toList ++
    [indent ++ propertyKey p.name ++ optionalMark p ++ ":" ++ p.type.tsType ++
      String.join (List.replicate p.arrayDimensions "[]") ++ ";"]

/-- The interface of a table type. -/
def interfaceText (r : TypeRecord) : String :=
  let t := r.typeDef
  joinText (["/**"] ++ ((present? t.description).map docLines).toList ++ tableTags t ++ [" */"] ++
    ["export interface " ++ t.name, "\x7b"] ++ t.props.flatMap interfaceProperty ++ ["\x7d"])

/-- The union of an enum; without values nothing belongs to it. -/
def unionText (r : TypeRecord) : String :=
  let t := r.typeDef
  let union :=
    if r.enumValues.isEmpty then "never" else Text.joinWith "|" (r.enumValues.map Json.quote)
  joinText (((present? t.description).map docBlock).toList ++
    ["export type " ++ t.name ++ "=" ++ union ++ ";"])

/-- The declarations of all types. -/
def typeScript (records : List TypeRecord) : String :=
  joinBlocks ((TypeRecord.sort records).map fun r =>
    if r.shape = .enum then unionText r else interfaceText r)

end SchemaTypes.Emit

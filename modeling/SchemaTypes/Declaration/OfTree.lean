import SchemaTypes.Declaration.Basic
import SchemaTypes.Sql.Statement
import SchemaTypes.Sql.Tree
import SchemaTypes.Text.Case
import SchemaTypes.Text.Lines

/-!
# `SchemaTypes.Declaration.OfTree`: declarations from statements

A statement is its tokens with the tree that was made of them, if any.
Enums are recognised on the tokens alone; a table needs a tree. A table
or enum that lacks a required part is malformed. A column whose type has
no name of its own ends the reading of the whole source.

The positions of columns come from the tokens, not from the tree: when
the tokens show as many elements as the tree has, each element has the
span at its place, and otherwise no column has a position.
-/

set_option autoImplicit false

namespace SchemaTypes

/-- What a table or enum declaration lacks. -/
inductive Malformed where
  | enumWithoutName
  | enumWithoutValues (name : String)
  | tableWithoutName
  | tableWithoutColumns (name : String)
  | columnWithoutType (table column : String)
deriving Repr, DecidableEq, Inhabited

/-- What is said of a malformed declaration. -/
def Malformed.message : Malformed → String
  | .enumWithoutName => "Enum declaration has no name"
  | .enumWithoutValues name => "Enum '" ++ name ++ "' has no value list"
  | .tableWithoutName => "Table declaration has no name"
  | .tableWithoutColumns name => "Table '" ++ name ++ "' has no column list"
  | .columnWithoutType table column =>
    "Column '" ++ column ++ "' of table '" ++ table ++ "' has no type"

/-- The particulars of a malformed declaration by name. -/
def Malformed.details : Malformed → List (String × String)
  | .enumWithoutName => []
  | .enumWithoutValues name => [("name", name)]
  | .tableWithoutName => []
  | .tableWithoutColumns name => [("name", name)]
  | .columnWithoutType table column => [("table", table), ("column", column)]

namespace Declaration

open Sql (Token Tree Span)

/-- Why a statement gives no declaration. -/
inductive Obstacle where
  | malformed (what : Malformed)
  /-- A column has a type without a name of its own. -/
  | untypable
  /-- A key column has a direction but no name. -/
  | unnamed
  /-- The statement has no tokens and so no place in the source. -/
  | noTokens
deriving Repr, DecidableEq, Inhabited

/-- The extent of a span. -/
def extentOf (span : Span) : Extent :=
  ⟨some span.start, some span.stop⟩

/-- The extent of a statement, which has at least one token. -/
def statementExtent : List Token → Except Obstacle Extent
  | [] => .error .noTokens
  | tokens => .ok (extentOf (Sql.tokenSpan tokens))

/-- The name of a tree. -/
def nameOf (tree : Tree) : Except Obstacle String :=
  match tree.name? with
  | some name => .ok name
  | none => .error .unnamed

/-- The name of a built-in type in lower case. The type that stands for
all user-defined ones has none. -/
def builtinName (name : String) : String :=
  if name == "USERDEFINED" then "" else Text.lower name

/-- The spelling of a tree that has no name. -/
def spelling : Tree → String
  | .notNull allowNull => if allowNull then "null" else "not null"
  | .primaryKeyColumn => "primary key"
  | .default => "default "
  | .identity => "generated as identity"
  | .unique => "unique"
  | .check => "check ()"
  | .identifier _ => "\"\""
  | .column _ => "\"\""
  | _ => ""

/-- The column type that a tree denotes. The name of a user-defined type
is what follows its last dot, without quotes. What is no type counts as
one with the same name or, if it has none, the same spelling. -/
def dataType : Tree → Except Obstacle DataType
  | .dataType name (element :: _) =>
    if name == "ARRAY" then (dataType element).map (.array "array" ·)
    else .ok (.named (builtinName name))
  | .dataType name [] => .ok (.named (builtinName name))
  | .userDefined spelling =>
    .ok (.named (String.ofList (Text.stripChar '"' (Text.afterLast '.' spelling.toList))))
  | .untypable => .error .untypable
  | tree =>
    (nameOf tree).map fun name =>
      .named (if name.isEmpty then spelling tree else Text.lower name)

/-- The constraint inside its wrapping, if it is wrapped. -/
def innerConstraint : Tree → Option Tree
  | .columnConstraint kind => kind
  | tree => some tree

/-- Whether nulls are excluded after one more constraint: the last word
counts. -/
def excludesNull (before : Bool) (constraint : Tree) : Bool :=
  match innerConstraint constraint with
  | some (.notNull allowNull) => !allowNull
  | _ => before

/-- Whether a constraint makes its column the primary key. -/
def isPrimary (constraint : Tree) : Bool :=
  match innerConstraint constraint with
  | some .primaryKeyColumn => true
  | _ => false

/-- Whether a constraint supplies a value. -/
def suppliesValue (constraint : Tree) : Bool :=
  match innerConstraint constraint with
  | some .default => true
  | some .identity => true
  | _ => false

/-- The types whose values the database supplies. -/
def serialTypes : List String := ["serial", "smallserial", "bigserial"]

/-- The column that an element of a table declares. -/
def column (table : String) (name : String) (type : Option Tree) (constraints : List Tree)
    (span : Option Span) : Except Obstacle Column :=
  match type with
  | some type =>
    if name.isEmpty then .error (.malformed (.columnWithoutType table name))
    else
      (dataType type).map fun dataType =>
        { name
          dataType
          notNull := constraints.foldl excludesNull false
          primary := constraints.any isPrimary
          hasDefault := constraints.any suppliesValue || serialTypes.contains dataType.name
          extent := (span.map extentOf).getD {} }
  | none => .error (.malformed (.columnWithoutType table name))

/-- The key columns that trees name. Trees without a name are passed
over. -/
def keyColumns (trees : List Tree) : Except Obstacle (List String) := do
  let names ← trees.mapM nameOf
  return names.filter fun name => !name.isEmpty

/-- The constraint that a tree states, if it is of a kind that matters. -/
def knownConstraint (name : Option String) : Tree → Option (Except Obstacle TableConstraint)
  | .primaryKey columns => some ((keyColumns columns).map (⟨.primaryKey, name, ·⟩))
  | .foreignKey columns => some ((keyColumns columns).map (⟨.foreignKey, name, ·⟩))
  | .unique => some (.ok ⟨.unique, name, []⟩)
  | .check => some (.ok ⟨.check, name, []⟩)
  | _ => none

/-- The constraint that an element of a table states. A named constraint
is of the kind of the first of its parts that matters. -/
def constraintOf (element : Tree) : Except Obstacle TableConstraint :=
  let (name, parts) : Option String × List Tree :=
    match element with
    | .constraint name parts => (name.filter fun text => !text.isEmpty, parts)
    | _ => (none, [element])
  (parts.findSome? (knownConstraint name)).getD
    (.ok ⟨.other ((parts.head?.map Tree.form).getD element.form), name, []⟩)

/-- An element of a table. -/
inductive Element where
  | column (c : Column)
  | constraint (c : TableConstraint)
deriving Repr, DecidableEq, Inhabited

/-- The element of a table that a tree declares. -/
def element (table : String) (tree : Tree) (span : Option Span) : Except Obstacle Element :=
  match tree with
  | .columnDef name type constraints =>
    (column table (name.getD "") type constraints span).map .column
  | _ => (constraintOf tree).map .constraint

/-- The column of an element. -/
def Element.column? : Element → Option Column
  | .column c => some c
  | .constraint _ => none

/-- The constraint of an element. -/
def Element.constraint? : Element → Option TableConstraint
  | .column _ => none
  | .constraint c => some c

/-- The spans of a number of elements, if the tokens show as many. -/
def spansFor (tokens : List Token) (count : Nat) : List (Option Span) :=
  let spans := Sql.elementSpans tokens
  if spans.length = count then spans.map some else List.replicate count none

/-- The table that a statement declares. `target` is what it creates. -/
def tableOf (tokens : List Token) (target : Option Tree) : Except Obstacle Declaration :=
  let (named, elements) :=
    match target with
    | some (.schema inner elements) => (inner, some elements)
    | _ => (target, none)
  match named with
  | some (.table (some name) schema) =>
    if name.isEmpty then .error (.malformed .tableWithoutName)
    else
      match elements with
      | none => .error (.malformed (.tableWithoutColumns name))
      | some trees => do
        let parts ← (trees.zip (spansFor tokens trees.length)).mapM fun pair =>
          element name pair.1 pair.2
        let extent ← statementExtent tokens
        return .table
          { name
            columns := parts.filterMap Element.column?
            constraints := parts.filterMap Element.constraint?
            schema := schema.filter fun schema => !schema.isEmpty
            extent }
  | _ => .error (.malformed .tableWithoutName)

/-- The tokens of an enum statement before and after its words `as enum`,
if the tokens form one. -/
def enumParts? (tokens : List Token) : Option (List Token × List Token) :=
  let word (token : Token) : String := Text.upper token.text
  match tokens with
  | first :: second :: rest =>
    let name := rest.takeWhile fun token => word token != "AS"
    match rest.drop name.length with
    | _ :: third :: body =>
      if word first == "CREATE" && word second == "TYPE" && word third == "ENUM" then
        some (name, body)
      else
        none
    | _ => none
  | _ => none

/-- The tokens between an opening and a closing parenthesis at either end
of a list. -/
def inParens? (tokens : List Token) : Option (List Token) :=
  match tokens with
  | first :: rest =>
    match rest.getLast? with
    | some last =>
      if first.kind = .openParen ∧ last.kind = .closeParen then some rest.dropLast else none
    | none => none
  | [] => none

/-- The enum that a statement declares, if it is an enum statement. -/
def enum? (tokens : List Token) : Option (Except Malformed EnumType) :=
  (enumParts? tokens).map fun parts =>
    let names := (parts.1.filter fun token => token.kind != .dot).map Token.text
    match names.reverse with
    | [] => .error .enumWithoutName
    | name :: qualifiers =>
      match inParens? parts.2 with
      | none => .error (.enumWithoutValues name)
      | some body =>
        .ok
          { name
            values := (body.filter fun token => token.kind == .text).map Token.text
            schema := qualifiers.head?
            extent := extentOf (Sql.tokenSpan tokens) }

/-- The kind of a statement that is not supported: its first two words. -/
def statementKind (tokens : List Token) : String :=
  Text.lower (Text.joinWith " " ((tokens.take 2).map fun token => Text.upper token.text))

/-- Whether a tree is a statement that creates a table, and what it
creates. -/
def tableTarget? : Option Tree → Option (Option Tree)
  | some (.create kind target) =>
    if Text.upper (kind.getD "") == "TABLE" then some target else none
  | _ => none

/-- The declaration of a statement. -/
def ofStatement (tokens : List Token) (tree : Option Tree) : Except Obstacle Declaration :=
  match enum? tokens with
  | some (.ok e) => .ok (.enum e)
  | some (.error what) => .error (.malformed what)
  | none =>
    match tableTarget? tree with
    | some target => tableOf tokens target
    | none => (statementExtent tokens).map (.unsupported (statementKind tokens))

end Declaration

end SchemaTypes

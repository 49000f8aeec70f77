/-!
# `SchemaTypes.Sql.Tree`: the shape of a statement

A tree keeps of a statement what bears on its declaration: for a table
its name and elements, for a column its type and constraints, for a key
its columns. Everything else is a node that is known only by the name of
its form and by the name of what it denotes.
-/

set_option autoImplicit false

namespace SchemaTypes.Sql

/-- The shape of a statement or of a part of one. -/
inductive Tree where
  /-- A statement that creates something of the named kind. -/
  | create (kind : Option String) (target : Option Tree)
  /-- A name with a list of elements. -/
  | schema (target : Option Tree) (elements : List Tree)
  | table (name schema : Option String)
  | identifier (name : String)
  | column (name : String)
  | literal (text : String)
  /-- A key column with a direction. -/
  | ordered (target : Option Tree)
  | columnDef (name : Option String) (type : Option Tree) (constraints : List Tree)
  | columnConstraint (kind : Option Tree)
  /-- The constraint `not null`, or `null` where nulls are allowed. -/
  | notNull (allowNull : Bool)
  | primaryKeyColumn
  | default
  | identity
  | unique
  | check
  /-- A built-in type by its canonical name, with its arguments. -/
  | dataType (name : String) (arguments : List Tree)
  /-- A type that the schema or an extension declares. -/
  | userDefined (spelling : String)
  /-- A type that has no name of its own. -/
  | untypable
  | constraint (name : Option String) (expressions : List Tree)
  | primaryKey (columns : List Tree)
  | foreignKey (columns : List Tree)
  /-- Any other form, with the name of what it denotes, which is empty if
  that has none. -/
  | other (form : String) (name : String := "")
deriving Repr, Inhabited, BEq

namespace Tree

/-- The name of what a tree denotes; empty if it denotes nothing that has
a name. A key column with a direction has the name of its target, and
without a target there is nothing to ask for a name. -/
def name? : Tree → Option String
  | .table name _ => some (name.getD "")
  | .identifier name => some name
  | .column name => some name
  | .literal text => some text
  | .columnDef name _ _ => some (name.getD "")
  | .constraint name _ => some (name.getD "")
  | .ordered (some target) => target.name?
  | .ordered none => none
  | .other _ name => some name
  | _ => some ""

/-- The name of what a tree denotes, or the empty text. -/
def name (tree : Tree) : String :=
  tree.name?.getD ""

/-- The name of the form of a tree. -/
def form : Tree → String
  | .create .. => "create"
  | .schema .. => "schema"
  | .table .. => "table"
  | .identifier _ => "identifier"
  | .column _ => "column"
  | .literal _ => "literal"
  | .ordered _ => "ordered"
  | .columnDef .. => "columndef"
  | .columnConstraint _ => "columnconstraint"
  | .notNull _ => "notnullcolumnconstraint"
  | .primaryKeyColumn => "primarykeycolumnconstraint"
  | .default => "defaultcolumnconstraint"
  | .identity => "generatedasidentitycolumnconstraint"
  | .unique => "uniquecolumnconstraint"
  | .check => "checkcolumnconstraint"
  | .dataType .. => "datatype"
  | .userDefined _ => "datatype"
  | .untypable => "objectidentifier"
  | .constraint .. => "constraint"
  | .primaryKey _ => "primarykey"
  | .foreignKey _ => "foreignkey"
  | .other form _ => form

end Tree

end SchemaTypes.Sql

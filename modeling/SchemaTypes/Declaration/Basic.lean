/-!
# `SchemaTypes.Declaration.Basic`: what a schema declares

A schema is a list of declarations: tables with their columns and
constraints, enums with their values, and statements of any other kind,
of which only the leading words are kept. `foreign` is a declaration of a
kind that the library does not know; no statement gives one, but a list
of declarations may come from elsewhere.

Positions count the characters of the source; `stop` is the first
position after a part. A position may be missing, and it is not required
to lie inside the source.
-/

set_option autoImplicit false

namespace SchemaTypes

/-- The type of a column. An array has a name of its own beside the type
of its elements. -/
inductive DataType where
  | named (name : String)
  | array (name : String) (element : DataType)
deriving Repr, DecidableEq, Inhabited

namespace DataType

/-- The name of a type itself, not that of its elements. -/
def name : DataType → String
  | .named name => name
  | .array name _ => name

/-- The name of the innermost element type. -/
def base : DataType → String
  | .named name => name
  | .array _ element => element.base

/-- The number of array levels around the innermost element type. -/
def depth : DataType → Nat
  | .named _ => 0
  | .array _ element => element.depth + 1

end DataType

/-- A piece of the source, if it is known. -/
structure Extent where
  start : Option Int := none
  stop : Option Int := none
deriving Repr, DecidableEq, Inhabited

/-- A column of a table. -/
structure Column where
  name : String
  dataType : DataType
  notNull : Bool := false
  primary : Bool := false
  hasDefault : Bool := false
  extent : Extent := {}
deriving Repr, DecidableEq, Inhabited

/-- What a table constraint demands. Kinds that have no bearing on the
generated types are kept by their name. -/
inductive ConstraintKind where
  | primaryKey
  | foreignKey
  | unique
  | check
  | other (name : String)
deriving Repr, DecidableEq, Inhabited

/-- The name of a kind of constraint. -/
def ConstraintKind.text : ConstraintKind → String
  | .primaryKey => "primary key"
  | .foreignKey => "foreign key"
  | .unique => "unique"
  | .check => "check"
  | .other name => name

/-- The kind of constraint with a name. -/
def ConstraintKind.ofText (text : String) : ConstraintKind :=
  if text == "primary key" then .primaryKey
  else if text == "foreign key" then .foreignKey
  else if text == "unique" then .unique
  else if text == "check" then .check
  else .other text

/-- A constraint of a table as a whole. -/
structure TableConstraint where
  kind : ConstraintKind
  name : Option String := none
  columns : List String := []
deriving Repr, DecidableEq, Inhabited

/-- The declaration of a table. -/
structure Table where
  name : String
  columns : List Column
  constraints : List TableConstraint := []
  schema : Option String := none
  extent : Extent := {}
deriving Repr, DecidableEq, Inhabited

/-- The columns named by the primary-key constraints of a table. -/
def Table.primaryKeys (t : Table) : List String :=
  t.constraints.flatMap fun c => if c.kind = .primaryKey then c.columns else []

/-- The declaration of an enum. -/
structure EnumType where
  name : String
  values : List String
  schema : Option String := none
  extent : Extent := {}
deriving Repr, DecidableEq, Inhabited

/-- A statement of a schema. -/
inductive Declaration where
  | table (t : Table)
  | enum (e : EnumType)
  | unsupported (kind : String) (extent : Extent)
  | foreign (kind : String)
deriving Repr, DecidableEq, Inhabited

end SchemaTypes

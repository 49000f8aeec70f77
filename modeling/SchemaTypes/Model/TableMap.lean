import SchemaTypes.Model.Basic

/-!
# `SchemaTypes.Model.TableMap`: tables and their types

Two look-up tables. A storage table leads to the type for reading its
rows, and the types of both variants lead back to it. A later entry under
the same name takes the place of an earlier one. Enums and types without
a table are left out.
-/

set_option autoImplicit false

namespace SchemaTypes

/-- From tables to types and back. -/
structure TableMap where
  toName : List (String × String) := []
  toTable : List (String × String) := []
deriving Repr, DecidableEq, Inhabited

namespace TableMap

/-- The look-up tables with the entries of one record. -/
def insert (m : TableMap) (r : TypeRecord) : TableMap :=
  let table := r.typeDef.sqlTable.getD ""
  if r.shape = .enum || table.isEmpty then m
  else
    { toName := if r.shape = .read then Json.setField table r.name m.toName else m.toName
      toTable := Json.setField r.name table m.toTable }

/-- The look-up tables of a list of records. -/
def ofRecords (records : List TypeRecord) : TableMap :=
  records.foldl insert {}

/-- The look-up tables as JSON. -/
def toJson (m : TableMap) : Json :=
  let object (entries : List (String × String)) : Json :=
    .obj (entries.map fun entry => (entry.1, .str entry.2))
  .obj [("toName", object m.toName), ("toTable", object m.toTable)]

end TableMap

end SchemaTypes

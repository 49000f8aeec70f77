import SchemaTypes.Declaration.Basic
import SchemaTypes.Model.Comment
import SchemaTypes.Model.Naming
import SchemaTypes.Model.TableMap
import SchemaTypes.Text.Slice
import SchemaTypes.TypeMap.Basic

/-!
# `SchemaTypes.Model.Build`: types from declarations

Declarations are gone through twice. The first pass makes a record of
every enum and registers its name in the type map; the second makes the
two records of every table. A column may therefore have the type of an
enum that is declared after its table.

The state of a build outlives the list of declarations: records and
registered enums gather over several lists. It also outlives a failure,
so `run` gives the state that was reached beside the outcome.
-/

set_option autoImplicit false

namespace SchemaTypes

/-- The records and look-up tables that the targets are written from. -/
structure TypeModel where
  records : List TypeRecord
  typeMap : List (String × TypeMapping)
  tableMap : TableMap
deriving Repr, Inhabited, BEq

namespace Build

/-- The suffix of insertion types where none is set. -/
def defaultSuffix : String := "Insertion"

/-- What stays the same over a build. -/
structure Settings where
  source : List Char
  suffix : String := defaultSuffix
  side : Comment.Side := .above
deriving Repr, Inhabited

/-- What a build gathers. -/
structure State where
  records : List TypeRecord := []
  typeMap : TypeMap
deriving Repr, Inhabited, BEq

/-- The comment beside a position of the source. -/
def Settings.comment (s : Settings) (position : Option Int) : Option String :=
  Comment.recover s.source position s.side

/-- The source text of a part, if both its ends are known. -/
def Settings.text (s : Settings) (extent : Extent) : Option String :=
  match extent.start, extent.stop with
  | some start, some stop => some (String.ofList (Text.slice s.source start stop))
  | _, _ => none

/-- Whether a column must be given in a variant of its table. A column
that may not be null or is part of the primary key must be, except that
on insertion the database supplies a default. -/
def isRequired (column : Column) (primary : Bool) (shape : Shape) : Bool :=
  (column.notNull || primary) && !(shape == .insert && column.hasDefault)

/-- The record of an enum. -/
def enumRecord (s : Settings) (e : EnumType) : TypeRecord :=
  let name := Naming.typeName e.name
  { typeDef :=
      { name, kind := .enum, description := s.comment e.extent.start, sqlSchema := e.schema }
    baseName := name
    shape := .enum
    enumValues := e.values }

/-- A property from a column. Only the variant for reading carries the
comment of the column. -/
def property (s : Settings) (m : TypeMap) (keys : List String) (shape : Shape)
    (column : Column) : Property :=
  let mapping := m.resolve column.dataType.base
  let primary := column.primary || keys.contains column.name
  { name := column.name
    type := { mapping with ts := some mapping.tsType, sql := some column.dataType.base }
    primary
    description := if shape = .read then s.comment column.extent.start else none
    sqlDef := s.text column.extent
    optional := !isRequired column primary shape
    hasDefault := column.hasDefault
    isArray := 0 < column.dataType.depth
    arrayDimensions := column.dataType.depth }

/-- The record of one variant of a table. -/
def tableRecord (s : Settings) (m : TypeMap) (t : Table) (shape : Shape) : TypeRecord :=
  let base := Naming.typeName t.name
  let props := t.columns.map (property s m t.primaryKeys shape)
  { typeDef :=
      { name := if shape = .insert then base ++ s.suffix else base
        kind := .table
        description := if shape = .read then s.comment t.extent.start else none
        primaryKey := (props.find? Property.primary).map Property.name
        insertFor := if shape = .insert then some base else none
        sqlTable := some t.name
        sqlSchema := t.schema
        props }
    baseName := base
    shape }

/-- The first pass: enums are recorded and registered. -/
def addEnum (s : Settings) (state : State) : Declaration → State
  | .enum e =>
    { records := state.records ++ [enumRecord s e]
      typeMap := state.typeMap.registerEnum e.name (Naming.typeName e.name) }
  | _ => state

/-- The second pass: both variants of every table are recorded. A
declaration of an unknown kind ends it. -/
def addTables (s : Settings) (state : State) : List Declaration → State × Option String
  | [] => (state, none)
  | .table t :: rest =>
    let made := [Shape.read, Shape.insert].map (tableRecord s state.typeMap t)
    addTables s { state with records := state.records ++ made } rest
  | .foreign kind :: _ => (state, some kind)
  | _ :: rest => addTables s state rest

/-- The model of a state. -/
def State.model (state : State) : TypeModel :=
  let records := TypeRecord.sort state.records
  { records, typeMap := state.typeMap.snapshot, tableMap := .ofRecords records }

/-- Whether a declaration is a statement that gives no type. -/
def isUnsupported : Declaration → Bool
  | .unsupported .. => true
  | _ => false

/-- What is reported of a build. -/
def summary (model : TypeModel) (declarations : List Declaration) : String :=
  let types := model.records.length
  let total := declarations.length
  let skipped := (declarations.filter isUnsupported).length
  s!"Built {types} types from {total} declarations ({skipped} unsupported statements ignored)"

/-- Adds a list of declarations to a build. The outcome is the model of
everything gathered so far, or the kind of the declaration that is not
known. -/
def run (s : Settings) (state : State) (declarations : List Declaration) :
    State × Except String TypeModel :=
  let (state, unknown) := addTables s (declarations.foldl (addEnum s) state) declarations
  match unknown with
  | some kind => (state, .error kind)
  | none => (state, .ok state.model)

end Build

end SchemaTypes

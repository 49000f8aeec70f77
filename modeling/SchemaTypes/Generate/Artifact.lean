import SchemaTypes.Emit.Barrel
import SchemaTypes.Emit.Convo
import SchemaTypes.Emit.Documents
import SchemaTypes.Emit.TypeScript

/-!
# `SchemaTypes.Generate.Artifact`: what a run writes, and where

A run can write artifacts of several kinds. Which ones it writes hangs on
the targets alone: a kind with paths is written to each of them, and a
kind without paths is not made. Barrels export the other TypeScript
modules of the same run, so they are made from the targets and not from
the types.
-/

set_option autoImplicit false

namespace SchemaTypes

/-- The kinds of artifacts. -/
inductive ArtifactKind where
  | typeScript
  | zod
  | convo
  | typeMap
  | tableMap
  | tableMapModule
  | typeList
  | shortTypeList
  | typeIndex
  | declarations
  | barrel
deriving Repr, DecidableEq, Inhabited

namespace ArtifactKind

/-- The kinds other than barrels, in the order in which they are made. -/
def plain : List ArtifactKind :=
  [.typeScript, .zod, .convo, .typeMap, .tableMap, .tableMapModule, .typeList, .shortTypeList,
   .typeIndex, .declarations]

/-- All kinds. -/
def all : List ArtifactKind :=
  plain ++ [.barrel]

/-- The kinds that are TypeScript modules. -/
def modules : List ArtifactKind :=
  [.typeScript, .zod, .tableMapModule, .typeIndex]

/-- The name of a kind. -/
def text : ArtifactKind → String
  | .typeScript => "ts"
  | .zod => "zod"
  | .convo => "convo"
  | .typeMap => "type_map"
  | .tableMap => "table_map"
  | .tableMapModule => "ts_table_map"
  | .typeList => "type_list"
  | .shortTypeList => "type_list_short"
  | .typeIndex => "type_index"
  | .declarations => "parsed_sql"
  | .barrel => "barrel"

/-- The kind with a name. -/
def ofText? (text : String) : Option ArtifactKind :=
  all.find? fun kind => kind.text == text

/-- The name of the file for a kind in an output directory. -/
def fileName : ArtifactKind → String
  | .typeScript => "types-ts.ts"
  | .zod => "types-zod.ts"
  | .convo => "types-convo.convo"
  | .typeMap => "type-map.json"
  | .tableMap => "type-table-map.json"
  | .tableMapModule => "type-table-map-ts.ts"
  | .typeList => "type-list.json"
  | .shortTypeList => "type-list-short.json"
  | .typeIndex => "type-index.ts"
  | .declarations => "type-sql-src.json"
  | .barrel => "index.ts"

end ArtifactKind

/-- The paths that each kind of artifact is written to. -/
structure Targets where
  paths : ArtifactKind → List Path

namespace Targets

/-- The targets from the paths given for each kind and from output
directories, which serve the kinds without paths of their own. -/
def ofOptions (options : ArtifactKind → List Path) (directories : List Path) : Targets where
  paths kind :=
    if (options kind).isEmpty then directories.map fun directory => directory.child kind.fileName
    else options kind

/-- Whether a kind is to be written. -/
def requests (t : Targets) (kind : ArtifactKind) : Bool :=
  !(t.paths kind).isEmpty

/-- The module of each kind that a barrel exports: of several copies the
one beside the barrel, or else the first. -/
def exportedBy (t : Targets) (barrel : Path) : List Path :=
  ArtifactKind.modules.filterMap fun kind =>
    let paths := t.paths kind
    (paths.find? fun path => path.parent == barrel.parent) <|> paths.head?

end Targets

/-- A text, and the paths it is written to. -/
structure Artifact where
  kind : ArtifactKind
  paths : List Path
  contents : String
deriving Repr, DecidableEq, Inhabited

/-- What a source was compiled to. -/
structure Compiled where
  source : String
  declarations : List Declaration
  model : TypeModel
deriving Repr, Inhabited, BEq

/-- The text of an artifact. A barrel has none without its targets. -/
def Compiled.render (c : Compiled) : ArtifactKind → String
  | .typeScript => Emit.typeScript c.model.records
  | .zod => Emit.zod c.model.records
  | .convo => Emit.convo c.model.records
  | .typeMap => Emit.typeMapDocument c.model
  | .tableMap => Emit.tableMapDocument c.model
  | .tableMapModule => Emit.tableMapModule c.model
  | .typeList => Emit.typeList c.model
  | .shortTypeList => Emit.shortTypeList c.model
  | .typeIndex => Emit.typeIndex c.model
  | .declarations => Emit.declarationList c.declarations
  | .barrel => ""

/-- The artifacts other than barrels that the targets ask for. -/
def Compiled.artifacts (c : Compiled) (t : Targets) : List Artifact :=
  (ArtifactKind.plain.filter t.requests).map fun kind => ⟨kind, t.paths kind, c.render kind⟩

/-- The barrels that the targets ask for, as seen from a working
directory. -/
def Targets.barrels (t : Targets) (working : List String) : List Artifact :=
  (t.paths .barrel).map fun path =>
    ⟨.barrel, [path], Emit.barrelText working path (t.exportedBy path)⟩

end SchemaTypes

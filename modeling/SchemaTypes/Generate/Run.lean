import SchemaTypes.Generate.Artifact
import SchemaTypes.Generate.Settings
import SchemaTypes.Generate.Source
import SchemaTypes.TypeMap.File

/-!
# `SchemaTypes.Generate.Run`: from sources to written artifacts

A run loads the sources and the type maps, reads the declarations, builds
the types and writes the artifacts. Nothing is written before everything
that can fail on input is done: loading and compiling do not change the
file system at all.

Every artifact is written even if another one fails. Barrels are written
one after the other, and only if everything before them succeeded.
-/

set_option autoImplicit false

namespace SchemaTypes

/-- The declarations of a source. Malformed ones are reported. -/
def readDeclarations (d : Sql.Dialect) (source : String) : Logged (List Declaration) :=
  match Reading.ofSource d source.toList with
  | .error context => Logged.fail (.untokenizable context)
  | .ok reading =>
    ⟨reading.skipped.map .skipping,
      if reading.complete then .ok reading.declarations else .error .untypable⟩

/-- The dialect with a name. -/
def findDialect (name : String) : Except Failure Sql.Dialect :=
  match Sql.dialect? name with
  | some d => .ok d
  | none => .error (.unknownDialect name)

/-- The model of a list of declarations. -/
def buildModel (settings : Settings) (source : String) (typeMap : TypeMap)
    (declarations : List Declaration) : Logged TypeModel :=
  let build : Build.Settings := { source := source.toList, suffix := settings.suffix }
  match (Build.run build { typeMap } declarations).2 with
  | .ok model => ⟨[.built (Build.summary model declarations)], .ok model⟩
  | .error kind => Logged.fail (.unknownDeclaration kind)

/-- Compiles a source. -/
def compile (files : FileSystem) (settings : Settings) (source : String) : Logged Compiled := do
  let typeMap ← TypeMap.mergeFiles files (TypeMap.start settings.clearTypeMap)
    settings.typeMapFiles
  let d ← Logged.ofExcept (findDialect settings.dialect)
  let declarations ← readDeclarations d source
  let model ← buildModel settings source typeMap declarations
  return { source, declarations, model }

/-- Writes a text to paths in order, up to the first that fails. -/
def writePaths (files : FileSystem) (contents : String) : List Path → FileSystem × Option Failure
  | [] => (files, none)
  | path :: paths =>
    match files.write path contents with
    | (files, none) => writePaths files contents paths
    | (files, some fault) => (files, some (.ofWriteFault path.text fault))

/-- Writes an artifact. The failure to do so is given. -/
def Artifact.write (a : Artifact) (files : FileSystem) : FileSystem × Option Failure :=
  writePaths files a.contents a.paths

/-- What is reported when an artifact is written. -/
def Artifact.event (a : Artifact) : Event :=
  .writing (a.paths.map Path.text)

/-- What writing came to: the files, what was reported and the first
failure. -/
structure Written where
  files : FileSystem
  events : List Event := []
  failed : Option Failure := none
deriving Repr, DecidableEq, Inhabited

/-- Writes artifacts, each whether or not others fail. -/
def writeAll (files : FileSystem) : List Artifact → Written
  | [] => { files }
  | a :: artifacts =>
    let (files, failed) := a.write files
    let rest := writeAll files artifacts
    { rest with events := a.event :: rest.events, failed := failed <|> rest.failed }

/-- Writes artifacts up to the first that fails. -/
def writeInOrder (files : FileSystem) : List Artifact → Written
  | [] => { files }
  | a :: artifacts =>
    match a.write files with
    | (files, some failure) => { files, events := [a.event], failed := some failure }
    | (files, none) =>
      let rest := writeInOrder files artifacts
      { rest with events := a.event :: rest.events }

/-- Writes the artifacts of a run, and the barrels if all others are
written. -/
def writeRun (files : FileSystem) (artifacts barrels : List Artifact) : Written :=
  let plain := writeAll files artifacts
  match plain.failed with
  | some _ => plain
  | none =>
    let rest := writeInOrder plain.files barrels
    { rest with events := plain.events ++ rest.events }

/-- What a run starts from. -/
structure Request where
  settings : Settings := {}
  targets : Targets
  inline : List String := []
  sourceFiles : List String := []

/-- Loads and compiles what a run starts from. -/
def Request.compile (r : Request) (files : FileSystem) : Logged Compiled := do
  let source ← Source.load files r.inline r.sourceFiles
  SchemaTypes.compile files r.settings source

/-- Runs everything. The file system after the run is given beside what
was reported and made. -/
def Request.run (r : Request) (files : FileSystem) : Logged Compiled × FileSystem :=
  let compiled := r.compile files
  match compiled.result with
  | .error failure => (⟨compiled.events, .error failure⟩, files)
  | .ok c =>
    let written := writeRun files (c.artifacts r.targets) (r.targets.barrels files.working)
    let events := compiled.events ++ written.events
    match written.failed with
    | some failure => (⟨events, .error failure⟩, written.files)
    | none => (⟨events, .ok c⟩, written.files)

end SchemaTypes

import SchemaTypes.Command.Arguments
import SchemaTypes.Generate.Run

/-!
# `SchemaTypes.Command.Run`: the command

The command reads its arguments, puts the settings together with the
environment and runs. What it reports is cut off at a level: the options
set it first, then the environment.
-/

set_option autoImplicit false

namespace SchemaTypes.Command

/-- The names of levels in the environment. -/
def levelNames : List (String × Nat) :=
  [("NOTSET", 0), ("DEBUG", 10), ("INFO", 20), ("WARN", 30), ("WARNING", 30), ("ERROR", 40),
   ("FATAL", 50), ("CRITICAL", 50)]

/-- The level from which on events are shown. -/
def level (a : Arguments) (env : Environment) : Nat :=
  if a.verbose then 10
  else if a.silent then 30
  else
    match env.text? "log_level" with
    | some name => (levelNames.lookup (Text.upper name)).getD Level.info.rank
    | none => Level.info.rank

/-- The settings that the arguments give. -/
def settingFields (a : Arguments) : List (String × Json) :=
  let suffix := a.suffix.map fun value => ("insert_suffix", Json.str value)
  let dialect := a.dialect.map fun value => ("dialect", Json.str value)
  suffix.toList ++ (if a.clearTypeMap then [("clear_type_map", Json.bool true)] else []) ++
    (if a.typeMapFiles.isEmpty then []
     else [("type_map_files", Json.ofStrings a.typeMapFiles)]) ++ dialect.toList

/-- The targets that the arguments give. -/
def targets (a : Arguments) : Targets :=
  let options (kind : ArtifactKind) : List Path :=
    (a.outputs.filter fun output => output.1 == kind).map fun output => Path.ofText output.2
  Targets.ofOptions options (a.directories.map Path.ofText)

/-- What a run of the command came to. -/
structure Report where
  level : Nat
  events : List Event
  result : Except Failure Unit
  files : FileSystem

/-- Generates what the arguments ask for. A failure that has a code is
reported as an event. -/
def generate (a : Arguments) (env : Environment) (files : FileSystem) : Report :=
  let (run, after) : Logged Compiled × FileSystem :=
    match Settings.ofEnvironment env (settingFields a) with
    | .error failure => (Logged.fail failure, files)
    | .ok settings =>
      let request : Request :=
        { settings, targets := targets a, inline := a.inline, sourceFiles := a.sourceFiles }
      request.run files
  match run.result with
  | .ok compiled =>
    { level := level a env
      events := run.events ++ [.generated compiled.model.records.length]
      result := .ok ()
      files := after }
  | .error failure =>
    let last := (failure.code?.map fun code => Event.failed code failure.message).toList
    { level := level a env, events := run.events ++ last, result := .error failure, files := after }

/-- The events that are shown. -/
def Report.shown (r : Report) : List Event :=
  r.events.filter fun event => r.level ≤ event.level.rank

end SchemaTypes.Command

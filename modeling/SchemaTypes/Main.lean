import SchemaTypes.Command.Run

/-!
# `SchemaTypes.Main`: the program

The program loads the files that the arguments name, hands them to the
command and brings the changes to disk. All that is decided is decided in
the command.
-/

set_option autoImplicit false

namespace SchemaTypes

/-- The variables that the command looks at. -/
def environmentKeys : List String := ["insert_suffix", "clear_type_map", "dialect", "log_level"]

/-- The environment of the process. -/
def loadEnvironment : IO Environment := do
  let names := environmentKeys.map Environment.variableName
  names.filterMapM fun name => do
    return (← IO.getEnv name).map fun value => (name, value)

/-- The file system as far as some paths show it. -/
def loadFiles (paths : List String) : IO FileSystem := do
  let working := (Path.ofText (← IO.currentDir).toString).names
  let entries ← paths.filterMapM fun (path : String) => do
    try
      let bytes ← IO.FS.readBinFile path
      return some ((Path.ofText path).resolve working, Entry.ofBytes bytes)
    catch _ => return none
  return { entries, working }

/-- The name of a place on disk. -/
def placeName (place : List String) : String :=
  "/" ++ Text.joinWith "/" place

/-- Writes the files that differ. The first place that cannot be written
is given. -/
def storeFiles (before after : FileSystem) : IO (Option String) := do
  for entry in after.entries.reverse do
    if before.entry? entry.1 != some entry.2 then
      match entry.2 with
      | .text contents =>
        try
          IO.FS.createDirAll (placeName entry.1.dropLast)
          IO.FS.writeFile (placeName entry.1) contents
        catch _ => return some (placeName entry.1)
      | _ => pure ()
  return none

/-- Prints what a run reports. -/
def printEvents (events : List Event) : IO Unit :=
  for event in events do
    IO.eprintln (event.level.text ++ " - " ++ event.message)

/-- Runs the command with its arguments read. -/
def runCommand (arguments : Command.Arguments) : IO UInt32 := do
  let env ← loadEnvironment
  let before ← loadFiles (arguments.sourceFiles ++ arguments.typeMapFiles)
  let report := Command.generate arguments env before
  match ← storeFiles before report.files with
  | some place =>
    let failure := Failure.unwritable place
    printEvents [.failed (failure.code?.getD "") failure.message]
    return 1
  | none =>
    printEvents report.shown
    match report.result with
    | .ok _ => return 0
    | .error failure =>
      if failure.code?.isNone then IO.eprintln failure.message
      return 1

end SchemaTypes

/-- The entry point of the program. -/
def main (arguments : List String) : IO UInt32 := do
  match SchemaTypes.Command.readOrder arguments with
  | .error wrong =>
    IO.eprintln ("schemagen: error: " ++ wrong.message)
    return 2
  | .ok .help =>
    IO.println ("usage: schemagen " ++ SchemaTypes.Text.joinWith " "
      (SchemaTypes.Command.Flag.spellings.map Prod.fst))
    return 0
  | .ok (.generate arguments) => SchemaTypes.runCommand arguments

import SchemaTypes.File.System
import SchemaTypes.Generate.Event
import SchemaTypes.Json.Reader

/-!
# `SchemaTypes.TypeMap.File`: type maps from files

A type map file holds a JSON object of override entries. Several files
are merged in order over the built-in table, or over an empty one.
-/

set_option autoImplicit false

namespace SchemaTypes.TypeMap

/-- The override entries of a file. A failure gives the path as it is
spelled here. -/
def loadFile (files : FileSystem) (path : String) : Except Failure (List (String × Json)) :=
  match files.read (Path.ofText path) with
  | .error fault => .error (Failure.ofReadFault path fault)
  | .ok text =>
    match Json.parse? text with
    | none => .error (.notJson path)
    | some (.obj entries) => .ok entries
    | some _ => .error (.notTypeMap path)

/-- The table with the entries of a file merged. -/
def mergeFile (files : FileSystem) (m : TypeMap) (path : Path) : Logged TypeMap := do
  Logged.report (.loadingTypeMap path.text)
  let entries ← Logged.ofExcept (loadFile files path.text)
  match m.merge entries with
  | (merged, none) => pure merged
  | (_, some refusal) => Logged.fail (.override (some path.text) refusal)

/-- The table with several files merged in order. -/
def mergeFiles (files : FileSystem) (m : TypeMap) : List Path → Logged TypeMap
  | [] => pure m
  | path :: paths => do
    let merged ← mergeFile files m path
    mergeFiles files merged paths

end SchemaTypes.TypeMap

import SchemaTypes.File.System
import SchemaTypes.Json.Decode
import SchemaTypes.TypeMap.Basic

/-!
# `SchemaTypes.Generate.Failure`: why a run fails

Most failures are the user's to mend: they have a code, and the command
reports them by code and message. The others have none. They mean that an
input is of a kind that the library does not handle, and they end a
program that does not handle them itself.
-/

set_option autoImplicit false

namespace SchemaTypes

/-- Why a run fails. -/
inductive Failure where
  /-- A file is missing or is no file. -/
  | unreadable (path : String)
  /-- A file does not hold text. -/
  | notText
  /-- A path holds a null character. -/
  | nullInPath
  /-- The source cannot be cut into tokens. The text around the place is
  given. -/
  | untokenizable (context : String)
  | unknownDialect (name : String)
  /-- A type map file is not JSON. -/
  | notJson (path : String)
  /-- A type map file is JSON but no object. -/
  | notTypeMap (path : String)
  /-- An entry of a type map cannot be merged. -/
  | override (source : Option String) (refusal : TypeMap.Refusal)
  /-- A variable of the environment does not hold a switch. -/
  | notSwitch (name value : String)
  /-- The settings have faults. -/
  | settings (faults : List Json.Fault)
  | unwritable (path : String)
  /-- A column has a type without a name of its own. -/
  | untypable
  /-- A declaration is of a kind that is not known. -/
  | unknownDeclaration (kind : String)
  /-- An artifact is asked for that does not exist. -/
  | unknownArtifact (name : String)
deriving Repr, DecidableEq, Inhabited

namespace Failure

/-- The code of a failure that the user can mend. -/
def code? : Failure → Option String
  | .unreadable _ => some "INPUT_READ_ERROR"
  | .untokenizable _ => some "SOURCE_PARSE_ERROR"
  | .unknownDialect _ => some "CONFIGURATION_ERROR"
  | .notJson _ => some "CONFIGURATION_ERROR"
  | .notTypeMap _ => some "CONFIGURATION_ERROR"
  | .override _ _ => some "CONFIGURATION_ERROR"
  | .notSwitch _ _ => some "CONFIGURATION_ERROR"
  | .settings _ => some "CONFIGURATION_ERROR"
  | .unwritable _ => some "OUTPUT_WRITE_ERROR"
  | .notText => none
  | .nullInPath => none
  | .untypable => none
  | .unknownDeclaration _ => none
  | .unknownArtifact _ => none

/-- What is said of an entry of a type map that cannot be merged. -/
def overrideMessage (source : Option String) (refusal : TypeMap.Refusal) : String :=
  match refusal.fault with
  | .notObject =>
    let place :=
      match source with
      | some source => if source.isEmpty then "" else " in " ++ source
      | none => ""
    "Type mapping for '" ++ refusal.key ++ "' must be a JSON object" ++ place
  | .notText => "Invalid type mapping for '" ++ refusal.key ++ "': Input should be a valid string"

/-- What is said of settings with a number of faults. -/
def settingsMessage (count : Nat) : String :=
  let noun := if count = 1 then "error" else "errors"
  s!"Invalid generator configuration: {count} validation {noun} for GeneratorConfig"

/-- What is said of a failure. -/
def message : Failure → String
  | .unreadable path => "Unable to read file at path: " ++ path
  | .notText => "The file does not hold text"
  | .nullInPath => "The path holds a null character"
  | .untokenizable context =>
    "Unable to tokenize SQL source: Error tokenizing '" ++ context ++ "'"
  | .unknownDialect name => "Unknown SQL dialect: " ++ name
  | .notJson path => "Unable to parse JSON contents of: " ++ path
  | .notTypeMap path => "Type map file should contain a JSON object: " ++ path
  | .override source refusal => overrideMessage source refusal
  | .notSwitch name value =>
    "Environment variable '" ++ name ++ "' must be a boolean, got '" ++ value ++ "'."
  | .settings faults => settingsMessage faults.length
  | .unwritable path => "Unable to write file at path: " ++ path
  | .untypable => "A column type has no name"
  | .unknownDeclaration kind => "Unexpected declaration node: " ++ kind
  | .unknownArtifact name => "Unknown artifact: " ++ name

/-- The failure of a run that cannot read a file. -/
def ofReadFault (path : String) : FileSystem.ReadFault → Failure
  | .missing => .unreadable path
  | .notText => .notText
  | .nullInPath => .nullInPath

/-- The failure of a run that cannot write a file. -/
def ofWriteFault (path : String) : FileSystem.WriteFault → Failure
  | .refused => .unwritable path
  | .nullInPath => .nullInPath

/-- The particulars of a failure by name. -/
def details : Failure → List (String × Option String)
  | .unreadable path => [("path", some path)]
  | .unknownDialect name => [("dialect", some name)]
  | .notJson path => [("path", some path)]
  | .notTypeMap path => [("path", some path)]
  | .override source refusal => [("path", source), ("key", some refusal.key)]
  | .notSwitch name _ => [("variable", some name)]
  | .unwritable path => [("path", some path)]
  | _ => []

end Failure

end SchemaTypes

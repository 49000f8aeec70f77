import SchemaTypes.File.Path
import SchemaTypes.Generate.Failure
import SchemaTypes.Model.Build
import SchemaTypes.Sql.Dialect
import SchemaTypes.Text.Blank

/-!
# `SchemaTypes.Generate.Settings`: settings of a run

Settings come from the environment and from what is given explicitly,
which wins. Each may be left out. The fields are those of a JSON object,
so that settings from every origin are checked by one rule.
-/

set_option autoImplicit false

namespace SchemaTypes

/-- The variables of an environment. -/
abbrev Environment := List (String × String)

namespace Environment

/-- The variable for a key. -/
def variableName (key : String) : String :=
  "SCHEMAGEN_" ++ Text.upper key

/-- The value of the variable for a key. -/
def text? (env : Environment) (key : String) : Option String :=
  env.lookup (variableName key)

/-- The words that switch a setting on. -/
def onWords : List String := ["true", "1", "yes", "on"]

/-- The words that switch a setting off. -/
def offWords : List String := ["false", "0", "no", "off", ""]

/-- The switch that the variable for a key holds. Blanks around the word
and its case do not matter. -/
def switch? (env : Environment) (key : String) : Except Failure (Option Bool) :=
  match env.text? key with
  | none => .ok none
  | some value =>
    let word := Text.lower (String.ofList (Text.trim value.toList))
    if onWords.contains word then .ok (some true)
    else if offWords.contains word then .ok (some false)
    else .error (.notSwitch (variableName key) value)

end Environment

/-- What a run can be told. -/
structure Settings where
  suffix : String := Build.defaultSuffix
  clearTypeMap : Bool := false
  typeMapFiles : List Path := []
  dialect : String := Sql.defaultDialect
deriving Repr, DecidableEq, Inhabited

namespace Settings

/-- A suffix, which may hold no blank. -/
def checkSuffix : Json → Json.Checked String
  | .str s => if s.toList.any Text.isBlank then .refuse .refused else .valid s
  | _ => .refuse .notText

/-- A path. -/
def checkPath : Json → Json.Checked Path
  | .str s => .valid (Path.ofText s)
  | _ => .refuse .notPath

/-- The settings that the fields of an object give. -/
def ofFields (fields : List (String × Json)) : Json.Checked Settings :=
  Settings.mk <$> Json.optional fields "insert_suffix" Build.defaultSuffix checkSuffix
    <*> Json.optional fields "clear_type_map" false Json.checkSwitch
    <*> Json.optional fields "type_map_files" [] (Json.checkList checkPath)
    <*> Json.optional fields "dialect" Sql.defaultDialect Json.checkText

/-- The fields that an environment gives. -/
def environmentFields (env : Environment) : Except Failure (List (String × Json)) := do
  let suffix := (env.text? "insert_suffix").map fun value => ("insert_suffix", Json.str value)
  let clear := (← env.switch? "clear_type_map").map fun value =>
    ("clear_type_map", Json.bool value)
  let dialect := ((env.text? "dialect").filter fun value => !value.isEmpty).map fun value =>
    ("dialect", Json.str value)
  return suffix.toList ++ clear.toList ++ dialect.toList

/-- The settings that an environment gives, with other fields set over
them. A null does not count as set. -/
def ofEnvironment (env : Environment) (fields : List (String × Json)) :
    Except Failure Settings := do
  let base ← environmentFields env
  match ofFields (Json.setFields (Json.dropNulls fields) base) with
  | .valid settings => .ok settings
  | .faulty faults => .error (.settings faults)

end Settings

end SchemaTypes

import SchemaTypes.Emit.Layout
import SchemaTypes.File.Path

/-!
# `SchemaTypes.Emit.Barrel`: modules that export other modules

A barrel exports everything that other generated modules export. It names
each module by its path as seen from the barrel's own directory, without
the suffix of a TypeScript file.
-/

set_option autoImplicit false

namespace SchemaTypes.Emit

/-- The suffixes of TypeScript files. -/
def moduleSuffixes : List String := [".ts", ".tsx"]

/-- A file name without the suffix of a TypeScript file. -/
def moduleName (name : String) : String :=
  let (stem, suffix) := Path.splitSuffix name.toList
  if moduleSuffixes.contains (String.ofList suffix) then String.ofList stem else name

/-- The path of a module as seen from the directory of a barrel. -/
def relativePath (directory : List String) (barrel path : Path) : Path :=
  { names := Path.relativeNames (barrel.parent.resolve directory) (path.resolve directory) }

/-- The path by which a barrel names a module. -/
def specifier (directory : List String) (barrel path : Path) : String :=
  let relative := relativePath directory barrel path
  let named : Path :=
    match relative.names.getLast? with
    | some name => { names := relative.names.dropLast ++ [moduleName name] }
    | none => relative
  let text := named.text
  if text.toList.head? == some '.' then text else "./" ++ text

/-- The text of a barrel. It does not export itself. -/
def barrelText (directory : List String) (barrel : Path) (paths : List Path) : String :=
  joinText ((paths.filter (· != barrel)).map fun path =>
    "export * from \"" ++ specifier directory barrel path ++ "\";") ++ "\n"

end SchemaTypes.Emit

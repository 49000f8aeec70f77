import SchemaTypes.Text.Lines

/-!
# `SchemaTypes.File.Path`: paths

A path is the slashes that it starts with and the names between its
slashes. Empty names and single dots are dropped when a path is read, so
two spellings of one path are equal; two dots are kept, because what they
lead to hangs on the file system. One slash in front makes a path
absolute, as do three or more; exactly two are kept apart.

Where two paths are compared by what they lead to, both are resolved
against a working directory first, and then `..` removes the name before
it.
-/

set_option autoImplicit false

namespace SchemaTypes

/-- A path: the slashes in front, and the names. -/
structure Path where
  root : String := ""
  names : List String := []
deriving Repr, DecidableEq, Inhabited

namespace Path

/-- The slashes in front of a path. -/
def rootOf (text : List Char) : String :=
  match (text.takeWhile (· == '/')).length with
  | 0 => ""
  | 2 => "//"
  | _ => "/"

/-- The path that a text denotes. -/
def ofText (text : String) : Path :=
  let names := (text.toList.splitOn '/').map String.ofList
  ⟨rootOf text.toList, names.filter fun name => !(name.isEmpty || name == ".")⟩

/-- The text of a path; the empty path is a single dot. -/
def text (p : Path) : String :=
  if p.root.isEmpty && p.names.isEmpty then "." else p.root ++ Text.joinWith "/" p.names

/-- The directory that a path stands in. -/
def parent (p : Path) : Path :=
  { p with names := p.names.dropLast }

/-- A path inside a directory. -/
def child (directory : Path) (name : String) : Path :=
  { directory with names := directory.names ++ [name] }

/-- One name followed from a directory: two dots lead to the directory
above, and nowhere from the top. -/
def follow (directory : List String) (name : String) : List String :=
  if name == ".." then directory.dropLast else directory ++ [name]

/-- The names that lead from the top to what a path denotes in a working
directory. -/
def resolve (directory : List String) (p : Path) : List String :=
  p.names.foldl follow (if p.root.isEmpty then directory else [])

/-- The names of `target` as seen from `start`: up to the last directory
that both share, then down. -/
def relativeNames : List String → List String → List String
  | a :: start, b :: target =>
    if a == b then relativeNames start target
    else List.replicate (start.length + 1) ".." ++ b :: target
  | start, target => List.replicate start.length ".." ++ target

/-- The name without the last dot and what follows it, and that rest. A
dot at either end of the name does not count. -/
def splitSuffix (name : List Char) : List Char × List Char :=
  let suffix := Text.afterLast '.' name
  let stem := name.take (name.length - suffix.length - 1)
  if stem.isEmpty || suffix.isEmpty || suffix.length == name.length then (name, [])
  else (stem, '.' :: suffix)

end Path

end SchemaTypes

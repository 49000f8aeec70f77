import SchemaTypes.File.Path

/-!
# `SchemaTypes.File.System`: files and directories

A file system is a list of entries by the names that lead to them from
the top, together with the working directory. A directory exists if there
is an entry for it or for something inside it, and the working directory
always exists.

A path is followed name by name, and every name but the last must lead to
a directory that exists. So two dots undo a name only if that name is a
directory. Names and paths may not be longer than a limit, and a null
character ends every attempt to use a path.
-/

set_option autoImplicit false

namespace SchemaTypes

/-- What stands at a place of the file system. -/
inductive Entry where
  /-- A file that holds text. -/
  | text (contents : String)
  /-- A file whose bytes are not text. -/
  | binary
  | directory
deriving Repr, DecidableEq, Inhabited

/-- The entry of a file with the given bytes. -/
def Entry.ofBytes (bytes : ByteArray) : Entry :=
  match String.fromUTF8? bytes with
  | some contents => .text contents
  | none => .binary

/-- The entries of a file system, and the working directory. -/
structure FileSystem where
  entries : List (List String × Entry) := []
  working : List String := []
deriving Repr, DecidableEq, Inhabited

namespace FileSystem

/-- What stands at a place. -/
def entry? (files : FileSystem) (place : List String) : Option Entry :=
  files.entries.lookup place

/-- Whether a place is a directory. -/
def isDirectory (files : FileSystem) (place : List String) : Bool :=
  match files.entry? place with
  | some .directory => true
  | some _ => false
  | none =>
    place.isPrefixOf files.working || files.entries.any fun entry => place.isPrefixOf entry.1

/-- The place that names lead to from another. -/
def walk (files : FileSystem) (place : List String) : List String → Option (List String)
  | [] => some place
  | name :: names =>
    if files.isDirectory place then walk files (Path.follow place name) names else none

/-- The directory that a path starts from. -/
def origin (files : FileSystem) (p : Path) : List String :=
  if p.root.isEmpty then files.working else []

/-- Whether a name or a path is short enough to be used. Their lengths
are limited in bytes. -/
def fits (p : Path) : Bool :=
  p.text.utf8ByteSize ≤ 4095 && p.names.all fun name => name.utf8ByteSize ≤ 255

/-- Whether a path holds a null character. -/
def holdsNull (p : Path) : Bool :=
  p.text.toList.contains '\x00'

/-- The place that a path leads to. -/
def locate (files : FileSystem) (p : Path) : Option (List String) :=
  if fits p then files.walk (files.origin p) p.names else none

/-- Why a file cannot be read. -/
inductive ReadFault where
  | missing
  | notText
  | nullInPath
deriving Repr, DecidableEq, Inhabited

/-- The text of a file, with line ends unified. -/
def read (files : FileSystem) (p : Path) : Except ReadFault String :=
  if holdsNull p then .error .nullInPath
  else
    match (files.locate p).bind files.entry? with
    | some (.text contents) => .ok (String.ofList (Text.unifyNewlines contents.toList))
    | some .binary => .error .notText
    | _ => .error .missing

/-- The file system with an entry at a place. -/
def set (files : FileSystem) (place : List String) (entry : Entry) : FileSystem :=
  { files with entries := (place, entry) :: files.entries.filter fun other => other.1 != place }

/-- Follows names and makes the directories that are missing on the way.
A file on the way ends it. -/
def enter (files : FileSystem) (place : List String) :
    List String → FileSystem × Option (List String)
  | [] => (files, some place)
  | name :: names =>
    let next := Path.follow place name
    if files.isDirectory next then enter files next names
    else
      match files.entry? next with
      | some _ => (files, none)
      | none => enter (files.set next .directory) next names

/-- Why a file cannot be written. -/
inductive WriteFault where
  | refused
  | nullInPath
deriving Repr, DecidableEq, Inhabited

/-- Writes a file and makes the directories around it. A fault is given
if that fails; directories may have been made even so. -/
def write (files : FileSystem) (p : Path) (contents : String) :
    FileSystem × Option WriteFault :=
  if holdsNull p then (files, some .nullInPath)
  else if !fits p then (files, some .refused)
  else
    match files.enter (files.origin p) p.parent.names, p.names.getLast? with
    | (files, some place), some name =>
      let target := Path.follow place name
      if files.isDirectory target then (files, some .refused)
      else (files.set target (.text contents), none)
    | (files, _), _ => (files, some .refused)

end FileSystem

end SchemaTypes

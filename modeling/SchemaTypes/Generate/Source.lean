import SchemaTypes.File.System
import SchemaTypes.Generate.Event
import SchemaTypes.Text.Blank
import SchemaTypes.Text.Lines
import SchemaTypes.Text.Word

/-!
# `SchemaTypes.Generate.Source`: the source of a schema

A source is put together from inline fragments and files, with a blank
line between two of them. Clauses that name a tablespace are taken out,
because they have no bearing on types. They are found by their letters
alone, wherever they stand: a word that ends in `tablespace` starts one
too.
-/

set_option autoImplicit false

namespace SchemaTypes.Source

/-- What stands between two fragments. -/
def separator : String := "\n\n"

/-- Whether a character is a letter in either case. The long s is an s. -/
def isLetter (letter c : Char) : Bool :=
  c.toUpper == letter || (letter == 'S' && c == 'ſ')

/-- What follows a word at the front of a text. -/
def afterWord? : List Char → List Char → Option (List Char)
  | [], s => some s
  | letter :: word, c :: s => if isLetter letter c then afterWord? word s else none
  | _ :: _, [] => none

/-- The length of the tablespace clause at the front of a text: the word,
blanks and a name. -/
def clauseLength? (s : List Char) : Option Nat :=
  let word := "TABLESPACE".toList
  match afterWord? word s with
  | some rest =>
    let blanks := (rest.takeWhile Text.isBlank).length
    let name := ((rest.drop blanks).takeWhile Text.isWordChar).length
    if blanks = 0 || name = 0 then none else some (word.length + blanks + name)
  | none => none

/-- A text without the first characters, and without tablespace clauses
from there on. -/
def dropClauses : Nat → List Char → List Char
  | _, [] => []
  | skip + 1, _ :: rest => dropClauses skip rest
  | 0, c :: rest =>
    match clauseLength? (c :: rest) with
    | some (length + 1) => dropClauses length rest
    | _ => c :: dropClauses 0 rest

/-- The source that fragments make up. -/
def join (fragments : List String) : String :=
  String.ofList (dropClauses 0 (Text.joinWith separator fragments).toList)

/-- The text of a source file. -/
def loadFile (files : FileSystem) (path : String) : Logged String := do
  Logged.report (.loading path)
  match files.read (Path.ofText path) with
  | .ok text => pure text
  | .error fault => Logged.fail (Failure.ofReadFault path fault)

/-- The source from inline fragments and files. -/
def load (files : FileSystem) (inline paths : List String) : Logged String := do
  let texts ← Logged.forEach (loadFile files) paths
  return join (inline ++ texts)

end SchemaTypes.Source

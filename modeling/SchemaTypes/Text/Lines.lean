/-!
# `SchemaTypes.Text.Lines`: lines and joined texts

A text is the list of its lines with a newline between two of them: a
text with `n` newlines has `n + 1` lines, some of which may be empty. A
carriage return is an ordinary character of its line.
-/

set_option autoImplicit false

namespace SchemaTypes.Text

/-- The lines of a text; never empty. -/
def lines (s : List Char) : List (List Char) :=
  s.splitOn '\n'

/-- Texts with a newline between two of them. -/
def joinLines (ls : List (List Char)) : List Char :=
  List.intercalate ['\n'] ls

/-- Texts with a separator between two of them. -/
def joinWith (separator : String) (parts : List String) : String :=
  String.ofList (List.intercalate separator.toList (parts.map String.toList))

/-- Both line ends of other systems, `\r\n` and `\r`, become `\n`. -/
def unifyNewlines : List Char → List Char
  | [] => []
  | '\r' :: '\n' :: rest => '\n' :: unifyNewlines rest
  | c :: rest => (if c == '\r' then '\n' else c) :: unifyNewlines rest

/-- Every occurrence of `old` becomes `new`; occurrences are found from
the left and do not overlap. An empty `old` changes nothing. -/
def replaceAll (old new : List Char) : List Char → List Char
  | [] => []
  | c :: rest =>
    if old.isPrefixOf (c :: rest) && !old.isEmpty then
      new ++ replaceAll old new (rest.drop (old.length - 1))
    else
      c :: replaceAll old new rest
termination_by s => s.length

/-- What follows the last occurrence of `mark`, or the whole text. -/
def afterLast (mark : Char) (s : List Char) : List Char :=
  (s.reverse.takeWhile fun c => c != mark).reverse

/-- The text without the leading and trailing characters `mark`. -/
def stripChar (mark : Char) (s : List Char) : List Char :=
  ((s.dropWhile fun c => c == mark).reverse.dropWhile fun c => c == mark).reverse

end SchemaTypes.Text

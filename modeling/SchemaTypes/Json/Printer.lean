import SchemaTypes.Json.Basic
import SchemaTypes.Text.Quoted

/-!
# `SchemaTypes.Json.Printer`: JSON as text

Two layouts: on one line, with a blank after every comma and colon, and
indented, with one item or field to a line and four blanks to a level.
An empty array or object is written without a break in both. Characters
outside ASCII stand for themselves; a quote, a backslash and the
controls below `U+0020` are escaped, so no written value holds a raw
control character other than the newlines of the indented layout.
-/

set_option autoImplicit false

namespace SchemaTypes.Json

/-- How the parts of a value are set apart. -/
inductive Layout where
  | oneLine
  | indented
deriving Repr, DecidableEq, Inhabited

/-- What separates an opening bracket from the first item, or the last
item from the closing bracket, at a depth. -/
def Layout.lineBreak : Layout → Nat → List Char
  | .oneLine, _ => []
  | .indented, depth => '\n' :: List.replicate (4 * depth) ' '

/-- What separates two items at a depth. -/
def Layout.separator : Layout → Nat → List Char
  | .oneLine, _ => [',', ' ']
  | .indented, depth => ',' :: Layout.lineBreak .indented depth

/-- A character inside a string literal. -/
def escapeChar (c : Char) : List Char :=
  if c == '"' then ['\\', '"']
  else if c == '\\' then ['\\', '\\']
  else if c == '\n' then ['\\', 'n']
  else if c == '\r' then ['\\', 'r']
  else if c == '\t' then ['\\', 't']
  else if c.toNat == 0x8 then ['\\', 'b']
  else if c.toNat == 0xC then ['\\', 'f']
  else if c.toNat < 0x20 then '\\' :: 'u' :: Text.hexadecimal 4 c.toNat
  else [c]

/-- A string literal. -/
def literal (s : List Char) : List Char :=
  '"' :: s.flatMap escapeChar ++ ['"']

/-- An integer in decimal notation. -/
def integerText : Int → List Char
  | .ofNat n => Nat.toDigits 10 n
  | .negSucc n => '-' :: Nat.toDigits 10 (n + 1)

mutual

/-- A value as text, its inner lines starting at `depth`. -/
def write (layout : Layout) (depth : Nat) : Json → List Char
  | .null => "null".toList
  | .bool b => (if b then "true" else "false").toList
  | .int n => integerText n
  | .real r => r.text
  | .str s => literal s.toList
  | .arr [] => ['[', ']']
  | .arr (item :: items) =>
    '[' :: layout.lineBreak (depth + 1) ++ write layout (depth + 1) item ++
      writeItems layout (depth + 1) items ++ layout.lineBreak depth ++ [']']
  | .obj [] => ['{', '}']
  | .obj ((key, value) :: fields) =>
    '{' :: layout.lineBreak (depth + 1) ++ literal key.toList ++ ':' :: ' ' ::
      write layout (depth + 1) value ++ writeFields layout (depth + 1) fields ++
      layout.lineBreak depth ++ ['}']

/-- The items after the first, each with its separator. -/
def writeItems (layout : Layout) (depth : Nat) : List Json → List Char
  | [] => []
  | item :: items =>
    layout.separator depth ++ write layout depth item ++ writeItems layout depth items

/-- The fields after the first, each with its separator. -/
def writeFields (layout : Layout) (depth : Nat) : List (String × Json) → List Char
  | [] => []
  | (key, value) :: fields =>
    layout.separator depth ++ literal key.toList ++ ':' :: ' ' ::
      write layout depth value ++ writeFields layout depth fields

end

/-- A value on one line. -/
def compact (value : Json) : String :=
  String.ofList (write .oneLine 0 value)

/-- A value over indented lines. -/
def pretty (value : Json) : String :=
  String.ofList (write .indented 0 value)

/-- A text as a string literal. -/
def quote (s : String) : String :=
  String.ofList (literal s.toList)

end SchemaTypes.Json

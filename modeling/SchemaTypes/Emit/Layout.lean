import SchemaTypes.Text.Lines
import SchemaTypes.Model.Basic

/-!
# `SchemaTypes.Emit.Layout`: blocks and comments of generated text

Every target is a sequence of blocks with an empty line between two of
them. A documentation comment is written line by line with a marker in
front of each, and the sequence that would close it early is spelled out.
-/

set_option autoImplicit false

namespace SchemaTypes.Emit

/-- The indent of what stands inside a type. -/
def indent : String := "    "

/-- A text with the end of a block comment spelled out. -/
def escapeComment (text : String) : String :=
  String.ofList (Text.replaceAll ['*', '/'] "(star)/".toList text.toList)

/-- A text with `marker` in front of each of its lines. -/
def markLines (marker text : String) : String :=
  marker ++ String.ofList (Text.replaceAll ['\n'] ('\n' :: marker.toList) text.toList)

/-- The inner lines of a documentation comment. -/
def docLines (text : String) (indent : String := "") : String :=
  markLines (indent ++ " * ") (escapeComment text)

/-- A documentation comment. -/
def docBlock (text : String) (indent : String := "") : String :=
  indent ++ "/**\n" ++ docLines text indent ++ "\n" ++ indent ++ " */"

/-- A comment of lines that start with a number sign. -/
def hashComment (text : String) (indent : String := "") : String :=
  markLines (indent ++ "# ") text

/-- Blocks after a header, with a newline at the end. -/
def joinBlocks (blocks : List String) (header : String := "") : String :=
  header ++ Text.joinWith "\n\n" blocks ++ "\n"

/-- A text that is there and not empty. -/
def present? (text : Option String) : Option String :=
  text.filter fun s => !s.isEmpty

/-- Lines as one text. -/
def joinText (lines : List String) : String :=
  Text.joinWith "\n" lines

/-- The table of a type as it is shown; a type without one shows `None`. -/
def shownTable (t : TypeDef) : String :=
  t.sqlTable.getD "None"

/-- The facts about a table type that are shown in its comment, by their
names. -/
def tableFacts (t : TypeDef) : List (String × String) :=
  ((present? t.insertFor).map (("insertFor", ·))).toList ++
    [("table", shownTable t)] ++ ((present? t.sqlSchema).map (("schema", ·))).toList

end SchemaTypes.Emit

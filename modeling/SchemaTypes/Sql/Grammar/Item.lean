import SchemaTypes.Sql.Grammar.Word
import SchemaTypes.Sql.Token
import SchemaTypes.Text.Case

/-!
# `SchemaTypes.Sql.Grammar.Item`: what the grammar sees of a token

An item is a token with its text in upper case beside it, because the
grammar compares words without regard to case. The functions below say
what an item may stand for.

There are two ways to ask for a word. `isWord` holds only of a word
without quotes. `spells` holds of anything but a string with that text, so
that a quoted name may stand for a word where no name is expected.
-/

set_option autoImplicit false

namespace SchemaTypes.Sql.Grammar

/-- A token as the grammar sees it. -/
structure Item where
  kind : Kind
  text : String
  upper : String
deriving Repr, DecidableEq, Inhabited

namespace Item

/-- The item of a token. -/
def ofToken (token : Token) : Item :=
  ⟨token.kind, token.text, Text.upper token.text⟩

/-- Whether an item is of a kind. -/
def isKind (kind : Kind) (item : Item) : Bool :=
  item.kind == kind

/-- Whether an item is a word without quotes. -/
def isWord (word : String) (item : Item) : Bool :=
  item.kind == .word && item.upper == word

/-- Whether an item is one of several words without quotes. -/
def isWordIn (words : List String) (item : Item) : Bool :=
  item.kind == .word && words.contains item.upper

/-- Whether an item is a symbol. -/
def isSymbol (text : String) (item : Item) : Bool :=
  item.kind == .symbol && item.text == text

/-- Whether an item is one of several symbols. -/
def isSymbolIn (texts : List String) (item : Item) : Bool :=
  item.kind == .symbol && texts.contains item.text

/-- Whether an item has a text, and is not a string. -/
def spells (text : String) (item : Item) : Bool :=
  item.kind != .text && item.upper == text

/-- Whether an item has one of several texts, and is not a string. -/
def spellsIn (texts : List String) (item : Item) : Bool :=
  item.kind != .text && texts.contains item.upper

/-- Whether an item is the negation in either spelling. -/
def isNot (item : Item) : Bool :=
  item.isWord "NOT" || item.isSymbol "!"

/-- Whether an item is the sign of a parameter. -/
def isParameterSign (item : Item) : Bool :=
  item.kind == .symbol && (item.text == "@" || item.text.startsWith "$")

/-- Whether an item can be taken where any word will do. Marks of one
character and some words cannot. -/
def isFree (item : Item) : Bool :=
  match item.kind with
  | .word => !item.isWordIn ["NOT", "SELECT", "UNKNOWN"]
  | .symbol =>
    item.text == "~" || (1 < item.text.length && item.text != "==" && !item.isParameterSign)
  | .name => true
  | .text => true
  | .otherText _ => true
  | .number => true
  | _ => false

/-- Whether an item is a word that may be a name. -/
def isNameWord (item : Item) : Bool :=
  item.kind == .word && Grammar.isNameWord item.upper

/-- Whether an item is a word for a built-in type. -/
def isTypeWord (item : Item) : Bool :=
  item.kind == .word && Grammar.isTypeWord item.upper

end Item

end SchemaTypes.Sql.Grammar

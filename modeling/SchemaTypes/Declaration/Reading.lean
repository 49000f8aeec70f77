import SchemaTypes.Declaration.OfTree
import SchemaTypes.Sql.Grammar.Table

/-!
# `SchemaTypes.Declaration.Reading`: declarations from a source

A source is cut into statements, and each statement gives a declaration
or is passed over because it is malformed. Statements do not influence
one another, with one exception: a column whose type has no name of its
own ends the reading, and what follows is not looked at.

`Reading.ofStatements` takes statements with whatever trees they come
with; `Reading.ofSource` uses the trees that the grammar gives.
-/

set_option autoImplicit false

namespace SchemaTypes

open Sql (Token Tree Dialect)

/-- A statement: its tokens, and its tree if it has one. -/
structure Statement where
  tokens : List Token
  tree : Option Tree
deriving Repr, Inhabited, BEq

/-- Where a statement starts in the source. -/
def Statement.start (s : Statement) : Nat :=
  (Sql.tokenSpan s.tokens).start

/-- A malformed statement that was passed over. -/
structure Skipped where
  start : Nat
  what : Malformed
deriving Repr, DecidableEq, Inhabited

/-- What is said of a statement that was passed over. -/
def Skipped.message (s : Skipped) : String :=
  let start := s.start
  s!"Skipping malformed declaration at offset {start}: " ++ s.what.message

/-- What reading a source came to. -/
structure Reading where
  declarations : List Declaration := []
  skipped : List Skipped := []
  /-- Whether the end of the source was reached. -/
  complete : Bool := true
deriving Repr, DecidableEq, Inhabited

namespace Reading

/-- The declarations of a list of statements. -/
def ofStatements : List Statement → Reading
  | [] => {}
  | s :: rest =>
    match Declaration.ofStatement s.tokens s.tree with
    | .ok declaration =>
      let reading := ofStatements rest
      { reading with declarations := declaration :: reading.declarations }
    | .error (.malformed what) =>
      let reading := ofStatements rest
      { reading with skipped := ⟨s.start, what⟩ :: reading.skipped }
    | .error _ => { complete := false }

/-- The statements of a list of tokens. -/
def statements (d : Dialect) (tokens : List Token) : List Statement :=
  (Sql.statements tokens).map fun tokens => ⟨tokens, Sql.Grammar.statement d tokens⟩

/-- The declarations of a source. The error is the text around the place
where the source cannot be cut into tokens. -/
def ofSource (d : Dialect) (source : List Char) : Except String Reading :=
  (Sql.Lexer.tokens d.quotes source).map fun tokens => ofStatements (statements d tokens)

end Reading

end SchemaTypes

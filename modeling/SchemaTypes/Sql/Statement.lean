import SchemaTypes.Sql.Token

/-!
# `SchemaTypes.Sql.Statement`: statements and their elements

A schema is cut into statements at its semicolons, wherever they stand.
The elements of a statement are what stands between the commas of its
first pair of parentheses; commas inside further parentheses or brackets
do not count.
-/

set_option autoImplicit false

namespace SchemaTypes.Sql

/-- The statements of a list of tokens, without the empty ones. -/
def statements (tokens : List Token) : List (List Token) :=
  (tokens.splitOnP fun token => token.kind == .semicolon).filter fun chunk => !chunk.isEmpty

/-- A piece of the source: its first position, and the first position
after it. -/
structure Span where
  start : Nat
  stop : Nat
deriving Repr, DecidableEq, Inhabited

/-- The span from one token to another. -/
def Token.spanTo (first last : Token) : Span :=
  ⟨first.first, last.last + 1⟩

/-- The span of a list of tokens. -/
def tokenSpan : List Token → Span
  | [] => ⟨0, 0⟩
  | token :: rest => token.spanTo ((token :: rest).getLastD token)

/-- The number of parentheses and brackets that are open after a token. -/
def nesting (depth : Int) (token : Token) : Int :=
  match token.kind with
  | .openParen => depth + 1
  | .openBracket => depth + 1
  | .closeParen => depth - 1
  | .closeBracket => depth - 1
  | _ => depth

/-- The spans of the elements from inside one on: `depth` parentheses and
brackets are open, and `current` holds the first and the last token of
the element so far. An element is complete only at a comma or at the
closing parenthesis. -/
def elementsFrom (depth : Int) (current : Option (Token × Token)) : List Token → List Span
  | [] => []
  | token :: rest =>
    let complete := (current.map fun ends => ends.1.spanTo ends.2).toList
    if depth = 0 ∧ token.kind = .comma then complete ++ elementsFrom 0 none rest
    else if depth = 0 ∧ token.kind = .closeParen then complete
    else
      let first := (current.map Prod.fst).getD token
      elementsFrom (nesting depth token) (some (first, token)) rest

/-- The spans of the elements of a statement. -/
def elementSpans (tokens : List Token) : List Span :=
  elementsFrom 0 none (tokens.dropWhile fun token => token.kind != .openParen).tail

end SchemaTypes.Sql

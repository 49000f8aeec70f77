/-!
# `SchemaTypes.Sql.Token`: tokens of a schema

A token has the text that it stands for, without quotes and escapes, and
the positions of its first and its last character in the source, quotes
included. Only the marks that structure a statement have kinds of their
own; every other mark or operator is a symbol.
-/

set_option autoImplicit false

namespace SchemaTypes.Sql

/-- The forms of strings that are not plain. -/
inductive TextForm where
  /-- A string in the character set of the nation. -/
  | national
  /-- A string or a number of binary digits. -/
  | bits
  /-- A string or a number of hexadecimal digits. -/
  | hex
  /-- A string with codes of characters. -/
  | escaped
  /-- A string with codes of Unicode characters. -/
  | unicode
  /-- A string between dollar signs. -/
  | dollar
deriving Repr, DecidableEq, Inhabited

/-- What kind of token a piece of source is. -/
inductive Kind where
  /-- A word without quotes, or a phrase that counts as one word. -/
  | word
  /-- A quoted name. -/
  | name
  /-- A plain string. -/
  | text
  /-- A string of another form: with a letter in front, or between
  dollar signs. -/
  | otherText (form : TextForm)
  | number
  | openParen
  | closeParen
  | openBracket
  | closeBracket
  | comma
  | dot
  | semicolon
  | symbol
deriving Repr, DecidableEq, Inhabited

/-- A token of the source. -/
structure Token where
  kind : Kind
  text : String
  first : Nat
  last : Nat
deriving Repr, DecidableEq, Inhabited

end SchemaTypes.Sql

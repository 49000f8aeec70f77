import SchemaTypes.Sql.Dialect
import SchemaTypes.Sql.Grammar.Parse

/-!
# `SchemaTypes.Sql.Grammar.Rule`: the rules that refer to each other

Expressions hold queries, queries hold expressions, and the elements of a
table hold both. The rules that are needed before they can be defined are
named here, and every module of the grammar takes a function `run` that
applies them. `Grammar.apply` ties the knot.

The module also has the rules for names, on which all others build.
-/

set_option autoImplicit false

namespace SchemaTypes.Sql.Grammar

/-- The rules that are applied from within others. -/
inductive Rule where
  /-- A statement inside another one. -/
  | statement
  /-- A query. `nested` allows parentheses around it, `table` allows a
  table in them, `named` a name after them, and `joined` further queries
  behind a set operation. -/
  | query (nested table named joined : Bool)
  /-- What may follow a query: set operations and clauses. -/
  | queryEnd (head : Tree)
  /-- An expression with an optional name. -/
  | expression
  | assignment
  | disjunction
  | equality
  | bitwise
  | term
  | factor
  | unary
  /-- An interval, a literal with its type in front, or a column. With
  `orName` set any name will do instead of a column. -/
  | operand (intervals orName : Bool)
  /-- An interval; with `led` set the word for it has to come first. -/
  | interval (led : Bool)
  /-- A type. `check` refuses what may be a call of a function, `schema`
  allows lengths of arrays, and `names` allows types that the schema
  declares. -/
  | type (check schema names : Bool)
  | typeField
  | column
  | field (any : Bool)
  | primary
  /-- A call of a function. `any` allows every word as its name, `bare`
  allows functions without parentheses, and `anonymous` takes no function
  for a known one. -/
  | call (any bare anonymous : Bool)
  /-- An argument of a call, which may have a name if `named` is set. -/
  | argument (named : Bool)
  /-- Subscripts, fields and casts after an operand. -/
  | suffixes (head : Tree)
  | ordered
  /-- A table of a query. With `schema` set its elements may follow, with
  `joins` set other tables that it is joined with. -/
  | table (schema joins : Bool)
  /-- What joins another table. -/
  | join
  /-- The elements of a table in parentheses. -/
  | elements (head : Option Tree)
  /-- What follows the name of a column. -/
  | columnEnd (head : Option Tree)
  | property

/-- Applies a rule. -/
abbrev Run := Rule → Parse (Option Tree)

open Parse

section
variable (run : Run)

/-- A parameter from behind its sign. -/
def parameter : Parse (Option Tree) := do
  match ← peek with
  | some item =>
    if item.kind == .name then
      advance
      return some (.other "parameter" item.text)
    else
      match ← run .primary with
      | some tree => return some (.other "parameter" tree.name)
      | none =>
        if ← anyItem then return some (.other "parameter" item.text)
        else return some (.other "parameter")
  | none => return some (.other "parameter")

/-- A sign that stands for a value. -/
def placeholder : Parse (Option Tree) := do
  let start ← get
  if ← symbol "?" then return some (.other "placeholder" "?")
  else if ← take Item.isParameterSign then parameter run
  else if ← symbol ":" then
    match ← peek with
    | some item =>
      if item.isNameWord || item.kind == .number then
        advance
        return some (.other "placeholder" item.text)
      else
        set start
        return none
    | none =>
      set start
      return none
  else return none

/-- A quoted name, or a sign that stands for one. -/
def quotedName : Parse (Option Tree) := do
  match ← peek with
  | some item =>
    if item.kind == .name then
      advance
      return some (.identifier item.text)
    else placeholder run
  | none => return none

/-- A name whose words pass a test. With `any` set, every word will do. -/
def nameOf (any : Bool) (test : Item → Bool) : Parse (Option Tree) := do
  match ← quotedName run with
  | some tree => return some tree
  | none =>
    match ← peek with
    | some item =>
      if (any && item.isFree) || test item then
        advance
        return some (.identifier item.text)
      else return none
    | none => return none

/-- A name. With `any` set, every word will do. -/
def name (any : Bool) : Parse (Option Tree) :=
  nameOf run any Item.isNameWord

/-- Any word, or a sign that stands for one. -/
def anyWord : Parse (Option Tree) := do
  match ← peek with
  | some item =>
    if item.isFree then
      advance
      return some (.other "var" item.text)
    else placeholder run
  | none => return none

/-- A plain word, or a sign that stands for one. -/
def plainWord : Parse (Option Tree) := do
  match ← peek with
  | some item =>
    if item.kind == .word && isPlainWord item.upper then
      advance
      return some (.other "var" item.text)
    else placeholder run
  | none => return none

/-- A string, or a sign that stands for one. Strings of digits or with
codes are none. -/
def string : Parse (Option Tree) := do
  match ← peek with
  | some item =>
    if [.text, .otherText .national, .otherText .unicode, .otherText .dollar].contains
        item.kind then
      advance
      return some (.literal item.text)
    else placeholder run
  | none => return none

/-- A plain word or a string. -/
def wordOrString : Parse (Option Tree) :=
  orElse (plainWord run) (string run)

/-- A number, or a sign that stands for one. Strings of digits or with
codes count as numbers. -/
def number : Parse (Option Tree) := do
  match ← peek with
  | some item =>
    if [.number, .otherText .bits, .otherText .hex, .otherText .escaped].contains item.kind then
      advance
      return some (.literal item.text)
    else placeholder run
  | none => return none

/-- Names in parentheses. -/
def names : Parse (List Tree) :=
  list (name run true)

end

/-- The option of one word, or of a word and a continuation of it, that
stands next. Nothing in quotes is one. -/
def optionIn (options : List (String × List (List String))) : Parse Bool := do
  let start ← get
  match ← peek with
  | some item =>
    if item.kind == .name || item.kind == .text then return false
    else
      match options.lookup item.upper with
      | some [] =>
        advance
        return true
      | some continuations =>
        advance
        for texts in continuations do
          if ← saidAll texts then return true
        set start
        return false
      | none => return false
  | none => return false

end SchemaTypes.Sql.Grammar

import SchemaTypes.Sql.Grammar.Call
import SchemaTypes.Sql.Grammar.Property
import SchemaTypes.Sql.Grammar.Type

/-!
# `SchemaTypes.Sql.Grammar.Table`: table statements

A table statement names a table, lists its elements and may go on with
properties, a query and indexes. The tree of a statement keeps the name
and the elements; everything else is read only to see that nothing is
left over.

A statement has a tree only if all of its items are taken, save that a
rest that starts with a comma or a closing parenthesis does not matter.

Every application of a rule from within a rule costs one step. A rule
that is entered again without an item having been taken is reached
through a bounded number of others, so `stepsFor`, which is linear in the
number of items, is never used up.
-/

set_option autoImplicit false

namespace SchemaTypes.Sql.Grammar

open Parse

/-- Applies a rule, with at most so many rules inside each other. -/
def apply (d : Dialect) : Nat → Run
  | 0, _ => refuse
  | steps + 1, rule =>
    let run := apply d steps
    match rule with
    | .statement => statementInside run
    | .query nested table named joined => query run nested table named joined
    | .queryEnd head => queryEnd run head
    | .expression => expression run
    | .assignment => assignment run
    | .disjunction => disjunction run
    | .equality => equality run
    | .bitwise => bitwise run
    | .term => term run
    | .factor => factor run
    | .unary => unary run
    | .operand intervals orName => operand run intervals orName
    | .interval led => interval run led
    | .type check schema names => type d run check schema names
    | .typeField => typeField run
    | .column => column run
    | .field any => field run any
    | .primary => primary run
    | .call any bare anonymous => call d run any bare anonymous
    | .argument named => argument run named
    | .suffixes head => suffixes run head
    | .ordered => orderedBy run (run .assignment)
    | .table schema joins => table run schema joins
    | .join => join run
    | .elements head => elements d run head
    | .columnEnd head => columnEnd d run head
    | .property => property run

/-- The steps that a statement of some items may take. -/
def stepsFor (items : List Item) : Nat :=
  64 * (items.length + 4)

section
variable (d : Dialect) (run : Run)

/-- The words up to `table`, and whether a table is created. -/
def tableHead : Parse Bool := do
  if ← word "CREATE" then
    skip (takeAll [Item.isWord "OR", Item.isWordIn ["REPLACE", "ALTER", "REFRESH"]])
    skip (word "UNIQUE")
    let isFunction ← secondIs (Item.isWord "FUNCTION")
    if ← word "TABLE" then return !isFunction
    else if ← properties run then word "TABLE"
    else return false
  else return false

/-- An index after the elements, if there is one. -/
def tableIndex : Parse Bool := do
  skip (word "UNIQUE")
  skip (said "PRIMARY")
  skip (said "AMP")
  let found ← word "INDEX"
  if found then
    skip (name run true)
    indexParameters run
  skip (properties run)
  if found then skip (mark .comma)
  return found

/-- What follows the elements: properties, a query and indexes. -/
def tableEnd : Parse Unit := do
  skip (properties run)
  let leads ← word "AS"
  let opensQuery (item : Item) : Bool :=
    item.kind == .openParen || item.isWordIn ["SELECT", "WITH"]
  unless ← nextIs opensQuery do skip (properties run)
  let tree ← setOperations run (← run (.query true false false true))
  clauses run tree
  if tree.isNone && leads then
    skip (attempt do return some (← tableName run false))
  skip (properties run)
  many (tableIndex run)
  skip (said "SHALLOW")
  if ← saidIn ["CLONE", "COPY"] then skip (run (.table true false))

/-- A statement that creates a table. -/
def tableStatement : Parse (Option Tree) := do
  if ← tableHead run then
    skip (said "CONCURRENTLY")
    skip (saidAll ["IF", "NOT", "EXISTS"])
    let qualified ← tableName run true
    skip (mark .comma)
    many (earlyProperty run)
    let target ← elements d run (some qualified.tree)
    tableEnd run
    let rest ← get
    if rest.rest.head?.all fun item => item.kind == .comma || item.kind == .closeParen then
      return some (.create (some "TABLE") target)
    else return none
  else return none

end

/-- The tree of a statement that creates a table, if it is one and all of
it is understood. -/
def statement (d : Dialect) (tokens : List Token) : Option Tree :=
  let items := tokens.map Item.ofToken
  match (tableStatement d (apply d (stepsFor items))).run (.ofItems items) with
  | .ok (tree, _) => tree
  | .error _ => none

end SchemaTypes.Sql.Grammar

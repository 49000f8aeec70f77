import SchemaTypes.Sql.Grammar.Item
import SchemaTypes.Sql.Tree

/-!
# `SchemaTypes.Sql.Grammar.Parse`: reading items one after the other

A reading goes from one place in a statement to another. A place is what
is left, together with the item that was taken last, which a few rules
look back at. A rule that finds nothing of its own leaves the place as it
is; a rule that goes back after it looked ahead puts the former place in
again.

Reading is lenient. What a rule misses, such as a closing parenthesis, is
a fault, and a fault is of no consequence except while a reading is
attempted: then it ends the attempt. A refusal ends the reading of the
whole statement.
-/

set_option autoImplicit false

namespace SchemaTypes.Sql.Grammar

/-- The reading of a statement has come to an end. -/
inductive Halt where
  | refused
deriving Repr, DecidableEq, Inhabited

/-- A place in a statement. -/
structure Place where
  rest : List Item
  /-- A number that what is left never exceeds. -/
  size : Nat
  last : Option Item := none
  /-- Whether a fault ends the attempt that is under way. -/
  strict : Bool := false
deriving Repr, Inhabited

/-- The place before the first of some items. -/
def Place.ofItems (items : List Item) : Place :=
  { rest := items, size := items.length }

/-- A reading. -/
abbrev Parse := StateT Place (Except Halt)

namespace Parse

/-- The next item. -/
def peek : Parse (Option Item) :=
  return (← get).rest.head?

/-- Whether the next item passes a test. -/
def nextIs (test : Item → Bool) : Parse Bool :=
  return (← get).rest.head?.any test

/-- Whether the item after the next passes a test. -/
def secondIs (test : Item → Bool) : Parse Bool :=
  return (← get).rest.tail.head?.any test

/-- Whether the item that was taken last passes a test. -/
def lastWas (test : Item → Bool) : Parse Bool :=
  return (← get).last.any test

/-- Whether nothing is left. -/
def atEnd : Parse Bool :=
  return (← get).rest.isEmpty

/-- Takes the next item, whatever it is. -/
def advance : Parse Unit :=
  modify fun place =>
    match place.rest with
    | item :: rest => { place with rest := rest, last := some item }
    | [] => place

/-- Takes the next item if it passes a test. -/
def take (test : Item → Bool) : Parse Bool := do
  if ← nextIs test then
    advance
    return true
  else
    return false

/-- Takes all that is left. -/
def advanceToEnd : Parse Unit :=
  modify fun place => { place with rest := [], last := place.rest.getLast? <|> place.last }

/-- Takes items that pass the tests in turn, all of them or none. -/
def takeAll (tests : List (Item → Bool)) : Parse Bool := do
  let items := (← get).rest.take tests.length
  if items.length = tests.length ∧ (tests.zip items).all fun (test, item) => test item then
    tests.forM fun _ => advance
    return true
  else
    return false

/-- Takes an item of a kind. -/
def mark (kind : Kind) : Parse Bool :=
  take (Item.isKind kind)

/-- Takes a word without quotes. -/
def word (word : String) : Parse Bool :=
  take (Item.isWord word)

/-- Takes one of several words without quotes. -/
def wordIn (words : List String) : Parse Bool :=
  take (Item.isWordIn words)

/-- Takes a symbol. -/
def symbol (text : String) : Parse Bool :=
  take (Item.isSymbol text)

/-- Takes one of several symbols. -/
def symbolIn (texts : List String) : Parse Bool :=
  take (Item.isSymbolIn texts)

/-- Takes an item with a text, unless it is a string. -/
def said (text : String) : Parse Bool :=
  take (Item.spells text)

/-- Takes an item with one of several texts, unless it is a string. -/
def saidIn (texts : List String) : Parse Bool :=
  take (Item.spellsIn texts)

/-- Takes items with the given texts, all of them or none. -/
def saidAll (texts : List String) : Parse Bool :=
  takeAll (texts.map Item.spells)

/-- Takes any item that can stand where any word will do. -/
def anyItem : Parse Bool :=
  take Item.isFree

/-- Something that should stand here is missing. -/
def fault : Parse Unit := do
  if (← get).strict then throw .refused

/-- Ends the reading of the statement. -/
def refuse {α : Type} : Parse α :=
  throw .refused

/-- Takes a closing parenthesis, which should stand here. -/
def close : Parse Unit := do
  unless ← mark .closeParen do fault

/-- A reading of other items, after which the place is the same as
before. -/
def aside {α : Type} (items : List Item) (reading : Parse α) : Parse α := do
  let place ← get
  set { Place.ofItems items with strict := place.strict }
  let found ← reading
  set place
  return found

/-- A reading that is given up at its first fault, or if it finds
nothing. -/
def attempt {α : Type} (reading : Parse (Option α)) : Parse (Option α) := fun place =>
  match reading { place with strict := true } with
  | .ok (some found, after) => .ok (some found, { after with strict := place.strict })
  | .ok (none, _) => .ok (none, place)
  | .error _ => .ok (none, place)

/-- The first of two readings that finds something. -/
def orElse {α : Type} (first second : Parse (Option α)) : Parse (Option α) := do
  match ← first with
  | some found => return some found
  | none => second

/-- Looks ahead: whether a reading finds something, which is not taken. -/
def ahead {α : Type} (reading : Parse (Option α)) : Parse Bool := fun place =>
  (attempt reading place).map fun (found, _) => (found.isSome, place)

/-- Repeats a step at most so often, until it gives nothing. -/
def repeatFor {α : Type} (step : α → Parse (Option α)) : Nat → α → Parse α
  | 0, value => return value
  | fuel + 1, value => do
    match ← step value with
    | some next => repeatFor step fuel next
    | none => return value

/-- Repeats a step that takes something until it gives nothing. -/
def repeating {α : Type} (step : α → Parse (Option α)) (value : α) : Parse α := do
  repeatFor step ((← get).size + 1) value

/-- Repeats a step that takes something until it takes nothing. -/
def many (step : Parse Bool) : Parse Unit :=
  repeating (fun _ => do if ← step then return some () else return none) ()

/-- Readings with commas between them, at most so many. -/
def separatedFor {α : Type} (reading : Parse (Option α)) : Nat → Parse (List α)
  | 0 => return []
  | fuel + 1 => do
    let first ← reading
    if ← mark .comma then return first.toList ++ (← separatedFor reading fuel)
    else return first.toList

/-- Readings with commas between them; some or all may find nothing. -/
def separated {α : Type} (reading : Parse (Option α)) : Parse (List α) := do
  separatedFor reading ((← get).size + 1)

/-- A reading in parentheses, which should stand around it. -/
def wrapped {α : Type} (reading : Parse α) : Parse α := do
  let opened ← mark .openParen
  unless opened do fault
  let found ← reading
  if opened then close
  return found

/-- Readings with commas between them in parentheses. -/
def list {α : Type} (reading : Parse (Option α)) : Parse (List α) :=
  wrapped (separated reading)

/-- Skips what a reading finds. -/
def skip {α : Type} (reading : Parse α) : Parse Unit := do
  let _ ← reading

/-- Skips what a reading finds after an item that it follows. -/
def skipAfter {α : Type} (lead : Parse Bool) (reading : Parse α) : Parse Unit := do
  if ← lead then skip reading

end Parse

end SchemaTypes.Sql.Grammar

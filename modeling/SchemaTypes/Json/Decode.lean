import SchemaTypes.Json.Basic
import SchemaTypes.Text.Case

/-!
# `SchemaTypes.Json.Decode`: values of a given kind out of JSON

A decoder looks at every part of a value before it answers, and lists
all faults in the order in which the parts are looked at. `Checked` is
therefore applicative and not a monad: the second part is looked at
whether or not the first is sound.

A switch may be written as a truth value, as 0 or 1, or as one of a few
words in any case. A whole number may be written as digits in a text or
as a number with a zero fraction.
-/

set_option autoImplicit false

namespace SchemaTypes.Json

/-- Why a value cannot be taken for what is asked. -/
inductive Cause where
  | missing
  | notText
  | notSwitch
  | unreadableSwitch
  | notNumber
  | unreadableNumber
  | notFinite
  | notWhole
  | tooLarge
  | negative
  | notList
  | notObject
  | notMember
  | notPath
  | refused
deriving Repr, DecidableEq, Inhabited

/-- One step from a value to a part of it. -/
inductive Step where
  | field (name : String)
  | item (index : Nat)
deriving Repr, DecidableEq, Inhabited

/-- A part that cannot be taken for what is asked. -/
structure Fault where
  path : List Step
  cause : Cause
deriving Repr, DecidableEq, Inhabited

/-- A decoded value, or every fault in the way of it. -/
inductive Checked (α : Type) where
  | valid (value : α)
  | faulty (faults : List Fault)
deriving Repr

namespace Checked

/-- Both results if both are valid, and the faults of both otherwise. -/
def apply {α β : Type} (f : Checked (α → β)) (x : Checked α) : Checked β :=
  match f, x with
  | .valid f, .valid x => .valid (f x)
  | .valid _, .faulty faults => .faulty faults
  | .faulty faults, .valid _ => .faulty faults
  | .faulty first, .faulty second => .faulty (first ++ second)

instance : Applicative Checked where
  pure := .valid
  seq f x := apply f (x ())

/-- The result of one part, its faults seen from the whole. -/
def under {α : Type} (step : Step) : Checked α → Checked α
  | .valid value => .valid value
  | .faulty faults => .faulty (faults.map fun fault => { fault with path := step :: fault.path })

/-- A single fault at the value itself. -/
def refuse {α : Type} (cause : Cause) : Checked α :=
  .faulty [⟨[], cause⟩]

end Checked

/-- A text. -/
def checkText : Json → Checked String
  | .str s => .valid s
  | _ => .refuse .notText

/-- A text or nothing. -/
def checkTextOrNull : Json → Checked (Option String)
  | .null => .valid none
  | .str s => .valid (some s)
  | _ => .refuse .notText

/-- The words that switch off. -/
def offWords : List String := ["0", "off", "f", "false", "n", "no"]

/-- The words that switch on. -/
def onWords : List String := ["1", "on", "t", "true", "y", "yes"]

/-- Whether a whole number fits into a machine word of 64 bits. -/
def fitsWord (n : Int) : Bool :=
  -9223372036854775808 ≤ n && n ≤ 9223372036854775807

/-- The whole number that a double denotes, if it lies strictly between
the bounds of a machine word. -/
def wordOfReal? (r : Binary64) : Option Int :=
  r.toInt?.filter fun n => -9223372036854775808 < n && n < 9223372036854775807

/-- A switch given by a number. -/
def checkSwitchNumber (n : Int) : Checked Bool :=
  if n == 0 then .valid false
  else if n == 1 then .valid true
  else if fitsWord n then .refuse .unreadableSwitch
  else .refuse .notSwitch

/-- A switch. -/
def checkSwitch : Json → Checked Bool
  | .bool b => .valid b
  | .int n => checkSwitchNumber n
  | .real r =>
    match wordOfReal? r with
    | some n => checkSwitchNumber n
    | none => .refuse .notSwitch
  | .str s =>
    let word := Text.lower s
    if offWords.contains word then .valid false
    else if onWords.contains word then .valid true
    else .refuse .unreadableSwitch
  | _ => .refuse .notSwitch

/-- The digits of a number without the underscores between two of them;
nothing if the text has another form. -/
def groupedDigits : List Char → Option (List Char)
  | [] => none
  | [c] => if c.isDigit then some [c] else none
  | c :: '_' :: rest =>
    if c.isDigit && !rest.isEmpty then (groupedDigits rest).map (c :: ·) else none
  | c :: rest => if c.isDigit then (groupedDigits rest).map (c :: ·) else none

/-- The digits without the zeros in front, and without underscores among
those zeros. One zero is left if there is nothing else. -/
def dropLeadingZeros (digits : List Char) : List Char :=
  match digits with
  | '0' :: rest =>
    let zeros := rest.takeWhile fun c => c == '0' || c == '_'
    match rest.drop zeros.length with
    | [] => [zeros.getLastD '0']
    | '.' :: more => zeros.getLastD '0' :: '.' :: more
    | more => more
  | _ => digits

/-- Whether a character may stand around the digits of a number. These
are the blanks other than the information separators. -/
def isNumberBlank (c : Char) : Bool :=
  Text.isBlank c && !('\x1c' ≤ c && c ≤ '\x1f')

/-- The whole number that a text denotes. A point may follow the digits
if nothing but zeros follows the point. -/
def wholeNumber? (text : List Char) : Option Int :=
  let text := ((text.dropWhile isNumberBlank).reverse.dropWhile isNumberBlank).reverse
  let (negative, digits) :=
    match text with
    | '-' :: rest => (true, rest)
    | '+' :: rest => (false, dropLeadingZeros rest)
    | _ => (false, dropLeadingZeros text)
  let whole := digits.takeWhile (· != '.')
  let fraction := digits.drop (whole.length + 1)
  let hasFraction := whole.length < digits.length
  if hasFraction && (fraction.isEmpty || fraction.any (· != '0')) then none
  else
    (groupedDigits whole).map fun ds =>
      let n : Int := ds.foldl (fun value c => 10 * value + (c.toNat - '0'.toNat)) 0
      if negative then -n else n

/-- A whole number that is not negative. -/
def checkNatural (value : Json) : Checked Nat :=
  let natural (n : Int) : Checked Nat :=
    if n < 0 then .refuse .negative else .valid n.toNat
  match value with
  | .int n => natural n
  | .bool b => .valid (if b then 1 else 0)
  | .real r =>
    match r, r.toInt?, wordOfReal? r with
    | .finite .., some _, some n => natural n
    | .finite .., some _, none => .refuse .tooLarge
    | .finite .., none, _ => .refuse .notWhole
    | _, _, _ => .refuse .notFinite
  | .str s =>
    match wholeNumber? s.toList with
    | some n => natural n
    | none => .refuse .unreadableNumber
  | _ => .refuse .notNumber

/-- The items of a list from position `index` on, each by a decoder. -/
def checkItems {α : Type} (check : Json → Checked α) (index : Nat) :
    List Json → Checked (List α)
  | [] => .valid []
  | item :: items =>
    ((· :: ·) <$> Checked.under (.item index) (check item)) <*> checkItems check (index + 1) items

/-- A list, each item by a decoder. -/
def checkList {α : Type} (check : Json → Checked α) : Json → Checked (List α)
  | .arr items => checkItems check 0 items
  | _ => .refuse .notList

/-- An object, its fields by a decoder. -/
def checkObject {α : Type} (check : List (String × Json) → Checked α) : Json → Checked α
  | .obj fields => check fields
  | _ => .refuse .notObject

/-- The value of a field that may be written under two names, the first
of which is preferred, with the name it is found under. -/
def lookupEither (fields : List (String × Json)) (key other : String) : Option (String × Json) :=
  ((lookup fields key).map (key, ·)) <|> ((lookup fields other).map (other, ·))

/-- A field that has to be there. -/
def required {α : Type} (fields : List (String × Json)) (key : String)
    (check : Json → Checked α) : Checked α :=
  Checked.under (.field key) <|
    match lookup fields key with
    | some value => check value
    | none => .refuse .missing

/-- A field that may be left out, under either of two names. A fault
has the name that the field is found under. -/
def optionalEither {α : Type} (fields : List (String × Json)) (key other : String) (absent : α)
    (check : Json → Checked α) : Checked α :=
  match lookupEither fields key other with
  | some (name, value) => Checked.under (.field name) (check value)
  | none => .valid absent

/-- A field that may be left out. -/
def optional {α : Type} (fields : List (String × Json)) (key : String) (absent : α)
    (check : Json → Checked α) : Checked α :=
  optionalEither fields key key absent check

end SchemaTypes.Json

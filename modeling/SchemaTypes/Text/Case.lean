import SchemaTypes.Text.Blank
import SchemaTypes.Text.CaseTable

/-!
# `SchemaTypes.Text.Case`: upper and lower case

The full case mappings: a character may become a sequence (`ß` becomes
`SS`), and the lower-case form of a capital sigma is `ς` at the end of a
word and `σ` elsewhere. ASCII is answered before the tables are read, so
that the common case needs none of them.
-/

set_option autoImplicit false

namespace SchemaTypes.Text

/-- The code point that a run gives for `code`, if `code` belongs to it. -/
def CaseRun.apply? (run : CaseRun) (code : Nat) : Option Nat :=
  if run.first ≤ code && code ≤ run.last && (code - run.first) % run.step == 0 then
    some (Int.ofNat code + run.shift).toNat
  else
    none

/-- The form of a character in a case given by a table of runs and a
table of sequences; a character in neither table keeps its form. -/
def mapCase (runs : List CaseRun) (sequences : List (Nat × List Nat)) (c : Char) : List Char :=
  match sequences.lookup c.toNat with
  | some codes => codes.map Char.ofNat
  | none => [Char.ofNat ((runs.findSome? fun run => run.apply? c.toNat).getD c.toNat)]

/-- The upper-case form of a character. -/
def upperChar (c : Char) : List Char :=
  if c.toNat < 0x80 then [c.toUpper] else mapCase upperRuns upperSequences c

/-- The lower-case form of a character on its own. -/
def lowerChar (c : Char) : List Char :=
  if c.toNat < 0x80 then [c.toLower] else mapCase lowerRuns lowerSequences c

/-- Whether the first character that is not skipped has case. -/
def meetsCased (s : List Char) : Bool :=
  match s.dropWhile fun c => inRanges transparentRanges c.toNat with
  | [] => false
  | c :: _ => inRanges casedRanges c.toNat

/-- The lower-case form of a text. `before` is what stands in front of
it, last character first: a capital sigma ends a word when a letter with
case stands before it and none follows. -/
def lowerFrom (before : List Char) : List Char → List Char
  | [] => []
  | c :: rest =>
    let form :=
      if c == 'Σ' then
        [if meetsCased before && !meetsCased rest then 'ς' else 'σ']
      else
        lowerChar c
    form ++ lowerFrom (c :: before) rest

/-- The lower-case form of a text. -/
def lower (s : String) : String :=
  String.ofList (lowerFrom [] s.toList)

/-- The upper-case form of a text. -/
def upper (s : String) : String :=
  String.ofList (s.toList.flatMap upperChar)

end SchemaTypes.Text

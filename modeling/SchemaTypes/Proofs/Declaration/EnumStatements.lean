import Mathlib.Data.List.TakeWhile
import SchemaTypes.Declaration.Reading
import SchemaTypes.Proofs.Declaration.TableElements
import SchemaTypes.Proofs.Runs

/-!
# `SchemaTypes.Proofs.Declaration.EnumStatements`: which statements declare an enum

An enum is recognised on the tokens of its statement, before any tree is
looked at. `EnumHead` is the part that decides whether a statement is about
an enum at all: the words `create type`, the tokens of a name, and then,
at the first `as`, the words `as enum`. What follows decides whether the
statement can be read.

A well-formed statement has a name, with or without a schema in front of it
(`Qualified`), and strings with commas between them in parentheses
(`Listed`). The recogniser accepts more than that: it takes the last token
of the name that is no dot, and of everything between the parentheses it
keeps the strings. `Declares` says exactly what it accepts and what it
makes of it.

`enum_statements_recognised` joins the three: a well-formed statement gives
the enum that is written there, an enum comes only from tokens that declare
it, and a statement with such a head and without a name or parentheses is
malformed and passed over. The tree of the statement has no say in this.
-/

set_option autoImplicit false

namespace SchemaTypes.Sql

/-- Whether a token is a word, in capitals or not. -/
def Token.Says (token : Token) (word : String) : Prop :=
  Text.upper token.text = word

end SchemaTypes.Sql

namespace SchemaTypes.Declaration

open Sql (Token Tree)

/-- The start of an enum statement. The name ends at the first `as`. -/
structure EnumHead where
  create : Token
  type : Token
  name : List Token
  asWord : Token
  enumWord : Token
  create_says : create.Says "CREATE"
  type_says : type.Says "TYPE"
  name_says : ∀ token ∈ name, ¬ token.Says "AS"
  as_says : asWord.Says "AS"
  enum_says : enumWord.Says "ENUM"

/-- The tokens of an enum statement that goes on with the given ones. -/
def EnumHead.tokens (head : EnumHead) (behind : List Token) : List Token :=
  head.create :: head.type :: (head.name ++ head.asWord :: head.enumWord :: behind)

/-- The texts of a name that are not the dots between them. -/
def nameParts (name : List Token) : List String :=
  (name.filter fun token => token.kind != .dot).map Token.text

/-- The texts of the strings among tokens. -/
def stringTexts (tokens : List Token) : List String :=
  (tokens.filter fun token => token.kind == .text).map Token.text

/-- Tokens between an opening and a closing parenthesis. -/
structure Enclosed (tokens : List Token) (opening : Token) (body : List Token)
    (closing : Token) : Prop where
  eq : tokens = opening :: (body ++ [closing])
  opening_kind : opening.kind = .openParen
  closing_kind : closing.kind = .closeParen

/-- A name alone, or a name behind a schema and a dot. -/
inductive Qualified : List Token → Option String → String → Prop
  | plain {name : Token} : name.kind ≠ .dot → Qualified [name] none name.text
  | inSchema {schema dot name : Token} : schema.kind ≠ .dot → dot.kind = .dot → name.kind ≠ .dot →
      Qualified [schema, dot, name] (some schema.text) name.text

/-- Strings with commas between them, and their texts. -/
inductive Listed : List Token → List String → Prop
  | none : Listed [] []
  | one {value : Token} : value.kind = .text → Listed [value] [value.text]
  | more {value comma next : Token} {rest : List Token} {values : List String} :
      value.kind = .text → comma.kind = .comma → Listed (next :: rest) values →
      Listed (value :: comma :: next :: rest) (value.text :: values)

/-- Whether tokens declare an enum. Its name is the last text of the name
and its schema the one before. -/
def Declares (tokens : List Token) (e : EnumType) : Prop :=
  ∃ (head : EnumHead) (behind : List Token) (opening : Token) (body : List Token) (closing : Token)
    (qualifiers : List String),
    tokens = head.tokens behind ∧ Enclosed behind opening body closing ∧
      nameParts head.name = qualifiers ++ [e.name] ∧ e.schema = qualifiers.getLast? ∧
      e.values = stringTexts body ∧
      e.extent = ⟨some head.create.first, some (closing.last + 1)⟩

/-- What a statement with the head of an enum statement lacks. Without a
name it does not matter what stands behind. -/
def Lacks (head : EnumHead) (behind : List Token) : Malformed → Prop
  | .enumWithoutName => nameParts head.name = []
  | .enumWithoutValues name => (nameParts head.name).getLast? = some name ∧
      ¬ ∃ opening body closing, Enclosed behind opening body closing
  | _ => False

/-! ## The parts of a statement -/

/-- A statement is cut at the first `as` if `create type` stands in front
and `enum` behind it. -/
theorem enumParts?_eq_some_iff {tokens name behind : List Token} :
    enumParts? tokens = some (name, behind) ↔
      ∃ head : EnumHead, head.name = name ∧ tokens = head.tokens behind := by
  constructor
  · intro h
    unfold enumParts? at h
    split at h
    case h_2 => cases h
    case h_1 first second rest =>
      simp only [Proofs.drop_length_takeWhile] at h
      split at h
      case h_2 => cases h
      case h_1 asWord third body hdrop =>
        split at h
        case isFalse => cases h
        case isTrue hwords =>
          obtain ⟨rfl, rfl⟩ := Prod.mk.inj (Option.some.inj h)
          simp only [Bool.and_eq_true, beq_iff_eq] at hwords
          have hname : ∀ token ∈ rest.takeWhile fun token => Text.upper token.text != "AS",
              Text.upper token.text ≠ "AS" := by
            intro token htoken
            simpa using List.mem_takeWhile_imp htoken
          -- The name stops where the test first fails, which is at an `as`.
          have has : Text.upper asWord.text = "AS" := by
            have hstop := List.head?_dropWhile_not (fun token => Text.upper token.text != "AS") rest
            rw [hdrop] at hstop
            simpa using hstop
          refine ⟨⟨first, second, _, asWord, third, hwords.1.1, hwords.1.2, hname, has, hwords.2⟩,
            rfl, ?_⟩
          show first :: second :: rest = first :: second :: (_ ++ asWord :: third :: body)
          rw [← hdrop, List.takeWhile_append_dropWhile]
  · rintro ⟨head, rfl, rfl⟩
    have hcreate : Text.upper head.create.text = "CREATE" := head.create_says
    have htype : Text.upper head.type.text = "TYPE" := head.type_says
    have has : Text.upper head.asWord.text = "AS" := head.as_says
    have henum : Text.upper head.enumWord.text = "ENUM" := head.enum_says
    -- No token of the name is an `as`, so the cut is made behind all of them.
    have hname : (head.name ++ head.asWord :: head.enumWord :: behind).takeWhile
        (fun token => Text.upper token.text != "AS") = head.name := by
      rw [Proofs.takeWhile_append_cons (by simpa using has), List.takeWhile_eq_self_iff]
      intro token htoken
      have hother : Text.upper token.text ≠ "AS" := head.name_says token htoken
      simpa using hother
    simp [enumParts?, EnumHead.tokens, hname, hcreate, htype, henum]

/-- Tokens are in parentheses if they start with an opening and end with a
closing one. What stands between the two is not looked at by `inParens?`. -/
theorem inParens?_eq_some_iff {tokens body : List Token} :
    inParens? tokens = some body ↔ ∃ opening closing, Enclosed tokens opening body closing := by
  constructor
  · intro h
    -- What is left after the case splits has a first token, a last one, and the right kinds.
    unfold inParens? at h
    split at h
    case h_2 => cases h
    case h_1 first rest =>
      split at h
      case h_2 => cases h
      case h_1 last hlast =>
        split at h
        case isFalse => cases h
        case isTrue hkinds =>
          obtain rfl := Option.some.inj h
          obtain ⟨init, rfl⟩ := List.getLast?_eq_some_iff.mp hlast
          exact ⟨first, last, by rw [List.dropLast_concat], hkinds.1, hkinds.2⟩
  · rintro ⟨opening, closing, rfl, hopening, hclosing⟩
    simp [inParens?, hopening, hclosing]

/-- What `enum?` makes of a statement with the head of an enum statement:
the first thing that is missing is reported, the name before the values. -/
theorem enum?_tokens (head : EnumHead) (behind : List Token) :
    enum? (head.tokens behind) =
      some (match (nameParts head.name).reverse with
        | [] => .error .enumWithoutName
        | name :: qualifiers =>
          match inParens? behind with
          | none => .error (.enumWithoutValues name)
          | some body =>
            .ok { name, values := stringTexts body, schema := qualifiers.head?,
                  extent := extentOf (Sql.tokenSpan (head.tokens behind)) }) := by
  rw [enum?, enumParts?_eq_some_iff.mpr ⟨head, rfl, rfl⟩]
  rfl

/-- The extent of a statement reaches from its first token to its last, here
from the word `create` to the closing parenthesis. -/
theorem tokenSpan_tokens (head : EnumHead) (opening closing : Token) (body : List Token) :
    Sql.tokenSpan (head.tokens (opening :: (body ++ [closing]))) =
      ⟨head.create.first, closing.last + 1⟩ := by
  have hlast : head.tokens (opening :: (body ++ [closing])) =
      (head.create :: head.type ::
        (head.name ++ head.asWord :: head.enumWord :: opening :: body)) ++ [closing] := by
    simp [EnumHead.tokens]
  show head.create.spanTo ((head.tokens (opening :: (body ++ [closing]))).getLastD head.create) = _
  rw [hlast, List.getLastD_concat]
  rfl

/-- An enum is recognised exactly in tokens that declare it, as `Declares`
describes them. -/
theorem enum?_eq_ok_iff {tokens : List Token} {e : EnumType} :
    enum? tokens = some (.ok e) ↔ Declares tokens e := by
  constructor
  · intro h
    obtain ⟨⟨name, behind⟩, hparts, -⟩ := Option.map_eq_some_iff.mp h
    obtain ⟨head, -, rfl⟩ := enumParts?_eq_some_iff.mp hparts
    rw [enum?_tokens] at h
    split at h
    case h_1 => cases h
    case h_2 name qualifiers hname =>
      split at h
      case h_1 => cases h
      case h_2 body hbody =>
        obtain rfl := Except.ok.inj (Option.some.inj h)
        obtain ⟨opening, closing, rfl, hopening, hclosing⟩ := inParens?_eq_some_iff.mp hbody
        refine ⟨head, _, opening, body, closing, qualifiers.reverse, rfl,
          ⟨rfl, hopening, hclosing⟩, ?_, ?_, rfl, ?_⟩
        · rw [← List.reverse_cons, ← hname, List.reverse_reverse]
        · exact List.getLast?_reverse.symm
        · show extentOf _ = _
          rw [tokenSpan_tokens]
          rfl
  · obtain ⟨name, values, schema, extent⟩ := e
    rintro ⟨head, behind, opening, body, closing, qualifiers, rfl, ⟨rfl, hopening, hclosing⟩,
      hname, rfl, rfl, rfl⟩
    have hbody : inParens? (opening :: (body ++ [closing])) = some body :=
      inParens?_eq_some_iff.mpr ⟨opening, closing, rfl, hopening, hclosing⟩
    -- The recogniser reads the parts of the name from the end.
    have hreverse : (nameParts head.name).reverse = name :: qualifiers.reverse := by
      rw [hname, List.reverse_append, List.reverse_singleton, List.singleton_append]
    rw [enum?_tokens, hreverse, hbody, tokenSpan_tokens]
    dsimp only
    rw [List.head?_reverse]
    rfl

/-! ## Statements -/

/-- The outcome of a statement is an enum exactly if its tokens declare it
(`Declares`). No tree makes an enum of a statement, and none keeps it from
being one. -/
theorem ofStatement_eq_enum_iff {tokens : List Token} {tree : Option Tree} {e : EnumType} :
    ofStatement tokens tree = .ok (.enum e) ↔ Declares tokens e := by
  rw [← enum?_eq_ok_iff]
  unfold ofStatement
  split
  case h_1 found henum => simp [henum]
  case h_2 what henum => simp [henum]
  case h_3 henum =>
    -- A tree gives a table or an unsupported statement.
    refine iff_of_false ?_ (by simp [henum])
    intro h
    split at h
    case h_1 target _ =>
      rcases tableOf_cases tokens target with ⟨⟨what, hwhat⟩, -⟩ | ⟨name, schema, trees, -, -, heq⟩
      · rw [hwhat] at h
        cases h
      · rw [heq] at h
        obtain ⟨parts, -, h⟩ := Proofs.bind_eq_ok_iff.mp h
        obtain ⟨extent, -, h⟩ := Proofs.bind_eq_ok_iff.mp h
        cases h
    case h_2 =>
      obtain ⟨extent, -, h⟩ := Proofs.map_eq_ok_iff.mp h
      cases h

/-- A name that is `Qualified` ends with the name of the enum, behind its
schema. Dots are left out of it. -/
theorem Qualified.nameParts_eq {tokens : List Token} {schema : Option String} {name : String}
    (h : Qualified tokens schema name) : nameParts tokens = schema.toList ++ [name] := by
  cases h with
  | plain hname => simp [nameParts, hname]
  | inSchema hschema hdot hname => simp [nameParts, hschema, hdot, hname]

/-- Of strings and commas between them, as in `Listed`, the strings are
kept, in their order and as often as they stand there. -/
theorem Listed.stringTexts_eq {tokens : List Token} {values : List String}
    (h : Listed tokens values) : stringTexts tokens = values := by
  induction h with
  | none => rfl
  | one hvalue => simp [stringTexts, hvalue]
  | more hvalue hcomma _ ih =>
    rw [← ih]
    simp [stringTexts, hvalue, hcomma]

/-- The recogniser refuses a statement that lacks a part, and says which.
The cases of `what` are those in which `Lacks` holds. -/
theorem enum?_of_lacks {head : EnumHead} {behind : List Token} {what : Malformed}
    (h : Lacks head behind what) : enum? (head.tokens behind) = some (.error what) := by
  rw [enum?_tokens]
  cases what with
  | enumWithoutName =>
    have hnone : nameParts head.name = [] := h
    rw [hnone]
    rfl
  | enumWithoutValues name =>
    obtain ⟨hname, hbehind⟩ := h
    -- Without parentheses behind the name there is no body to find.
    have hparens : inParens? behind = none := by
      rw [Option.eq_none_iff_forall_not_mem]
      intro body hbody
      obtain ⟨opening, closing, henclosed⟩ := inParens?_eq_some_iff.mp hbody
      exact hbehind ⟨opening, body, closing, henclosed⟩
    obtain ⟨qualifiers, hparts⟩ := List.getLast?_eq_some_iff.mp hname
    rw [hparts, List.reverse_append, List.reverse_singleton, List.singleton_append, hparens]
  | _ => exact h.elim

/-- A statement without a name or without parentheses lacks something, in
the sense of `Lacks`. If it lacks both, the name is what is reported. -/
theorem exists_lacks {head : EnumHead} {behind : List Token}
    (h : nameParts head.name = [] ∨
      ¬ ∃ opening body closing, Enclosed behind opening body closing) :
    ∃ what, Lacks head behind what := by
  by_cases hname : nameParts head.name = []
  · exact ⟨.enumWithoutName, hname⟩
  · exact ⟨.enumWithoutValues _, List.getLast?_eq_some_getLast hname, h.resolve_left hname⟩

/-- **Enum statements are recognised exactly.**

- A statement `create type … as enum (…)`, in capitals or not, with a name
  or a name in a schema and with strings between commas, gives the enum with
  this name and schema and these values, whatever its tree is.
- A statement gives an enum exactly if its tokens declare it.
- A statement that starts as an enum statement and has no name or no
  parentheses is malformed, and a source is read on without it. -/
theorem enum_statements_recognised :
    (∀ (head : EnumHead) (schema : Option String) (name : String) (values : List String)
        (behind : List Token) (opening : Token) (body : List Token) (closing : Token)
        (tree : Option Tree),
      Qualified head.name schema name → Enclosed behind opening body closing → Listed body values →
      ofStatement (head.tokens behind) tree = .ok (.enum
        { name, values, schema
          extent := ⟨some head.create.first, some (closing.last + 1)⟩ })) ∧
    (∀ (tokens : List Token) (tree : Option Tree) (e : EnumType),
      ofStatement tokens tree = .ok (.enum e) ↔ Declares tokens e) ∧
    ∀ (head : EnumHead) (behind : List Token) (tree : Option Tree),
      (nameParts head.name = [] ∨ ¬ ∃ opening body closing, Enclosed behind opening body closing) →
      ∃ what, Lacks head behind what ∧
        ofStatement (head.tokens behind) tree = .error (.malformed what) ∧
        ∀ rest, Reading.ofStatements (⟨head.tokens behind, tree⟩ :: rest) =
          { Reading.ofStatements rest with
            skipped := ⟨head.create.first, what⟩ :: (Reading.ofStatements rest).skipped } := by
  refine ⟨?_, fun _ _ _ => ofStatement_eq_enum_iff, ?_⟩
  · intro head schema name values behind opening body closing tree hname henclosed hlisted
    refine ofStatement_eq_enum_iff.mpr ⟨head, behind, opening, body, closing, schema.toList, rfl,
      henclosed, hname.nameParts_eq, ?_, hlisted.stringTexts_eq.symm, rfl⟩
    cases schema <;> rfl
  · intro head behind tree hlacks
    obtain ⟨what, hwhat⟩ := exists_lacks hlacks
    have hread : ofStatement (head.tokens behind) tree = .error (.malformed what) := by
      rw [ofStatement, enum?_of_lacks hwhat]
    refine ⟨what, hwhat, hread, ?_⟩
    intro rest
    rw [Reading.ofStatements, hread]
    rfl

/-- The head of `Create Type app.mood as ENUM`. -/
def moodHead : EnumHead where
  create := ⟨.word, "Create", 0, 5⟩
  type := ⟨.word, "Type", 7, 10⟩
  name := [⟨.word, "app", 12, 14⟩, ⟨.dot, ".", 15, 15⟩, ⟨.name, "mood", 16, 21⟩]
  asWord := ⟨.word, "as", 23, 24⟩
  enumWord := ⟨.word, "ENUM", 26, 29⟩
  create_says := by rfl
  type_says := by rfl
  name_says := by unfold Sql.Token.Says; decide +kernel
  as_says := by rfl
  enum_says := by rfl

/-- The strings `('sad', 'sad')` behind it. -/
def moodBody : List Token :=
  [⟨.text, "sad", 32, 36⟩, ⟨.comma, ",", 37, 37⟩, ⟨.text, "sad", 39, 43⟩]

/-- A value that is listed twice is kept twice, and without the
parentheses the statement is malformed. -/
theorem enum_statements_recognised_mood :
    Qualified moodHead.name (some "app") "mood" ∧ Listed moodBody ["sad", "sad"] ∧
    ofStatement (moodHead.tokens
        (⟨.openParen, "(", 31, 31⟩ :: (moodBody ++ [⟨.closeParen, ")", 44, 44⟩]))) none =
      .ok (.enum { name := "mood", values := ["sad", "sad"], schema := some "app"
                   extent := ⟨some 0, some 45⟩ }) ∧
    (¬ ∃ opening body closing, Enclosed moodBody opening body closing) ∧
    ofStatement (moodHead.tokens moodBody) none =
      .error (.malformed (.enumWithoutValues "mood")) := by
  have hname : Qualified moodHead.name (some "app") "mood" :=
    .inSchema (by decide) rfl (by decide)
  have hlisted : Listed moodBody ["sad", "sad"] := .more rfl rfl (.one rfl)
  -- The list alone does not start with a parenthesis.
  have hopen : ¬ ∃ opening body closing, Enclosed moodBody opening body closing := by
    rintro ⟨opening, body, closing, heq, hopening, -⟩
    obtain ⟨rfl, -⟩ := List.cons.inj heq
    cases hopening
  obtain ⟨hread, -, hmalformed⟩ := enum_statements_recognised
  refine ⟨hname, hlisted, ?_, hopen, ?_⟩
  · exact hread moodHead _ _ _ _ _ _ _ none hname ⟨rfl, rfl, rfl⟩ hlisted
  · obtain ⟨what, hwhat, hrefused, -⟩ := hmalformed moodHead moodBody none (Or.inr hopen)
    cases what with
    | enumWithoutName => exact absurd hwhat (by simp [Lacks, nameParts, moodHead])
    | enumWithoutValues name =>
      obtain rfl : "mood" = name := Option.some.inj hwhat.1
      exact hrefused
    | _ => exact hwhat.elim

end SchemaTypes.Declaration

import SchemaTypes.Generate.Run
import SchemaTypes.Proofs.Declaration.Shift
import SchemaTypes.Proofs.Generate.TablespaceClauses
import SchemaTypes.Proofs.Sql.Lexer.Seam

/-!
# `SchemaTypes.Proofs.Generate.Fragments`: the declarations of joined fragments

A source is joined from fragments as text, and only then is it cut into
statements. `ReadsApart` says that two fragments keep their declarations
all the same: what is read and reported is what the one gives, and then
what the other gives, moved behind the first and the empty line between
them.

A semicolon at the place where the fragments meet is what this hangs on.
The empty line does not stand for one: `not_readsApart_unterminated` has
two enums that become one. `readsApart_iff_parted` shows that it is no
accident. It takes it for granted that the fragments keep their tokens
(for which `keepsApart_of_semicolon` gives a reason) and that no
tablespace clause reaches over the place.
-/

set_option autoImplicit false

namespace SchemaTypes

open Sql (Token Dialect)
open Source (join separator)

/-- An event about what stands `n` characters further on. -/
def Event.shift (n : Nat) : Event → Event
  | .skipping what => .skipping (what.shift n)
  | event => event

/-- The declarations of a source that stands `n` characters further on. -/
def Logged.shift (n : Nat) (l : Logged (List Declaration)) : Logged (List Declaration) :=
  ⟨l.events.map (Event.shift n), l.result.map (List.map (Declaration.shift n))⟩

/-- The declarations of two fragments are those of the one and then those
of the other, which stand behind the first and what separates them. -/
def ReadsApart (d : Dialect) (first second : String) : Prop :=
  readDeclarations d (join [first, second]) = do
    let declarations ← readDeclarations d (join [first])
    let declarations' ← (readDeclarations d (join [second])).shift
      ((join [first]).length + separator.length)
    return declarations ++ declarations'

namespace Reading

/-- A reading as it is reported: with its skipped statements, and without
declarations if it ended early. -/
def logged (r : Reading) : Logged (List Declaration) :=
  ⟨r.skipped.map .skipping, if r.complete then .ok r.declarations else .error .untypable⟩

/-- A reading that stands further on is reported as standing further on:
`logged` commutes with a shift. -/
theorem logged_shift (n : Nat) (r : Reading) : (r.shift n).logged = r.logged.shift n := by
  obtain ⟨declarations, skipped, complete⟩ := r
  have hevents : (skipped.map (Skipped.shift n)).map Event.skipping =
      (skipped.map Event.skipping).map (Event.shift n) := by
    rw [List.map_map, List.map_map]
    rfl
  simp only [logged, shift, Logged.shift, hevents]
  cases complete <;> rfl

/-- Two readings, one behind the other, are reported one after the other, as
`Logged` puts them together. The second is not reported at all if the first
has ended early. -/
theorem logged_append (r r' : Reading) :
    (r.append r').logged = do
      let declarations ← r.logged
      let declarations' ← r'.logged
      return declarations ++ declarations' := by
  obtain ⟨declarations, skipped, complete⟩ := r
  obtain ⟨declarations', skipped', complete'⟩ := r'
  cases complete with
  | false => rfl
  | true =>
    have hevents : (skipped ++ skipped').map Event.skipping =
        skipped.map Event.skipping ++ skipped'.map Event.skipping := List.map_append
    simp only [logged, append, hevents, if_true]
    cases complete' with
    | false => rfl
    | true => simp [bind, Logged.andThen, pure]

/-- Declarations are reported by `logged` only if the reading did not end
early. -/
theorem complete_of_logged {r : Reading} {declarations : List Declaration}
    (h : r.logged.result = .ok declarations) : r.complete = true := by
  obtain ⟨_, _, complete⟩ := r
  cases complete with
  | true => rfl
  | false => cases h

/-- Readings that are reported alike account for as many statements, which
are declared or skipped. This is how `ofStatements_append_ne` shows in a
report. -/
theorem size_eq_of_logged {r r' : Reading} (h : r.logged = r'.logged)
    (hcomplete : r'.complete = true) : r.complete = true ∧ r.size = r'.size := by
  have hresult' : r'.logged.result = .ok r'.declarations := if_pos hcomplete
  have hresult := congrArg Logged.result h
  have hevents := congrArg (List.length ∘ Logged.events) h
  have hr := complete_of_logged (hresult.trans hresult')
  have hdeclarations : r.declarations = r'.declarations :=
    Except.ok.inj ((if_pos hr).symm.trans (hresult.trans hresult'))
  simp only [Function.comp, logged, List.length_map] at hevents
  exact ⟨hr, congrArg₂ (· + ·) (congrArg List.length hdeclarations) hevents⟩

end Reading

/-- A source that can be cut into tokens is read statement by statement by
`Reading.ofStatements`, and the reading is reported. -/
theorem readDeclarations_of_tokens (d : Dialect) (source : String) {tokens : List Token}
    (htokens : Sql.Lexer.tokens d.quotes source.toList = .ok tokens) :
    readDeclarations d source =
      (Reading.ofStatements (Reading.statements d tokens)).logged := by
  unfold readDeclarations Reading.ofSource
  rw [htokens]
  rfl

/-- The text of two fragments is that of the one, the empty line, and that
of the other, unless a tablespace clause reaches over the place
(`Source.join_pair_iff`). -/
theorem toList_join_pair {first second : String}
    (hclause : ¬(Source.breaksOff 0 first.toList = true ∧
      Source.startsWithName second.toList = true)) :
    (join [first, second]).toList =
      (join [first]).toList ++ separator.toList ++ (join [second]).toList := by
  rw [(Source.join_pair_iff first second).mpr hclause, String.toList_append,
    String.toList_append]

/-- Two fragments that can be cut into tokens keep their declarations, if
no tablespace clause reaches over the place where they meet and a
semicolon stands there: the last token of the first fragment or the first
one of the second. A fragment without tokens needs no semicolon. Fragments
that can be read lose one of their statements if there is none. -/
theorem readsApart_iff_parted (d : Dialect) (first second : String)
    {tokens tokens' : List Token}
    (htokens : Sql.Lexer.tokens d.quotes (join [first]).toList = .ok tokens)
    (htokens' : Sql.Lexer.tokens d.quotes (join [second]).toList = .ok tokens')
    (hlexer : Sql.Lexer.KeepsApart d.quotes (join [first]).toList separator.toList
      (join [second]).toList)
    (hclause : ¬(Source.breaksOff 0 first.toList = true ∧
      Source.startsWithName second.toList = true)) :
    (Sql.Parted tokens tokens' → ReadsApart d first second) ∧
      ∀ declarations declarations',
        (readDeclarations d (join [first])).result = .ok declarations →
        (readDeclarations d (join [second])).result = .ok declarations' →
        (ReadsApart d first second ↔ Sql.Parted tokens tokens') := by
  have hboth := hlexer tokens tokens' htokens htokens'
  rw [← toList_join_pair hclause, String.length_toList, String.length_toList] at hboth
  unfold ReadsApart
  rw [readDeclarations_of_tokens d _ hboth, readDeclarations_of_tokens d _ htokens,
    readDeclarations_of_tokens d _ htokens', ← Reading.logged_shift, ← Reading.logged_append]
  generalize (join [first]).length + separator.length = n
  -- With a semicolon there the statements of both are those of each.
  have happart : Sql.Parted tokens tokens' →
      (Reading.ofStatements
          (Reading.statements d (tokens ++ tokens'.map (Token.shift n)))).logged =
        ((Reading.ofStatements (Reading.statements d tokens)).append
          ((Reading.ofStatements (Reading.statements d tokens')).shift n)).logged := by
    intro hparted
    rw [Reading.ofStatements_append_shift n d hparted]
  refine ⟨happart, fun declarations declarations' hfirst hsecond => ⟨fun hlogged => ?_, happart⟩⟩
  -- Without one there is a statement less, which the number of reports shows.
  have hcomplete := Reading.complete_of_logged hfirst
  have hcomplete' := Reading.complete_of_logged hsecond
  obtain ⟨hjoined, hsize⟩ := Reading.size_eq_of_logged hlogged
    (by simp only [Reading.append, hcomplete, if_true]; exact hcomplete')
  by_contra hparted
  exact Reading.ofStatements_append_ne n d hparted hcomplete hcomplete' hjoined hsize

/-- An enum with one value that no semicolon ends. -/
def unterminated (name value : String) : String :=
  "create type " ++ name ++ " as enum ('" ++ value ++ "')"

/-- The tokens of `unterminated`, if the name and the value have one
character each. -/
def unterminatedTokens (name value : String) : List Token :=
  [⟨.word, "create", 0, 5⟩, ⟨.word, "type", 7, 10⟩, ⟨.word, name, 12, 12⟩, ⟨.word, "as", 14, 15⟩,
   ⟨.word, "enum", 17, 20⟩, ⟨.openParen, "(", 22, 22⟩, ⟨.text, value, 23, 25⟩,
   ⟨.closeParen, ")", 26, 26⟩]

/-- The tokens of the first enum, by running the lexer on `unterminated`. -/
theorem tokens_enum_m :
    Sql.Lexer.tokens ({} : Dialect).quotes (join [unterminated "m" "x"]).toList =
      .ok (unterminatedTokens "m" "x") := by
  rfl

/-- The tokens of the second enum, by running the lexer on
`unterminated`. -/
theorem tokens_enum_n :
    Sql.Lexer.tokens ({} : Dialect).quotes (join [unterminated "n" "y"]).toList =
      .ok (unterminatedTokens "n" "y") := by
  rfl

/-- The tokens of both enums with an empty line between them, which adds
none. Those of the second are moved by `Token.shift`. -/
theorem tokens_enum_pair :
    Sql.Lexer.tokens ({} : Dialect).quotes
        (join [unterminated "m" "x", unterminated "n" "y"]).toList =
      .ok (unterminatedTokens "m" "x" ++ (unterminatedTokens "n" "y").map (Token.shift 29)) := by
  rfl

/-- The two enums keep their tokens when they are joined, so it is not the
lexer that makes one of them (`Sql.Lexer.KeepsApart`). -/
theorem keepsApart_unterminated :
    Sql.Lexer.KeepsApart ({} : Dialect).quotes (join [unterminated "m" "x"]).toList
      separator.toList (join [unterminated "n" "y"]).toList := by
  intro tokens tokens' h h'
  rw [tokens_enum_m] at h
  rw [tokens_enum_n] at h'
  cases h
  cases h'
  have hlength : (join [unterminated "m" "x"]).toList.length + separator.toList.length = 29 :=
    rfl
  rw [← toList_join_pair (by decide), hlength]
  exact tokens_enum_pair

/-- With a semicolon at the end of the first, two enums are read one after
the other. Without it they are not. -/
theorem readsApart_iff_parted_enums :
    ReadsApart {} (unterminated "m" "x" ++ ";") (unterminated "n" "y") ∧
      (readDeclarations {}
        (join [unterminated "m" "x" ++ ";", unterminated "n" "y"])).result =
        .ok [.enum ⟨"m", ["x"], none, ⟨some 0, some 27⟩⟩,
          .enum ⟨"n", ["y"], none, ⟨some 30, some 57⟩⟩] ∧
      ¬ReadsApart {} (unterminated "m" "x") (unterminated "n" "y") := by
  have htokens : Sql.Lexer.tokens ({} : Dialect).quotes
      (join [unterminated "m" "x" ++ ";"]).toList =
        .ok (unterminatedTokens "m" "x" ++ [⟨.semicolon, ";", 27, 27⟩]) := by decide +kernel
  -- A semicolon keeps the tokens apart, since no dollar quote is open.
  have hquotes := Sql.Lexer.lawful_of_dialect? (by decide +kernel : Sql.dialect? "pg" = some {})
  have hdollar : '$' ∉ (join [unterminated "m" "x" ++ ";"]).toList := by decide +kernel
  have happart := (readsApart_iff_parted {} (unterminated "m" "x" ++ ";") (unterminated "n" "y")
    htokens tokens_enum_n (Sql.Lexer.keepsApart_of_semicolon hquotes htokens rfl (.inl hdollar) _)
    (by decide +kernel)).1 (.inl rfl)
  refine ⟨happart, ?_, ?_⟩
  · have hlength : (join [unterminated "m" "x" ++ ";"]).length + separator.length = 30 := by
      decide +kernel
    rw [happart, readDeclarations_of_tokens _ _ htokens,
      readDeclarations_of_tokens _ _ tokens_enum_n, hlength]
    decide +kernel
  · have hfirst : (readDeclarations {} (join [unterminated "m" "x"])).result =
        .ok [.enum ⟨"m", ["x"], none, ⟨some 0, some 27⟩⟩] := by
      rw [readDeclarations_of_tokens _ _ tokens_enum_m]
      decide +kernel
    have hsecond : (readDeclarations {} (join [unterminated "n" "y"])).result =
        .ok [.enum ⟨"n", ["y"], none, ⟨some 0, some 27⟩⟩] := by
      rw [readDeclarations_of_tokens _ _ tokens_enum_n]
      decide +kernel
    have hparted : ¬Sql.Parted (unterminatedTokens "m" "x") (unterminatedTokens "n" "y") :=
      not_or.mpr ⟨nofun, nofun⟩
    rw [(readsApart_iff_parted {} (unterminated "m" "x") (unterminated "n" "y") tokens_enum_m
      tokens_enum_n keepsApart_unterminated (by decide +kernel)).2 _ _ hfirst hsecond]
    exact hparted

/-- Without a semicolon between them, two enums are read as one statement.
It has the name of the first and the values of both. The tokens are those
of the fragments all the same. -/
theorem not_readsApart_unterminated :
    Sql.Lexer.tokens ({} : Dialect).quotes (join [unterminated "m" "x"]).toList =
        .ok (unterminatedTokens "m" "x") ∧
      Sql.Lexer.tokens ({} : Dialect).quotes (join [unterminated "n" "y"]).toList =
        .ok (unterminatedTokens "n" "y") ∧
      Sql.Lexer.KeepsApart ({} : Dialect).quotes (join [unterminated "m" "x"]).toList
        separator.toList (join [unterminated "n" "y"]).toList ∧
      (readDeclarations {} (join [unterminated "m" "x", unterminated "n" "y"])).result =
        .ok [.enum ⟨"m", ["x", "y"], none, ⟨some 0, some 56⟩⟩] ∧
      ¬ReadsApart {} (unterminated "m" "x") (unterminated "n" "y") := by
  refine ⟨tokens_enum_m, tokens_enum_n, keepsApart_unterminated, ?_, ?_⟩
  · rw [readDeclarations_of_tokens _ _ tokens_enum_pair]
    decide +kernel
  · unfold ReadsApart
    rw [readDeclarations_of_tokens _ _ tokens_enum_pair,
      readDeclarations_of_tokens _ _ tokens_enum_m, readDeclarations_of_tokens _ _ tokens_enum_n]
    intro happart
    have hresult := congrArg Logged.result happart
    revert hresult
    decide +kernel

end SchemaTypes

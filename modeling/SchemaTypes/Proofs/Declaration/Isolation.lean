import SchemaTypes.Proofs.Declaration.Completeness
import SchemaTypes.Proofs.Generate.Fragments
import SchemaTypes.Proofs.Sql.StatementRuns

/-!
# `SchemaTypes.Proofs.Declaration.Isolation`: statements do not disturb one another

A statement comes to a declaration or to a report that it was passed over
(`Statement.ComesTo`), and its own tokens decide which. A list of
statements that all come to something is read to its end, and the reading
is put together from their outcomes alone (`ofStatements_of_comesTo`).

`Reading.replaced_statement` follows. Let one statement of a source be
replaced by another, which may be longer or shorter, so that everything
behind it moves. The outcomes of the statements in front of it stay, and
those behind it move along.

`read_statement_by_statement` puts this beside what the statements of a
source are: the runs of tokens between its semicolons.
-/

set_option autoImplicit false

namespace SchemaTypes

open Sql (Token Dialect)

/-- An outcome of a statement that stands `n` characters further on. -/
def shiftOutcome (n : Nat) : Declaration ⊕ Skipped → Declaration ⊕ Skipped :=
  Sum.map (Declaration.shift n) (Skipped.shift n)

namespace Statement

/-- The statement that some tokens form. -/
def ofTokens (d : Dialect) (tokens : List Token) : Statement :=
  ⟨tokens, Sql.Grammar.statement d tokens⟩

/-- The outcome of a statement moves with the statement: its declaration by
`Declaration.ofStatement_shift`, a report by its place. -/
theorem ComesTo.shift {s : Statement} {outcome : Declaration ⊕ Skipped} (n : Nat)
    (hne : s.tokens ≠ []) (h : s.ComesTo outcome) :
    (s.shift n).ComesTo (shiftOutcome n outcome) := by
  have hread : Declaration.ofStatement (s.shift n).tokens (s.shift n).tree =
      (Declaration.ofStatement s.tokens s.tree).map (Declaration.shift n) :=
    Declaration.ofStatement_shift n s.tokens s.tree
  cases outcome with
  | inl declaration =>
    have hok : Declaration.ofStatement s.tokens s.tree = .ok declaration := h
    show Declaration.ofStatement (s.shift n).tokens (s.shift n).tree = _
    rw [hread, hok]
    rfl
  | inr skipped =>
    -- A report names the start of its statement, which has moved.
    obtain ⟨hstart, herror⟩ := h
    refine ⟨?_, ?_⟩
    · show skipped.start + n = (Sql.tokenSpan (s.tokens.map (Token.shift n))).start
      rw [Sql.tokenSpan_shift n hne, hstart]
      rfl
    · rw [hread, herror]
      rfl

end Statement

namespace Reading

/-- The reading of statements that come to the given outcomes. -/
def ofOutcomes (outcomes : List (Declaration ⊕ Skipped)) : Reading :=
  { declarations := outcomes.filterMap Sum.getLeft?
    skipped := outcomes.filterMap Sum.getRight? }

section

variable {d : Dialect} {before chunk chunk' after : List Token}

/-- A run of tokens between semicolons is one statement, and the statements
before and behind it are those of the rest. Both ends are cut by
`Sql.statements_append`. -/
theorem statements_around (hchunk : chunk ≠ [])
    (hfree : ∀ token ∈ chunk, token.isSemicolon = false)
    (hbefore : before.getLast?.all Token.isSemicolon = true)
    (hafter : after.head?.all Token.isSemicolon = true) :
    statements d (before ++ chunk ++ after) =
      statements d before ++ Statement.ofTokens d chunk :: statements d after := by
  have hone : Sql.statements chunk = [chunk] := by
    rw [Sql.statements_of_free hfree, Sql.onlyRun, if_neg hchunk]
    simp [Sql.piece]
  have hall : Sql.statements (before ++ chunk ++ after) =
      Sql.statements before ++ [chunk] ++ Sql.statements after := by
    rw [Sql.statements_append (.inr hafter), Sql.statements_append (.inl hbefore), hone]
  show (Sql.statements (before ++ chunk ++ after)).map (Statement.ofTokens d) = _
  rw [hall, List.map_append, List.map_append, List.append_assoc]
  rfl

/-- The outcomes of statements that are moved are moved, by
`Statement.ComesTo.shift` for each. -/
theorem forall₂_shift (n : Nat) {outcomes : List (Declaration ⊕ Skipped)}
    (h : List.Forall₂ Statement.ComesTo (statements d after) outcomes) :
    List.Forall₂ Statement.ComesTo (statements d (after.map (Token.shift n)))
      (outcomes.map (shiftOutcome n)) := by
  rw [statements_shift, List.forall₂_map_left_iff, List.forall₂_map_right_iff]
  have hne : ∀ s ∈ statements d after, s.tokens ≠ [] := by
    intro s hs
    obtain ⟨tokens, htokens, rfl⟩ := List.mem_map.mp hs
    exact (Sql.sublist_of_mem_statements htokens).1
  -- The statements need their tokens to move, so membership is carried along.
  exact ((List.forall₂_and_left _ _).mpr ⟨hne, h⟩).imp fun s outcome hs => hs.2.shift n hs.1

/-- One statement of a source is replaced by another, and what stands behind
it moves by `n` characters. The outcomes of all other statements are what
they were, those behind it moved. -/
theorem replaced_statement (n : Nat) (hchunk : chunk ≠ []) (hchunk' : chunk' ≠ [])
    (hfree : ∀ token ∈ chunk, token.isSemicolon = false)
    (hfree' : ∀ token ∈ chunk', token.isSemicolon = false)
    (hbefore : before.getLast?.all Token.isSemicolon = true)
    (hafter : after.head?.all Token.isSemicolon = true)
    {front back : List (Declaration ⊕ Skipped)} {outcome outcome' : Declaration ⊕ Skipped}
    (hfront : List.Forall₂ Statement.ComesTo (statements d before) front)
    (houtcome : (Statement.ofTokens d chunk).ComesTo outcome)
    (houtcome' : (Statement.ofTokens d chunk').ComesTo outcome')
    (hback : List.Forall₂ Statement.ComesTo (statements d after) back) :
    ofStatements (statements d (before ++ chunk ++ after)) =
        ofOutcomes (front ++ outcome :: back) ∧
      ofStatements (statements d (before ++ chunk' ++ after.map (Token.shift n))) =
        ofOutcomes (front ++ outcome' :: back.map (shiftOutcome n)) := by
  have hafter' : (after.map (Token.shift n)).head?.all Token.isSemicolon = true := by
    rw [List.head?_map, Option.all_map]
    exact hafter
  rw [statements_around hchunk hfree hbefore hafter,
    statements_around hchunk' hfree' hbefore hafter']
  exact ⟨ofStatements_of_comesTo (List.rel_append hfront (.cons houtcome hback)),
    ofStatements_of_comesTo (List.rel_append hfront (.cons houtcome' (forall₂_shift n hback)))⟩

end

end Reading

/-- **Statement by statement.** This holds for every `Dialect` record, of
which `Sql.dialect?` gives one to MySQL and one to all other names. The
statements of a list of tokens are its runs between semicolons, in order, so
that a semicolon keeps what stands before it from what stands behind it.
What is read from a source hangs on its tokens alone. If every statement
comes to something, the reading is made of one outcome for each statement in
turn: its declaration, or one report that it was passed over. And if one of
the statements is replaced by another that comes to something, the outcomes
of all others stay as they are, apart from the places of those that
moved. -/
theorem read_statement_by_statement (d : Dialect) :
    (∀ tokens : List Token, ∃ runs : List (Nat × Nat),
      runs.Pairwise (fun a b => a.2 < b.1) ∧
        (∀ start stop, (start, stop) ∈ runs ↔ Sql.IsRun tokens start stop) ∧
        Sql.statements tokens = runs.map fun run => Sql.piece tokens run.1 run.2) ∧
    (∀ (before after : List Token) (semicolon : Token), semicolon.isSemicolon = true →
      Sql.statements (before ++ [semicolon] ++ after) =
        Sql.statements before ++ Sql.statements after) ∧
    (∀ (source : String) (tokens : List Token),
      Sql.Lexer.tokens d.quotes source.toList = .ok tokens →
      readDeclarations d source =
        (Reading.ofStatements (Reading.statements d tokens)).logged) ∧
    (∀ tokens : List Token,
      (∀ s ∈ Reading.statements d tokens, ∃ outcome, s.ComesTo outcome) →
      ∃ outcomes, List.Forall₂ Statement.ComesTo (Reading.statements d tokens) outcomes ∧
        Reading.ofStatements (Reading.statements d tokens) = Reading.ofOutcomes outcomes) ∧
    ∀ (n : Nat) (before chunk chunk' after : List Token), chunk ≠ [] → chunk' ≠ [] →
      (∀ token ∈ chunk, token.isSemicolon = false) →
      (∀ token ∈ chunk', token.isSemicolon = false) →
      before.getLast?.all Token.isSemicolon = true →
      after.head?.all Token.isSemicolon = true →
      (∀ s ∈ Reading.statements d (before ++ chunk ++ after), ∃ outcome, s.ComesTo outcome) →
      (∃ outcome, (Statement.ofTokens d chunk').ComesTo outcome) →
      ∃ front outcome outcome' back,
        List.Forall₂ Statement.ComesTo (Reading.statements d before) front ∧
        (Statement.ofTokens d chunk).ComesTo outcome ∧
        (Statement.ofTokens d chunk').ComesTo outcome' ∧
        List.Forall₂ Statement.ComesTo (Reading.statements d after) back ∧
        Reading.ofStatements (Reading.statements d (before ++ chunk ++ after)) =
          Reading.ofOutcomes (front ++ outcome :: back) ∧
        Reading.ofStatements
            (Reading.statements d (before ++ chunk' ++ after.map (Token.shift n))) =
          Reading.ofOutcomes (front ++ outcome' :: back.map (shiftOutcome n)) := by
  refine ⟨Sql.exists_runs, ?_, fun source tokens => readDeclarations_of_tokens d source,
    fun tokens => Reading.ofStatements_of_endless, ?_⟩
  · intro before after semicolon hsemicolon
    rw [List.append_assoc]
    exact Sql.statements_append_cons before hsemicolon after
  · intro n before chunk chunk' after hchunk hchunk' hfree hfree' hbefore hafter hcomes
      ⟨outcome', houtcome'⟩
    -- The statements around the exchanged one keep their outcomes.
    rw [Reading.statements_around hchunk hfree hbefore hafter, List.forall_mem_append,
      List.forall_mem_cons] at hcomes
    obtain ⟨hcomesFront, ⟨outcome, houtcome⟩, hcomesBack⟩ := hcomes
    obtain ⟨front, hfront, -⟩ := Reading.ofStatements_of_endless hcomesFront
    obtain ⟨back, hback, -⟩ := Reading.ofStatements_of_endless hcomesBack
    exact ⟨front, outcome, outcome', back, hfront, houtcome, houtcome', hback,
      Reading.replaced_statement n hchunk hchunk' hfree hfree' hbefore hafter hfront houtcome
        houtcome' hback⟩

/-- An enum without values is given one. The statement behind it is read as
before, six characters further on. -/
theorem read_statement_by_statement_mended :
    ∃ back,
      Reading.ofStatements (Reading.statements {} enumTokens) =
          Reading.ofOutcomes (.inr ⟨0, .enumWithoutValues "m"⟩ :: back) ∧
        Reading.ofStatements (Reading.statements {}
            (unterminatedTokens "m" "x" ++ (enumTokens.drop 5).map (Token.shift 6))) =
          Reading.ofOutcomes (.inl (.enum ⟨"m", ["x"], none, ⟨some 0, some 27⟩⟩) ::
            back.map (shiftOutcome 6)) := by
  -- What the three statements come to by themselves.
  have hbroken : Declaration.ofStatement (enumTokens.take 5)
      (Sql.Grammar.statement {} (enumTokens.take 5)) =
        .error (.malformed (.enumWithoutValues "m")) := rfl
  have hmended : Declaration.ofStatement (unterminatedTokens "m" "x")
      (Sql.Grammar.statement {} (unterminatedTokens "m" "x")) =
        .ok (.enum ⟨"m", ["x"], none, ⟨some 0, some 27⟩⟩) := rfl
  have hnext : Declaration.ofStatement (enumTokens.drop 6)
      (Sql.Grammar.statement {} (enumTokens.drop 6)) =
        .ok (.enum ⟨"n", ["a"], none, ⟨some 23, some 50⟩⟩) := rfl
  have hcomes : ∀ s ∈ Reading.statements {} ([] ++ enumTokens.take 5 ++ enumTokens.drop 5),
      ∃ outcome, s.ComesTo outcome := by
    have hstatements : Sql.statements ([] ++ enumTokens.take 5 ++ enumTokens.drop 5) =
        [enumTokens.take 5, enumTokens.drop 6] := rfl
    rw [Reading.statements, hstatements]
    exact List.forall_mem_cons.mpr ⟨⟨.inr ⟨0, .enumWithoutValues "m"⟩, rfl, hbroken⟩,
      List.forall_mem_singleton.mpr ⟨.inl _, hnext⟩⟩
  obtain ⟨front, outcome, outcome', back, hfront, houtcome, houtcome', -, hread, hread'⟩ :=
    (read_statement_by_statement {}).2.2.2.2 6 [] (enumTokens.take 5) (unterminatedTokens "m" "x")
      (enumTokens.drop 5) (List.cons_ne_nil _ _) (List.cons_ne_nil _ _) (by decide) (by decide)
      rfl rfl hcomes ⟨.inl _, hmended⟩
  obtain rfl : front = [] := List.forall₂_nil_left_iff.mp hfront
  -- An outcome is told by its statement.
  have hskipped : outcome = .inr ⟨0, .enumWithoutValues "m"⟩ := by
    cases outcome with
    | inl declaration => cases hbroken.symm.trans houtcome
    | inr skipped =>
      obtain ⟨start, what⟩ := skipped
      obtain ⟨hstart, hwhat⟩ := houtcome
      cases hbroken.symm.trans hwhat
      cases (show start = 0 from hstart)
      rfl
  have hdeclared : outcome' = .inl (.enum ⟨"m", ["x"], none, ⟨some 0, some 27⟩⟩) := by
    cases outcome' with
    | inl declaration => exact congrArg Sum.inl (Except.ok.inj (houtcome'.symm.trans hmended))
    | inr skipped => cases hmended.symm.trans houtcome'.2
  rw [hskipped] at hread
  rw [hdeclared] at hread'
  exact ⟨back, hread, hread'⟩

end SchemaTypes

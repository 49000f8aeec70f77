import SchemaTypes.Proofs.Sql.Lexer.Steps

/-!
# `SchemaTypes.Proofs.Sql.Lexer.Seam`: the tokens of two texts, one behind the other

`Lexes` is the run of the lexer over a text without the bound on its
steps; by `tokens_eq_ok_iff` it is what the lexer does. What holds of a
single step is carried over to runs by induction on them.

`keepsApart_of_semicolon` is the result: a text that ends with a semicolon
has the same tokens whatever follows behind an empty line, and what
follows has its own. A text without a semicolon at its end may go on. The
words of a phrase such as `primary key` may stand on either side, and a
command goes on to the next semicolon. A dollar sign may even open a
string that only the second text closes.
-/

set_option autoImplicit false

namespace SchemaTypes.Sql.Lexer

/-! ## Runs of steps -/

/-- The tokens of a text from a position on, step by step. `before` is the
token in front of it. -/
inductive Lexes (quotes : Quotes) : Option Token → Nat → List Char → List Token → Prop
  | nil (before : Option Token) (position : Nat) : Lexes quotes before position [] []
  | step {before : Option Token} {position width : Nat} {s : List Char}
      {taken tokens : List Token} (hs : s ≠ [])
      (hstep : step quotes before position s = .ok (taken, width))
      (hrest : Lexes quotes (taken.getLast?.or before) (position + width) (s.drop width) tokens) :
      Lexes quotes before position s (taken ++ tokens)

section

variable {quotes : Quotes} {before : Option Token} {position : Nat} {s : List Char}
  {tokens : List Token}

/-- The fuel of `readTokens` does not show: with more of it than there are
characters, the loop gives a list of tokens exactly if `Lexes` relates the
text to them. By induction on the fuel, since each step takes some of the
text away. -/
theorem readTokens_eq_ok_iff (hquotes : Lawful quotes) {fuel : Nat}
    (hfuel : s.length < fuel) :
    readTokens quotes fuel before position s = .ok tokens ↔
      Lexes quotes before position s tokens := by
  induction fuel generalizing before position s tokens with
  | zero => omega
  | succ fuel ih =>
    by_cases hs : s = []
    · subst hs
      constructor
      · intro h
        cases h
        exact .nil before position
      · intro h
        cases h with
        | nil => rfl
        | step hs => exact absurd rfl hs
    rw [readTokens_succ hquotes fuel before position hs]
    cases hstep : step quotes before position s with
    | error beyond =>
      constructor
      · intro h
        cases h
      · intro h
        cases h with
        | nil => exact absurd rfl hs
        | step _ hstep' =>
          rw [hstep] at hstep'
          cases hstep'
    | ok outcome =>
      obtain ⟨taken, width⟩ := outcome
      -- What is left is shorter, so one turn less is enough for it.
      have hpos := step_pos hquotes hs hstep
      have hlength := List.length_drop (i := width) (l := s)
      have hne := List.length_pos_iff.mpr hs
      constructor
      · intro h
        obtain ⟨rest, hrest, rfl⟩ := Proofs.map_eq_ok_iff.mp h
        exact .step hs hstep ((ih (by omega)).mp hrest)
      · intro h
        cases h with
        | nil => exact absurd rfl hs
        | step _ hstep' hrest =>
          rw [hstep] at hstep'
          cases hstep'
          exact Proofs.map_eq_ok_iff.mpr ⟨_, (ih (by omega)).mpr hrest, rfl⟩

/-- A run that yields the token of a semicolon goes over a semicolon.
`Lexes.append` needs one ahead of every step but the last. -/
theorem Lexes.semicolon_mem (hquotes : Lawful quotes)
    (h : Lexes quotes before position s tokens) {token : Token} (htoken : token ∈ tokens)
    (hsemicolon : token.isSemicolon = true) : ';' ∈ s := by
  induction h with
  | nil => nomatch htoken
  | step hs hstep _ ih =>
    rcases List.mem_append.mp htoken with htaken | hrest
    · exact semicolon_mem_of_step hquotes hs hstep htaken hsemicolon
    · exact List.mem_of_mem_drop (ih hrest)

/-- A run further on in the source gives the same tokens further on. The
tokens in front may differ if they have the `SameRole`, as do a semicolon
and nothing at all. -/
theorem Lexes.shift (hquotes : Lawful quotes) (n : Nat)
    {before' : Option Token} (hrole : SameRole before before')
    (h : Lexes quotes before position s tokens) :
    Lexes quotes before' (position + n) s (tokens.map (Token.shift n)) := by
  induction h generalizing before' with
  | nil => exact .nil before' _
  | @step before position width s taken tokens hs hstep _ ih =>
    have hstep' : Lexer.step quotes before' (position + n) s =
        .ok (taken.map (Token.shift n), width) := by
      rw [step_shift hquotes n hrole position hs, hstep]
      rfl
    rw [List.map_append]
    refine .step hs hstep' ?_
    rw [Nat.add_right_comm]
    refine ih ?_
    -- The role of the next step is that of the last token taken, and only its place differs.
    rw [List.getLast?_map]
    cases taken.getLast? with
    | none => exact hrole
    | some last => exact ⟨rfl, rfl⟩

/-- A text whose last statement ends has its own tokens, and then those of
what follows after a line break. The induction is on the steps of the run,
each of which `step_append` keeps. -/
theorem Lexes.append (hquotes : Lawful quotes)
    (h : Lexes quotes before position s tokens)
    (hlast : tokens.getLast?.all Token.isSemicolon = true)
    (hdollar : '$' ∉ s ∨ quotes.dollars = false) {v : List Char} {tokens' : List Token}
    (h' : Lexes quotes (tokens.getLast?.or before) (position + s.length) ('\n' :: v) tokens') :
    Lexes quotes before position (s ++ '\n' :: v) (tokens ++ tokens') := by
  induction h with
  | nil => exact h'
  | @step before position width s taken tokens hs hstep hrest ih =>
    rw [List.getLast?_append] at hlast h'
    -- The semicolon at the end is among the later tokens, or there are none.
    have hends : tokens.getLast?.all Token.isSemicolon = true ∧
        (taken.getLast?.all Token.isSemicolon = true ∨ ';' ∈ s.drop width) := by
      cases hlater : tokens.getLast? with
      | none =>
        rw [hlater] at hlast
        exact ⟨rfl, .inl hlast⟩
      | some last =>
        rw [hlater] at hlast
        exact ⟨hlast, .inr (hrest.semicolon_mem hquotes (List.mem_of_getLast? hlater) hlast)⟩
    obtain ⟨happend, hwidth⟩ := step_append hquotes hs hdollar hstep hends.2 v
    rw [List.append_assoc]
    refine .step (by simp) happend ?_
    rw [List.drop_append_of_le_length hwidth]
    refine ih hends.1 (hdollar.imp_left (mt List.mem_of_mem_drop)) ?_
    have hposition : position + width + (s.drop width).length = position + s.length := by
      rw [List.length_drop]
      omega
    rw [hposition, ← Option.or_assoc]
    exact h'

end

/-- Whether the tokens of two texts with others between them are the
tokens of the one and then those of the other. -/
def KeepsApart (quotes : Quotes) (text between text' : List Char) : Prop :=
  ∀ tokens tokens', Lexer.tokens quotes text = .ok tokens →
    Lexer.tokens quotes text' = .ok tokens' →
    Lexer.tokens quotes (text ++ between ++ text') =
      .ok (tokens ++ tokens'.map (Token.shift (text.length + between.length)))

/-- What the lexer gives for a source is what `Lexes` relates to it, with
nothing in front and from the first column on. -/
theorem tokens_eq_ok_iff {quotes : Quotes} (hquotes : Lawful quotes)
    {source : List Char} {tokens : List Token} :
    Lexer.tokens quotes source = .ok tokens ↔ Lexes quotes none 0 source tokens := by
  rw [← readTokens_eq_ok_iff hquotes (Nat.lt_succ_self source.length), Lexer.tokens]
  cases readTokens quotes (source.length + 1) none 0 source <;> simp

/-- A text satisfies `KeepsApart` with whatever follows behind an empty
line, if its last token is a semicolon and no dollar sign in it can open a
string. -/
theorem keepsApart_of_semicolon {quotes : Quotes}
    (hquotes : Lawful quotes) {text : List Char}
    {tokens : List Token} (htokens : Lexer.tokens quotes text = .ok tokens)
    (hlast : tokens.getLast?.all Token.isSemicolon = true)
    (hdollar : '$' ∉ text ∨ quotes.dollars = false) (text' : List Char) :
    KeepsApart quotes text ['\n', '\n'] text' := by
  intro _ tokens' h h'
  rw [htokens] at h
  cases h
  rw [tokens_eq_ok_iff hquotes] at htokens h' ⊢
  -- The two line breaks are two steps without tokens.
  have hgap : ∀ (before : Option Token) (position : Nat) (s : List Char),
      step quotes before position ('\n' :: s) = .ok ([], 1) := by
    intro before position s
    have hblank : Text.isBlank '\n' = true := by decide
    simp only [step, scan_cons, hblank, if_true]
  -- A semicolon has the role of nothing: a statement starts behind it.
  have hrole : SameRole none (tokens.getLast?.or none) := by
    cases hlater : tokens.getLast? with
    | none => exact ⟨rfl, rfl⟩
    | some last =>
      rw [hlater] at hlast
      have hkind : last.kind = .semicolon := eq_of_beq hlast
      constructor
      · simp [startsStatement, hkind]
      · simp [followsSign, signsParameter, hkind]
  have hbehind := h'.shift hquotes (text.length + 2) hrole
  have hlines : Lexes quotes (tokens.getLast?.or none) (0 + text.length) ('\n' :: '\n' :: text')
      ([] ++ ([] ++ tokens'.map (Token.shift (text.length + 2)))) :=
    .step (List.cons_ne_nil _ _) (hgap ..) (.step (List.cons_ne_nil _ _) (hgap ..) hbehind)
  rw [List.append_assoc]
  exact htokens.append hquotes hlast hdollar hlines

end SchemaTypes.Sql.Lexer

import SchemaTypes.Sql.Grammar.Table
import SchemaTypes.Sql.Statement

/-!
# `SchemaTypes.Proofs.Sql.Shift`: tokens further on in a source

When text is put in front of a source, each token of the source stands as
many characters further on, and nothing else about it changes. What is
made of tokens follows: the statements are the same runs of tokens, the
spans of statements and elements move along, and the grammar, which never
looks at positions, gives the same trees.

The second part is about the place where two lists of tokens meet.
Statements are told apart by semicolons alone. If one stands there, the
statements of both are those of the one and then those of the other
(`statements_append`). If none does, the last statement of the one and the
first of the other are a single statement
(`length_statements_append_of_not_parted`).
-/

set_option autoImplicit false

namespace SchemaTypes.Sql

/-- A token that stands `n` characters further on. -/
def Token.shift (n : Nat) (token : Token) : Token :=
  { token with first := token.first + n, last := token.last + n }

/-- A span that starts `n` characters further on. -/
def Span.shift (n : Nat) (span : Span) : Span :=
  ⟨span.start + n, span.stop + n⟩

/-- Whether a token ends a statement. -/
def Token.isSemicolon (token : Token) : Bool :=
  token.kind == .semicolon

namespace Token

/-- A token keeps its kind under `Token.shift`, by which statements and
elements are told apart. -/
@[simp] theorem shift_kind (n : Nat) (token : Token) : (token.shift n).kind = token.kind := rfl

/-- A token keeps its text under `Token.shift`. -/
@[simp] theorem shift_text (n : Nat) (token : Token) : (token.shift n).text = token.text := rfl

/-- The span between two tokens moves with them, so `Span.shift` and
`Token.shift` go together. -/
theorem spanTo_shift (n : Nat) (first last : Token) :
    (first.shift n).spanTo (last.shift n) = (first.spanTo last).shift n := by
  simp only [spanTo, Span.shift, shift, Span.mk.injEq, true_and]
  omega

end Token

/-! ## Spans and trees -/

section

variable (n : Nat) {tokens : List Token}

/-- The span of a run of tokens moves with the run. An empty run has the
empty span at the start of the text and does not move, hence `hne`. -/
theorem tokenSpan_shift (hne : tokens ≠ []) :
    tokenSpan (tokens.map (Token.shift n)) = (tokenSpan tokens).shift n := by
  cases tokens with
  | nil => exact absurd rfl hne
  | cons token rest =>
    rw [List.map_cons, tokenSpan, tokenSpan, ← List.map_cons, List.getLastD_map,
      Token.spanTo_shift]

/-- The elements of a statement move with its tokens, and so does the one
that is under way. Which tokens make up an element is told by their kinds
(`shift_kind`). -/
theorem elementsFrom_shift (depth : Int) (current : Option (Token × Token))
    (tokens : List Token) :
    elementsFrom depth (current.map (Prod.map (Token.shift n) (Token.shift n)))
        (tokens.map (Token.shift n)) =
      (elementsFrom depth current tokens).map (Span.shift n) := by
  induction tokens generalizing depth current with
  | nil => rfl
  | cons token rest ih =>
    -- The element under way is closed, or it goes on from its first token.
    have hcomplete : ((current.map (Prod.map (Token.shift n) (Token.shift n))).map
          fun ends => ends.1.spanTo ends.2).toList =
        ((current.map fun ends => ends.1.spanTo ends.2).toList).map (Span.shift n) := by
      cases current with
      | none => rfl
      | some ends => simp [Token.spanTo_shift]
    have hfirst : ((current.map (Prod.map (Token.shift n) (Token.shift n))).map Prod.fst).getD
        (token.shift n) = ((current.map Prod.fst).getD token).shift n := by
      cases current with
      | none => rfl
      | some ends => rfl
    have hnesting : nesting depth (token.shift n) = nesting depth token := rfl
    simp only [List.map_cons, elementsFrom, Token.shift_kind, hcomplete, hfirst, hnesting]
    -- The three cases are those of the recursion: a comma, the closing parenthesis, the rest.
    split
    · rw [List.map_append, ← ih 0 none, Option.map_none]
    · split
      · rfl
      · rw [← ih, Option.map_some, Prod.map]

/-- The spans of the elements of a statement move with its tokens:
`elementsFrom_shift` behind the first parenthesis. -/
theorem elementSpans_shift (tokens : List Token) :
    elementSpans (tokens.map (Token.shift n)) =
      (elementSpans tokens).map (Span.shift n) := by
  rw [elementSpans, elementSpans, List.dropWhile_map, ← List.map_tail]
  exact elementsFrom_shift n 0 none _

/-- The grammar reads items, which are tokens without their places. So a
statement is read alike wherever it stands, and `ComesTo.shift` has only the
places of its parts to move. -/
theorem Grammar.statement_shift (d : Dialect) (tokens : List Token) :
    Grammar.statement d (tokens.map (Token.shift n)) = Grammar.statement d tokens := by
  have hitems : (tokens.map (Token.shift n)).map Item.ofToken = tokens.map Item.ofToken := by
    rw [List.map_map]
    rfl
  simp only [Grammar.statement, hitems]

end

/-! ## Statements -/

/-- The statements of a source move with its tokens, since a semicolon is
one wherever it stands (`shift_kind`). -/
theorem statements_shift (n : Nat) (tokens : List Token) :
    statements (tokens.map (Token.shift n)) =
      (statements tokens).map (List.map (Token.shift n)) := by
  -- The pieces move first, and then those that are empty are dropped from both.
  have hsplit : (tokens.map (Token.shift n)).splitOnP (fun token => token.kind == .semicolon) =
      (tokens.splitOnP fun token => token.kind == .semicolon).map (List.map (Token.shift n)) := by
    induction tokens with
    | nil => rfl
    | cons token tokens ih =>
      rw [List.map_cons, List.splitOnP_cons_eq_if_modifyHead,
        List.splitOnP_cons_eq_if_modifyHead, ih, Token.shift_kind]
      split
      · rfl
      · cases tokens.splitOnP fun token => token.kind == .semicolon <;> rfl
  rw [statements, statements, hsplit, List.filter_map]
  congr 2
  funext chunk
  simp

/-- A semicolon keeps what stands before it from what stands behind it. It
belongs to neither side of `statements`, and the side before it may go
without any. -/
theorem statements_append_cons (front : List Token) {token : Token}
    (htoken : token.isSemicolon = true) (rest : List Token) :
    statements (front ++ token :: rest) = statements front ++ statements rest := by
  have hsplit := List.splitOnP_append_cons (p := fun token : Token => token.kind == .semicolon)
    front rest htoken
  rw [statements, hsplit, List.filter_append]
  rfl

/-- Two lists of tokens meet at a semicolon, or one of them is empty. -/
def Parted (tokens tokens' : List Token) : Prop :=
  tokens.getLast?.all Token.isSemicolon = true ∨ tokens'.head?.all Token.isSemicolon = true

/-- Whether two lists of tokens are `Parted` by a semicolon does not change
when the second is moved. -/
theorem Parted.shift {tokens tokens' : List Token} (n : Nat) :
    Parted tokens (tokens'.map (Token.shift n)) ↔ Parted tokens tokens' := by
  rw [Parted, List.head?_map, Option.all_map]
  rfl

/-- Lists that meet at a semicolon keep their own statements. The semicolon
is the last token of the first or the first of the second, and both cases
come down to `statements_append_cons`. -/
theorem statements_append {tokens tokens' : List Token} (hparted : Parted tokens tokens') :
    statements (tokens ++ tokens') = statements tokens ++ statements tokens' := by
  have hnil : statements [] = [] := rfl
  -- The semicolon is the last token of the first part or the first of the second.
  rcases hparted with hlast | hhead
  · rcases List.eq_nil_or_concat tokens with rfl | ⟨front, last, rfl⟩
    · rw [hnil, List.nil_append, List.nil_append]
    · rw [List.concat_eq_append] at hlast ⊢
      have hlast : last.isSemicolon = true := by simpa using hlast
      rw [List.append_assoc, List.singleton_append, statements_append_cons front hlast,
        statements_append_cons front hlast, hnil, List.append_nil]
  · cases tokens' with
    | nil => rw [hnil, List.append_nil, List.append_nil]
    | cons head rest =>
      have hhead : head.isSemicolon = true := by simpa using hhead
      have hrest := statements_append_cons [] hhead rest
      rw [List.nil_append, hnil, List.nil_append] at hrest
      rw [statements_append_cons tokens hhead, hrest]

/-- The tokens up to the first semicolon are none exactly if there are no
tokens or a semicolon is the first of them. This decides whether
`statements` keeps the first piece. -/
theorem isEmpty_head_splitOnP {tokens chunk : List Token} {chunks : List (List Token)}
    (h : tokens.splitOnP Token.isSemicolon = chunk :: chunks) :
    chunk.isEmpty = tokens.head?.all Token.isSemicolon := by
  cases tokens with
  | nil =>
    cases h
    rfl
  | cons token rest =>
    rw [List.splitOnP_cons_eq_if_modifyHead] at h
    split at h
    · -- A semicolon in front: the first piece is empty.
      rename_i htoken
      cases h
      exact htoken.symm
    · rename_i htoken
      obtain ⟨front, others, hrest⟩ :=
        List.exists_cons_of_ne_nil (List.splitOnP_ne_nil Token.isSemicolon rest)
      rw [hrest] at h
      cases h
      exact (Bool.eq_false_iff.mpr htoken).symm

/-- Each statement has a last token: one that is no semicolon itself, in
front of a semicolon or of the end. Counting these tokens counts statements,
which is how `length_statements_append_of_not_parted` goes on. -/
theorem length_statements_cons (token : Token) (tokens : List Token) :
    (statements (token :: tokens)).length = (statements tokens).length +
      if token.isSemicolon = false ∧ tokens.head?.all Token.isSemicolon = true then 1 else 0 := by
  have hsemicolon : (fun token : Token => token.kind == .semicolon) = Token.isSemicolon := rfl
  obtain ⟨chunk, chunks, hchunks⟩ :=
    List.exists_cons_of_ne_nil (List.splitOnP_ne_nil Token.isSemicolon tokens)
  have hchunk := isEmpty_head_splitOnP hchunks
  rw [statements, statements, hsemicolon, List.splitOnP_cons_eq_if_modifyHead, hchunks, ← hchunk]
  cases htoken : token.isSemicolon with
  | true => simp
  | false => cases chunk <;> simp

/-- Lists that do not meet at a semicolon have a statement in common: the
last one of the first list goes on with the first one of the second.
Together they are one less, so the condition of `statements_append` is
needed. -/
theorem length_statements_append_of_not_parted {tokens tokens' : List Token}
    (hparted : ¬Parted tokens tokens') :
    (statements (tokens ++ tokens')).length + 1 =
      (statements tokens).length + (statements tokens').length := by
  obtain ⟨hlast, hhead⟩ := not_or.mp hparted
  clear hparted
  induction tokens with
  | nil => exact absurd rfl hlast
  | cons token tokens ih =>
    rw [List.cons_append, length_statements_cons, length_statements_cons]
    cases tokens with
    | nil =>
      -- The last token of the first list ends a statement there, but no longer does.
      have htoken : token.isSemicolon = false := by simpa using hlast
      simp [htoken, hhead, statements]
      omega
    | cons next tokens =>
      have hrest := ih (by simpa using hlast)
      have hnext : (next :: tokens ++ tokens').head? = (next :: tokens).head? := rfl
      rw [hnext]
      omega

end SchemaTypes.Sql

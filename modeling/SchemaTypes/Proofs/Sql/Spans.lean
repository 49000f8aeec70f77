import Mathlib.Data.List.Chain
import SchemaTypes.Sql.Statement

/-!
# `SchemaTypes.Proofs.Sql.Spans`: where statements and elements stand

The tokens of a source stand one behind the other. This module shows that
the same is true of what is made of them: the spans of the statements of a
list of tokens, and the spans of the elements of a statement. All of it is
said in one predicate, `Span.Ordered lo hi spans`: from `lo` to `hi` the
spans follow one another, none is empty and no two share a position.

Tokens count as spans of their own, so `Span.Ordered` speaks of them, too.
A statement or an element is a run of tokens, and its span reaches from
the first token of the run to the last. `ordered_statements` and
`ordered_elementSpans` are therefore inductions on the tokens with the
run that is under way as their invariant. Neither asks the parentheses to
match: the depth only decides where a run ends.
-/

set_option autoImplicit false

namespace SchemaTypes.Sql

/-- Spans that follow one another from `lo` to `hi`. None of them is empty,
and each ends no later than the next one starts. -/
def Span.Ordered (lo hi : Nat) : List Span → Prop
  | [] => lo ≤ hi
  | span :: spans => lo ≤ span.start ∧ span.start < span.stop ∧ Ordered span.stop hi spans

/-- The span of a token. -/
def Token.span (token : Token) : Span :=
  token.spanTo token

/-- Tokens in the order of a source of `size` characters. Each ends no
earlier than it starts, and before the next one starts. -/
structure InOrder (size : Nat) (tokens : List Token) : Prop where
  forward : ∀ token ∈ tokens, token.first ≤ token.last
  inside : ∀ token ∈ tokens, token.last < size
  apart : tokens.IsChain fun token next => token.last < next.first

namespace Span

variable {lo hi mid : Nat} {spans : List Span}

/-- Spans that are `Ordered` between two places leave the places in
order. -/
theorem Ordered.le (h : Ordered lo hi spans) : lo ≤ hi := by
  induction spans generalizing lo with
  | nil => exact h
  | cons span spans ih =>
    obtain ⟨hstart, hstop, hrest⟩ := h
    have := ih hrest
    omega

/-- Spans that are `Ordered` may be looked at from further in front. -/
theorem Ordered.of_le (h : Ordered mid hi spans) (hle : lo ≤ mid) : Ordered lo hi spans := by
  cases spans with
  | nil => exact Nat.le_trans hle h
  | cons span spans => exact ⟨Nat.le_trans hle h.1, h.2⟩

/-- Spans that are left out leave room only, so those that remain are
`Ordered` between the same places. -/
theorem Ordered.sublist {spans' : List Span} (h : Ordered lo hi spans)
    (hsub : spans'.Sublist spans) : Ordered lo hi spans' := by
  induction hsub generalizing lo with
  | slnil => exact h
  | cons span _ ih => exact ih (h.2.2.of_le (by have := h.1; have := h.2.1; omega))
  | cons_cons span _ ih => exact ⟨h.1, h.2.1, ih h.2.2⟩

/-- Each of the spans that are `Ordered` lies between the ends and is not
empty. -/
theorem Ordered.mem (h : Ordered lo hi spans) {span : Span} (hspan : span ∈ spans) :
    lo ≤ span.start ∧ span.start < span.stop ∧ span.stop ≤ hi := by
  induction spans generalizing lo with
  | nil => nomatch hspan
  | cons first spans ih =>
    obtain ⟨hstart, hstop, hrest⟩ := h
    rcases List.mem_cons.mp hspan with rfl | hspan
    · exact ⟨hstart, hstop, hrest.le⟩
    · obtain ⟨hlo, hspan⟩ := ih hrest hspan
      exact ⟨by omega, hspan⟩

end Span

/-- Tokens in order have spans in order. `InOrder` speaks of neighbours, as
the lexer gives them; `Span.Ordered` also gives the places in between, which
the induction goes along. -/
theorem InOrder.ordered {size : Nat} {tokens : List Token} (h : InOrder size tokens) :
    Span.Ordered 0 size (tokens.map Token.span) := by
  obtain ⟨hforward, hinside, hapart⟩ := h
  -- The tokens may be looked at from any place that the first one does not precede.
  have hfrom : ∀ lo ≤ size, (∀ token ∈ tokens.head?, lo ≤ token.first) →
      Span.Ordered lo size (tokens.map Token.span) := by
    induction tokens with
    | nil => exact fun lo hlo _ => hlo
    | cons token tokens ih =>
      intro lo _ hhead
      obtain ⟨hfirst, hforward⟩ := List.forall_mem_cons.mp hforward
      obtain ⟨hlast, hinside⟩ := List.forall_mem_cons.mp hinside
      obtain ⟨hnext, hapart⟩ := List.isChain_cons.mp hapart
      exact ⟨hhead token rfl, Nat.lt_succ_of_le hfirst,
        ih hforward hinside hapart (token.last + 1) hlast hnext⟩
  exact hfrom 0 (Nat.zero_le _) fun _ _ => Nat.zero_le _

/-! ## Statements -/

/-- The `tokenSpan` of a run of tokens starts with its first token and ends
with the rest of it. In this form an induction on the tokens can follow the
end. -/
theorem tokenSpan_cons_cons (token next : Token) (tokens : List Token) :
    tokenSpan (token :: next :: tokens) = ⟨token.first, (tokenSpan (next :: tokens)).stop⟩ := by
  simp only [tokenSpan, Token.spanTo, List.getLastD_cons]

/-- Tokens in order lie in order inside the `tokenSpan` of them all, and
this span lies where they do. -/
theorem ordered_tokenSpan {lo hi : Nat} {tokens : List Token} (hne : tokens ≠ [])
    (h : Span.Ordered lo hi (tokens.map Token.span)) :
    lo ≤ (tokenSpan tokens).start ∧ (tokenSpan tokens).stop ≤ hi ∧
      Span.Ordered (tokenSpan tokens).start (tokenSpan tokens).stop (tokens.map Token.span) := by
  induction tokens generalizing lo with
  | nil => exact absurd rfl hne
  | cons token tokens ih =>
    obtain ⟨hlo, hforward, hrest⟩ := h
    cases tokens with
    | nil => exact ⟨hlo, hrest, Nat.le_refl _, hforward, Nat.le_refl _⟩
    | cons next tokens =>
      obtain ⟨hnext, hstop, hordered⟩ := ih (List.cons_ne_nil _ _) hrest
      rw [tokenSpan_cons_cons]
      exact ⟨hlo, hstop, Nat.le_refl _, hforward, hordered.of_le hnext⟩

/-- The statements of tokens in order stand in order. By `ordered_tokenSpan`
each has a span around its own tokens, and the tokens of the next one are
behind them. -/
theorem ordered_statements {lo hi : Nat} {tokens : List Token}
    (h : Span.Ordered lo hi (tokens.map Token.span)) :
    Span.Ordered lo hi ((statements tokens).map tokenSpan) := by
  unfold statements
  induction tokens generalizing lo with
  | nil => exact h
  | cons token tokens ih =>
    obtain ⟨hlo, hforward, hrest⟩ := h
    have hordered := ih hrest
    rw [List.splitOnP_cons_eq_if_modifyHead]
    split
    · refine hordered.of_le (Nat.le_trans hlo (Nat.le_of_lt ?_))
      exact hforward
    · -- The token joins the statement that the rest starts with, which may be empty so far.
      cases hsplit : tokens.splitOnP fun token => token.kind == .semicolon with
      | nil => exact absurd hsplit (List.splitOnP_ne_nil _ _)
      | cons chunk chunks =>
        rw [hsplit] at hordered
        cases chunk with
        | nil => exact ⟨hlo, hforward, hordered⟩
        | cons next chunk =>
          obtain ⟨hnext, hchunk, hordered⟩ := hordered
          have hstart : token.first < (tokenSpan (next :: chunk)).stop :=
            Nat.lt_trans hforward (Nat.lt_of_le_of_lt hnext hchunk)
          simp only [List.modifyHead_cons, List.filter_cons, List.isEmpty_cons, Bool.not_false,
            if_true, List.map_cons, tokenSpan_cons_cons]
          exact ⟨hlo, hstart, hordered⟩

/-- A statement has tokens, and they are tokens of the source in the same
order. So what holds along all tokens holds along a statement
(`Ordered.sublist`). -/
theorem sublist_of_mem_statements {tokens chunk : List Token}
    (h : chunk ∈ statements tokens) : chunk ≠ [] ∧ chunk.Sublist tokens := by
  obtain ⟨hmem, hne⟩ := List.mem_filter.mp h
  refine ⟨by simpa using hne, ?_⟩
  clear h hne
  induction tokens generalizing chunk with
  | nil =>
    obtain rfl : chunk = [] := by simpa using hmem
    exact List.Sublist.refl _
  | cons token tokens ih =>
    -- A semicolon starts a new piece, any other token is put in front of the first.
    rw [List.splitOnP_cons_eq_if_modifyHead] at hmem
    split at hmem
    · rcases List.mem_cons.mp hmem with rfl | hmem
      · exact List.nil_sublist _
      · exact (ih hmem).cons token
    · cases hsplit : tokens.splitOnP fun token => token.kind == .semicolon with
      | nil => exact absurd hsplit (List.splitOnP_ne_nil _ _)
      | cons first chunks =>
        rw [hsplit] at hmem ih
        rcases List.mem_cons.mp hmem with rfl | hmem
        · exact (ih List.mem_cons_self).cons_cons token
        · exact (ih (List.mem_cons_of_mem _ hmem)).cons token

/-! ## Elements -/

/-- Where the element stands that is under way: nowhere yet, or between
`lo` and `mid`. -/
def Underway (lo mid : Nat) : Option (Token × Token) → Prop
  | none => lo ≤ mid
  | some (first, last) => lo ≤ first.first ∧ first.first ≤ last.last ∧ last.last < mid

/-- The element that is `Underway` leaves its two ends in order. -/
theorem Underway.le {lo mid : Nat} {current : Option (Token × Token)}
    (hcurrent : Underway lo mid current) : lo ≤ mid := by
  cases current with
  | none => exact hcurrent
  | some ends =>
    obtain ⟨hlo, hforward, hmid⟩ := hcurrent
    omega

/-- When the element that is `Underway` is complete, its span stands in
front of those of the elements that follow. -/
theorem Underway.ordered {lo mid hi : Nat} {current : Option (Token × Token)} {spans : List Span}
    (hcurrent : Underway lo mid current) (h : Span.Ordered mid hi spans) :
    Span.Ordered lo hi ((current.map fun ends => ends.1.spanTo ends.2).toList ++ spans) := by
  cases current with
  | none => exact h.of_le hcurrent
  | some ends =>
    obtain ⟨hlo, hforward, hmid⟩ := hcurrent
    exact ⟨hlo, Nat.lt_succ_of_le hforward, h.of_le hmid⟩

/-- A token that does not end an element continues it, and reaches behind
what was read before. This is the step of `ordered_elementsFrom`. -/
theorem Underway.extend {lo mid : Nat} {current : Option (Token × Token)}
    (hcurrent : Underway lo mid current) {token : Token} (hmid : mid ≤ token.first)
    (htoken : token.first ≤ token.last) :
    Underway lo (token.last + 1) (some ((current.map Prod.fst).getD token, token)) := by
  cases current with
  | none =>
    have hlo : lo ≤ mid := hcurrent
    exact ⟨Nat.le_trans hlo hmid, htoken, Nat.lt_succ_self _⟩
  | some ends =>
    obtain ⟨hlo, hforward, hends⟩ := hcurrent
    refine ⟨hlo, ?_, Nat.lt_succ_self _⟩
    show ends.1.first ≤ token.last
    omega

/-- Elements stand in order, wherever in a statement one starts to look for
them and however many parentheses are open there. The tokens left start at
`mid`, and the element under way lies in front of it. -/
theorem ordered_elementsFrom {lo mid hi : Nat} {current : Option (Token × Token)}
    {tokens : List Token} (depth : Int) (hcurrent : Underway lo mid current)
    (h : Span.Ordered mid hi (tokens.map Token.span)) :
    Span.Ordered lo hi (elementsFrom depth current tokens) := by
  induction tokens generalizing depth lo mid current with
  | nil => exact Nat.le_trans hcurrent.le h
  | cons token tokens ih =>
    obtain ⟨hmid, hforward, hrest⟩ := h
    have hmid : mid ≤ token.first := hmid
    have htoken : token.first ≤ token.last := Nat.le_of_lt_succ hforward
    have hbehind : mid ≤ token.last + 1 := by omega
    simp only [elementsFrom]
    -- A comma, then the closing parenthesis, then the tokens that continue an element.
    split
    · exact hcurrent.ordered (ih 0 hbehind hrest)
    · split
      · have hend : Span.Ordered mid hi [] := Nat.le_trans hbehind hrest.le
        simpa using hcurrent.ordered hend
      · exact ih _ (hcurrent.extend hmid htoken) hrest

/-- The elements of a statement stand in order between any two places that
its tokens stand between, by `ordered_elementsFrom` from the opening
parenthesis on. -/
theorem ordered_elementSpans {lo hi : Nat} {tokens : List Token}
    (h : Span.Ordered lo hi (tokens.map Token.span)) :
    Span.Ordered lo hi (elementSpans tokens) := by
  have hinside : (tokens.dropWhile fun token => token.kind != .openParen).tail.Sublist tokens :=
    (List.tail_sublist _).trans (List.dropWhile_sublist _)
  have hnone : Underway lo lo none := Nat.le_refl lo
  exact ordered_elementsFrom 0 hnone (h.sublist (hinside.map _))

end SchemaTypes.Sql

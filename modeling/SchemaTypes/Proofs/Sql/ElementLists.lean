import SchemaTypes.Sql.Statement

/-!
# `SchemaTypes.Proofs.Sql.ElementLists`: the elements of a list in parentheses

`elementsFrom` goes through the tokens of a statement with a counter of
open parentheses and brackets. This module describes the same tokens by
their structure: something without a parenthesis, then a parenthesis with
elements between commas, then anything (`ElementList`). An element is
balanced, which `Balanced` says without a counter, and its own commas
stand inside further parentheses or brackets.

`ElementList.elementSpans_eq` shows that the spans are those of the
elements that are not empty, and nothing else. What carries the proof is
that balanced tokens leave the counter where it was (`elementsFrom_append`):
they only lengthen the element that is under way.
-/

set_option autoImplicit false

namespace SchemaTypes.Sql

/-- Whether a token opens a parenthesis or a bracket. -/
def Token.opens (token : Token) : Bool :=
  token.kind == .openParen || token.kind == .openBracket

/-- Whether a token closes a parenthesis or a bracket. -/
def Token.closes (token : Token) : Bool :=
  token.kind == .closeParen || token.kind == .closeBracket

/-- Tokens in which everything that is opened is closed again, nested to
any depth. Without `commas`, a comma stands only inside of something that
was opened. A parenthesis need not be closed by a parenthesis, so two kinds
that overlap are balanced as well. -/
inductive Balanced : Bool → List Token → Prop
  | nil (commas : Bool) : Balanced commas []
  | token {commas : Bool} {token : Token} {rest : List Token} : token.opens = false →
      token.closes = false → (commas = false → token.kind ≠ .comma) → Balanced commas rest →
      Balanced commas (token :: rest)
  | group {commas : Bool} {opening closing : Token} {inner rest : List Token} :
      opening.opens = true → closing.closes = true → Balanced true inner →
      Balanced commas rest → Balanced commas (opening :: (inner ++ closing :: rest))

/-- Tokens with a list of elements in their first parentheses. -/
structure ElementList where
  before : List Token
  opening : Token
  first : List Token
  /-- The other elements, each with the comma in front of it. -/
  others : List (Token × List Token)
  closing : Token
  behind : List Token
  before_kind : ∀ token ∈ before, token.kind ≠ .openParen
  opening_kind : opening.kind = .openParen
  first_balanced : Balanced false first
  comma_kind : ∀ other ∈ others, other.1.kind = .comma
  other_balanced : ∀ other ∈ others, Balanced false other.2
  closing_kind : closing.kind = .closeParen

namespace ElementList

/-- The tokens in order. -/
def tokens (l : ElementList) : List Token :=
  l.before ++ l.opening ::
    (l.first ++ (l.others.flatMap fun other => other.1 :: other.2) ++ l.closing :: l.behind)

/-- The elements, empty ones included. -/
def elements (l : ElementList) : List (List Token) :=
  l.first :: l.others.map Prod.snd

end ElementList

/-- One span for each element that is not empty, from its first token to its
last. -/
def spansOf (elements : List (List Token)) : List Span :=
  (elements.filter fun element => !element.isEmpty).map tokenSpan

/-! ## Balanced tokens -/

/-- The first and the last token of an element that is continued. -/
def continued (current : Option (Token × Token)) (token : Token) : Option (Token × Token) :=
  some ((current.map Prod.fst).getD token, token)

/-- A token that is no comma outside parentheses and does not close the list
continues the element that is under way, by `continued`, and opens or closes
what `nesting` counts. -/
theorem elementsFrom_cons {depth : Int} {token : Token}
    (hends : depth = 0 → token.kind ≠ .comma ∧ token.kind ≠ .closeParen)
    (current : Option (Token × Token)) (rest : List Token) :
    elementsFrom depth current (token :: rest) =
      elementsFrom (nesting depth token) (continued current token) rest := by
  rw [elementsFrom, if_neg fun h => (hends h.1).1 h.2, if_neg fun h => (hends h.1).2 h.2]
  rfl

/-- Behind an opening parenthesis or bracket `nesting` counts one more. -/
theorem nesting_of_opens {token : Token} (h : token.opens = true) (depth : Int) :
    nesting depth token = depth + 1 := by
  unfold Token.opens at h
  unfold nesting
  split <;> simp_all

/-- Behind a closing parenthesis or bracket `nesting` counts one less. -/
theorem nesting_of_closes {token : Token} (h : token.closes = true) (depth : Int) :
    nesting depth token = depth - 1 := by
  unfold Token.closes at h
  unfold nesting
  split <;> simp_all

/-- Any other token leaves `nesting` as it was. -/
theorem nesting_of_plain {token : Token} (hopens : token.opens = false)
    (hcloses : token.closes = false) (depth : Int) : nesting depth token = depth := by
  unfold Token.opens at hopens
  unfold Token.closes at hcloses
  unfold nesting
  split <;> simp_all

/-- A token that opens is neither a comma nor does it close the list, so by
`elementsFrom_cons` it continues an element. -/
theorem Token.ne_of_opens {token : Token} (h : token.opens = true) :
    token.kind ≠ .comma ∧ token.kind ≠ .closeParen := by
  unfold Token.opens at h
  constructor <;> intro hkind <;> simp [hkind] at h

/-- Tokens that are `Balanced` continue the element that is under way and
leave as many parentheses open as there were. Commas among them are passed
over if any are open. -/
theorem elementsFrom_append {commas : Bool} {tokens : List Token} (h : Balanced commas tokens)
    {depth : Int} (hdepth : 0 ≤ depth) (hcommas : commas = true → 0 < depth)
    (current : Option (Token × Token)) (rest : List Token) :
    elementsFrom depth current (tokens ++ rest) =
      elementsFrom depth (tokens.foldl continued current) rest := by
  induction h generalizing depth current rest with
  | nil => rfl
  | @token commas token behind hopens hcloses hcomma _ ih =>
    have hends : depth = 0 → token.kind ≠ .comma ∧ token.kind ≠ .closeParen := by
      intro hzero
      constructor
      · -- With nothing open, commas are not among the tokens.
        refine hcomma (Bool.eq_false_iff.mpr fun htrue => ?_)
        have := hcommas htrue
        omega
      · intro hkind
        simp [Token.closes, hkind] at hcloses
    rw [List.cons_append, elementsFrom_cons hends, nesting_of_plain hopens hcloses,
      ih hdepth hcommas, List.foldl_cons]
  | @group commas opening closing inner behind hopens hcloses _ _ ihInner ihBehind =>
    have hopen : 0 < depth + 1 := by omega
    have hends : depth + 1 = 0 → closing.kind ≠ .comma ∧ closing.kind ≠ .closeParen := by
      intro hzero
      omega
    -- Inside one more is open, and the closing mark takes it away again.
    calc elementsFrom depth current ((opening :: (inner ++ closing :: behind)) ++ rest)
        = elementsFrom (depth + 1) (continued current opening)
            (inner ++ closing :: (behind ++ rest)) := by
          rw [List.cons_append, elementsFrom_cons fun _ => Token.ne_of_opens hopens,
            nesting_of_opens hopens, List.append_assoc, List.cons_append]
      _ = elementsFrom (depth + 1) (inner.foldl continued (continued current opening))
            (closing :: (behind ++ rest)) :=
          ihInner (Int.le_of_lt hopen) (fun _ => hopen) _ _
      _ = elementsFrom depth
            (continued (inner.foldl continued (continued current opening)) closing)
            (behind ++ rest) := by
          rw [elementsFrom_cons hends, nesting_of_closes hcloses, Int.add_sub_cancel]
      _ = elementsFrom depth
            ((opening :: (inner ++ closing :: behind)).foldl continued current) rest := by
          rw [ihBehind hdepth hcommas, List.foldl_cons, List.foldl_append, List.foldl_cons]

/-! ## Lists of elements -/

/-- An element that has started keeps its first token and takes over the
last of the tokens by which it is `continued`. -/
theorem foldl_continued_some (first last : Token) (tokens : List Token) :
    tokens.foldl continued (some (first, last)) = some (first, tokens.getLastD last) := by
  induction tokens generalizing last with
  | nil => rfl
  | cons token tokens ih =>
    rw [List.foldl_cons, List.getLastD_cons, ← ih token]
    rfl

/-- An element has the span of its tokens, if it has any. `continued` keeps
its two ends only, and they are all that `tokenSpan` looks at. -/
theorem complete_foldl_continued (element : List Token) :
    ((element.foldl continued none).map fun ends => ends.1.spanTo ends.2).toList =
      spansOf [element] := by
  cases element with
  | nil => rfl
  | cons token rest =>
    have hfirst : continued none token = some (token, token) := rfl
    have hspans : spansOf [token :: rest] = [tokenSpan (token :: rest)] := rfl
    rw [List.foldl_cons, hfirst, foldl_continued_some, hspans, tokenSpan, List.getLastD_cons]
    rfl

/-- The spans that `spansOf` gives are put together from the front, with no
span for an empty element. -/
theorem spansOf_cons (element : List Token) (elements : List (List Token)) :
    spansOf (element :: elements) = spansOf [element] ++ spansOf elements := by
  unfold spansOf
  rw [← List.singleton_append, List.filter_append, List.map_append]

/-- Elements are read up to the closing parenthesis, and what stands behind
it is not looked at. The induction is on the elements, each of which
`elementsFrom_append` passes over. -/
theorem elementsFrom_elements {first : List Token} (hfirst : Balanced false first)
    {others : List (Token × List Token)} (hcomma : ∀ other ∈ others, other.1.kind = .comma)
    (hothers : ∀ other ∈ others, Balanced false other.2) {closing : Token}
    (hclosing : closing.kind = .closeParen) (behind : List Token) :
    elementsFrom 0 none
        (first ++ (others.flatMap fun other => other.1 :: other.2) ++ closing :: behind) =
      spansOf (first :: others.map Prod.snd) := by
  induction others generalizing first with
  | nil =>
    have hstop : ¬(closing.kind = .comma) := by simp [hclosing]
    rw [List.flatMap_nil, List.append_nil, elementsFrom_append hfirst (Int.le_refl 0) nofun,
      elementsFrom, if_neg fun h => hstop h.2, if_pos ⟨rfl, hclosing⟩, complete_foldl_continued]
    rfl
  | cons other others ih =>
    obtain ⟨hkind, hcomma⟩ := List.forall_mem_cons.mp hcomma
    obtain ⟨hother, hothers⟩ := List.forall_mem_cons.mp hothers
    have hrest := ih hother hcomma hothers
    rw [List.append_assoc] at hrest
    -- The comma ends the first element, and the second one takes its place.
    rw [List.flatMap_cons, List.append_assoc, List.append_assoc,
      elementsFrom_append hfirst (Int.le_refl 0) nofun, List.cons_append, elementsFrom,
      if_pos ⟨rfl, hkind⟩, complete_foldl_continued, hrest, List.map_cons, ← spansOf_cons]

/-- The `elementSpans` of a statement are those of the elements that are not
empty, in order. They do not hang on what stands in front of the list or
behind it. -/
theorem ElementList.elementSpans_eq (l : ElementList) :
    elementSpans l.tokens = spansOf l.elements := by
  have hbefore : ∀ token ∈ l.before, (token.kind != .openParen) = true := by
    intro token htoken
    simpa using l.before_kind token htoken
  unfold elementSpans tokens
  rw [List.dropWhile_append_of_pos hbefore,
    List.dropWhile_cons_of_neg (by simp [l.opening_kind]), List.tail_cons,
    elementsFrom_elements l.first_balanced l.comma_kind l.other_balanced l.closing_kind]
  rfl

/-- A statement with an `ElementList` has tokens: the opening parenthesis is
one. -/
theorem ElementList.tokens_ne_nil (l : ElementList) : l.tokens ≠ [] := by
  unfold tokens
  exact List.append_ne_nil_of_right_ne_nil _ (List.cons_ne_nil _ _)

end SchemaTypes.Sql

import SchemaTypes.Proofs.Sql.Findings
import SchemaTypes.Sql.Grammar.Call
import SchemaTypes.Sql.Grammar.Operand

/-!
# `SchemaTypes.Proofs.Sql.FieldTrees`: the trees of names, literals and calls

Where a table lists the columns of a key, a field is read: a literal, a
call or a name. Whatever stands there, its tree is plain: a name, a
literal, or a form that is kept by its name only (`finds_isPlain_field`).
In particular no key has a direction. Calls are of the last kind alone
(`finds_isOther_call`).

The proofs follow the rules branch by branch. A rule that applies another
one through `run` needs to know only what that one finds.
-/

set_option autoImplicit false

namespace SchemaTypes.Sql

/-- A tree that is kept by the name of its form. -/
def Tree.IsOther : Tree → Prop
  | .other .. => True
  | _ => False

/-- A tree of a name, of a literal, or of a form that is kept by its
name. -/
def Tree.IsPlain : Tree → Prop
  | .identifier _ => True
  | .literal _ => True
  | .other .. => True
  | _ => False

/-- A tree of which only the form is kept, as `IsOther` says, is plain.
Calls and parentheses are of this kind and are read where plain trees are
asked for. -/
theorem Tree.IsOther.isPlain {tree : Tree} (h : tree.IsOther) : tree.IsPlain := by
  cases tree with
  | other => trivial
  | _ => exact h.elim

/-- The fact about the tree in an option in the form in which
`finds_isOther_window` takes it. -/
theorem Tree.isOther_of_some_eq {form name : String} (t : Tree)
    (h : some (Tree.other form name) = some t) : t.IsOther := by
  obtain rfl := Option.some.inj h
  trivial

namespace Grammar

open Parse

/-! ## Names -/

/-- What `parameter` reads is kept by its form, whether a quoted name, a
primary, any other item or nothing follows its sign. -/
theorem finds_isOther_parameter (run : Run) : Finds Tree.IsOther (parameter run) := by
  refine gives_then fun next => ?_
  cases next with
  | none => exact finds_some trivial
  | some item =>
    refine gives_ite (gives_then fun _ => finds_some trivial) (gives_then fun found => ?_)
    cases found with
    | some tree => exact finds_some trivial
    | none => exact gives_then fun _ => gives_ite (finds_some trivial) (finds_some trivial)

/-- A placeholder is a question mark, a parameter
(`finds_isOther_parameter`), or a colon with a name behind it. All of them
are kept by their form only. -/
theorem finds_isOther_placeholder (run : Run) : Finds Tree.IsOther (placeholder run) := by
  refine gives_then fun start => gives_then fun _ => gives_ite (finds_some trivial) ?_
  refine gives_then fun _ => gives_ite (finds_isOther_parameter run) ?_
  refine gives_then fun _ => gives_ite (gives_then fun next => ?_) finds_none
  cases next with
  | none => exact gives_then fun _ => finds_none
  | some item =>
    exact gives_ite (gives_then fun _ => finds_some trivial) (gives_then fun _ => finds_none)

/-- A name in quotation marks is an identifier, and what else is read in its
place is a placeholder, which is plain by `Tree.IsOther.isPlain`. -/
theorem finds_isPlain_quotedName (run : Run) : Finds Tree.IsPlain (quotedName run) := by
  refine gives_then fun next => ?_
  cases next with
  | none => exact finds_none
  | some item =>
    refine gives_ite (gives_then fun _ => finds_some trivial) ?_
    exact (finds_isOther_placeholder run).imp fun _ => Tree.IsOther.isPlain

/-- A name is in quotation marks or a word that `test` admits, and the tree
of either is plain. -/
theorem finds_isPlain_nameOf (run : Run) (any : Bool) (test : Item → Bool) :
    Finds Tree.IsPlain (nameOf run any test) := by
  refine finds_bind (finds_isPlain_quotedName run) (fun _ htree => finds_some htree) ?_
  refine gives_then fun next => ?_
  cases next with
  | none => exact finds_none
  | some item => exact gives_ite (gives_then fun _ => finds_some trivial) finds_none

/-- The tree that `name` reads is plain. It is read for the columns of
foreign keys and, after everything else, for fields. -/
theorem finds_isPlain_name (run : Run) (any : Bool) : Finds Tree.IsPlain (name run any) :=
  finds_isPlain_nameOf run any Item.isNameWord

/-! ## Literals -/

/-- What `parenthesized` reads is kept by its form only, whether a query,
nothing, one expression or several stand in them. -/
theorem gives_isOther_parenthesized (run : Run) : Gives Tree.IsOther (parenthesized run) := by
  unfold parenthesized
  refine gives_then fun query => ?_
  -- The steps after the two choices are the same in all branches.
  extract_lets closing rest
  have hclosing : ∀ tree : Tree, tree.IsOther →
      Gives Tree.IsOther (pure tree >>= closing) :=
    fun _ htree => gives_bind (gives_pure htree) fun _ htree => gives_then fun _ => gives_pure htree
  have hrest : ∀ items, Gives Tree.IsOther (rest items) := by
    intro items
    refine gives_then fun afterComma => gives_then fun closes => ?_
    cases items with
    | nil => exact hclosing _ trivial
    | cons first more =>
      refine gives_ite (hclosing _ trivial) (gives_ite (gives_then fun _ => hclosing _ trivial) ?_)
      exact gives_ite (hclosing _ trivial) (hclosing _ trivial)
  cases query with
  | some tree => exact gives_then hrest
  | none => exact gives_then hrest

/-- A primary is plain: a literal, a star, a word for a value, or something
in parentheses, of which `gives_isOther_parenthesized` says what it is. -/
theorem finds_isPlain_primary (run : Run) : Finds Tree.IsPlain (primary run) := by
  refine gives_then fun next => ?_
  cases next with
  | none => exact finds_none
  | some item =>
    dsimp only
    -- The cases of an item are those of the definition, in its order.
    split
    · refine gives_then fun _ => gives_then fun _ => gives_ite ?_ (finds_some trivial)
      exact gives_then fun _ => finds_some trivial
    · exact gives_then fun _ => finds_some trivial
    · exact gives_then fun _ => finds_some trivial
    · refine gives_then fun _ => gives_ite ?_ finds_none
      exact gives_then fun _ => finds_some trivial
    · refine gives_then fun _ => gives_ite (finds_some trivial) ?_
      exact gives_then fun _ => gives_ite (finds_some trivial) finds_none
    · refine gives_then fun _ => gives_ite ?_ finds_none
      exact gives_then fun _ => gives_then fun _ => gives_then fun _ => finds_some trivial
    · refine gives_then fun _ => gives_bind (gives_isOther_parenthesized run) fun _ htree => ?_
      exact finds_some htree.isPlain
    · exact finds_none

/-! ## Calls -/

/-- Windows, filters and groupings around a call leave it a tree of which
only the form is kept. All three replace the tree they are given, if they
are there, so `htree` is needed for the case that none is. -/
theorem finds_isOther_window (run : Run) {tree : Option Tree}
    (htree : ∀ t, tree = some t → t.IsOther) : Finds Tree.IsOther (window run tree) := by
  unfold window
  refine gives_then fun grouped => ?_
  -- `filtered` is what comes after a grouping, `windows` what comes after a filter.
  extract_lets found windows filtered
  have hwindows : ∀ tree : Option Tree, (∀ t, tree = some t → t.IsOther) →
      Finds Tree.IsOther (windows tree) := by
    intro tree htree
    refine gives_then fun _ => gives_repeating (fun _ _ => ?_) htree
    have hfound : ∀ u, Finds (fun tree => ∀ t, tree = some t → t.IsOther) (found u) :=
      fun _ => finds_some Tree.isOther_of_some_eq
    refine gives_then fun _ => gives_ite (gives_then fun _ => ?_) finds_none
    exact gives_ite (gives_then hfound) (gives_then hfound)
  have hfiltered : ∀ tree : Option Tree, (∀ t, tree = some t → t.IsOther) →
      Finds Tree.IsOther (filtered tree) := by
    intro tree htree
    refine gives_then fun _ => gives_ite ?_ (gives_bind (gives_pure htree) hwindows)
    refine gives_then fun _ => gives_then fun _ => gives_then fun _ => ?_
    exact gives_bind (gives_pure Tree.isOther_of_some_eq) hwindows
  refine gives_ite (gives_then fun _ => ?_) (gives_bind (gives_pure htree) hfiltered)
  exact gives_bind (gives_pure Tree.isOther_of_some_eq) hfiltered

/-- A call without parentheses is kept by its form, one case for each word
that `bareCall?` knows. -/
theorem finds_isOther_bareCall (run : Run) {upper : String} {reading : Parse (Option Tree)}
    (h : bareCall? run upper = some reading) : Finds Tree.IsOther reading := by
  -- One case for each word, and one for all others.
  unfold bareCall? at h
  split at h
  · obtain rfl := Option.some.inj h
    exact gives_then fun _ => finds_some trivial
  · obtain rfl := Option.some.inj h
    refine gives_then fun _ => gives_ite finds_none ?_
    refine gives_then fun _ => gives_then fun _ => gives_then fun _ => gives_then fun _ => ?_
    exact gives_ite (finds_some trivial) (gives_then fun _ => finds_some trivial)
  · obtain rfl := Option.some.inj h
    exact gives_then fun _ => finds_some trivial
  · obtain rfl := Option.some.inj h
    refine gives_then fun _ => gives_ite ?_ finds_none
    exact gives_then fun _ => gives_then fun _ => finds_some trivial
  · obtain rfl := Option.some.inj h
    exact gives_then fun _ => finds_some trivial
  · cases h

/-- A call with its arguments in parentheses, with a query or a list in
them. Both are followed by windows, of which `finds_isOther_window`
speaks. -/
theorem finds_isOther_callArguments (d : Dialect) (run : Run) (item : Item) (anonymous : Bool) :
    Finds Tree.IsOther (callArguments d run item anonymous) := by
  unfold callArguments
  split
  · exact gives_then fun _ => gives_then fun _ => finds_isOther_window run Tree.isOther_of_some_eq
  · refine gives_then fun arguments => gives_ite gives_refuse (gives_then fun _ => ?_)
    refine finds_isOther_window run ?_
    split <;> exact Tree.isOther_of_some_eq

/-- A call that `item` names is kept by its form. It is one of the calls
that need no parentheses, a test on the rows of a query, or a call with
arguments. -/
theorem finds_isOther_callOf (d : Dialect) (run : Run) (item : Item)
    (any bare anonymous : Bool) : Finds Tree.IsOther (callOf d run item any bare anonymous) := by
  unfold callOf
  refine gives_then fun start => ?_
  extract_lets isWord callable tested
  -- `tested` is what comes after the tests, of which one may have been found.
  have htested : ∀ found, Finds Tree.IsOther (tested found) := by
    intro found
    cases found with
    | some tree => exact finds_some trivial
    | none => exact finds_isOther_callArguments d run item anonymous
  split
  case h_1 reading hreading =>
    have hbare : Finds Tree.IsOther reading := by
      split at hreading
      · exact finds_isOther_bareCall run hreading
      · cases hreading
    refine gives_then fun _ => ?_
    refine finds_bind hbare (fun tree htree => ?_) (gives_then fun _ => finds_none)
    refine finds_isOther_window run fun t ht => ?_
    obtain rfl := Option.some.inj ht
    exact htree
  case h_2 =>
    refine gives_then fun _ => gives_ite ?_ ?_
    · refine gives_ite finds_none (gives_then fun afterLike => ?_)
      refine gives_then fun _ => gives_then fun before => gives_then fun _ => ?_
      exact gives_ite (gives_then htested) (gives_then htested)
    · split
      · exact gives_then fun _ => finds_some trivial
      · exact finds_none

/-- A call may stand in braces, which changes nothing about its tree. This
is the first of the three facts that make the grammar `Regular`. -/
theorem finds_isOther_call (d : Dialect) (run : Run) (any bare anonymous : Bool) :
    Finds Tree.IsOther (call d run any bare anonymous) := by
  unfold call
  refine gives_then fun braced => gives_then fun next => ?_
  extract_lets closing
  have hclosing : ∀ found : Option Tree, (∀ t, found = some t → t.IsOther) →
      Finds Tree.IsOther (closing found) := by
    intro found hfound
    exact gives_ite (gives_then fun _ => gives_pure hfound) (gives_pure hfound)
  cases next with
  | some item => exact gives_bind (finds_isOther_callOf d run item any bare anonymous) hclosing
  | none => exact gives_bind finds_none hclosing

/-! ## Fields -/

/-- A field is plain if the calls that `run` reads are. It is a primary, a
call or a name, in this order. -/
theorem finds_isPlain_field {run : Run} (any : Bool)
    (hcall : Finds Tree.IsOther (run (.call any true false))) :
    Finds Tree.IsPlain (field run any) :=
  finds_orElse (finds_isPlain_primary run)
    (finds_orElse (hcall.imp fun _ => Tree.IsOther.isPlain) (finds_isPlain_name run any))

end Grammar

end SchemaTypes.Sql

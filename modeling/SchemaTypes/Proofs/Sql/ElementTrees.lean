import SchemaTypes.Proofs.Declaration.TableElements
import SchemaTypes.Proofs.Sql.FieldTrees
import SchemaTypes.Proofs.Sql.TypeTrees
import SchemaTypes.Sql.Grammar.Table

/-!
# `SchemaTypes.Proofs.Sql.ElementTrees`: the trees of the elements of a table

The elements of a table are columns and constraints. `Tree.IsElement`
says what the trees have to be for every part of them that is looked at
to be there: the type of a column is one, and the columns of a key have
names. `isElement_of_statement` shows it for all elements of all
statements.

Of the rules that the grammar applies to itself only three matter here,
those for calls, fields and types. `Regular` collects what they find, and
`regular_apply` shows it for any number of steps.
-/

set_option autoImplicit false

namespace SchemaTypes.Sql

namespace Tree

/-- A constraint without a name for itself, in which every key has one. -/
def IsConstraint : Tree → Prop
  | .primaryKey keys => ∀ key ∈ keys, key.name? ≠ none
  | .foreignKey keys => ∀ key ∈ keys, key.name? ≠ none
  | .constraint .. => False
  | .columnDef .. => False
  | _ => True

/-- An element of a table of which all parts are there. -/
def IsElement : Tree → Prop
  | .columnDef _ type _ => ∀ t, type = some t → t.IsType
  | .constraint _ parts => ∀ part ∈ parts, part.IsConstraint
  | tree => tree.IsConstraint

/-- A tree that is `IsPlain` has a name, so a key of which all columns are
plain lists nothing without a name. -/
theorem IsPlain.name?_ne_none {tree : Tree} (h : tree.IsPlain) : tree.name? ≠ none := by
  cases tree with
  | identifier => exact nofun
  | literal => exact nofun
  | other => exact nofun
  | _ => exact h.elim

/-- A plain tree is none of the forms that hold keys, parts or a type, so
`IsElement` has nothing to ask of it. -/
theorem IsPlain.isElement {tree : Tree} (h : tree.IsPlain) : tree.IsElement := by
  cases tree with
  | identifier => trivial
  | literal => trivial
  | other => trivial
  | _ => exact h.elim

/-- A constraint that stands on its own is an element. Columns and named
constraints, for which `IsElement` asks more, are no constraints. -/
theorem IsConstraint.isElement {tree : Tree} (h : tree.IsConstraint) : tree.IsElement := by
  cases tree with
  | columnDef => exact h.elim
  | constraint => exact h.elim
  | _ => exact h

/-- A tree of which only the form is kept lists no keys, so `IsConstraint`
has nothing to ask of it. -/
theorem IsOther.isConstraint {tree : Tree} (h : tree.IsOther) : tree.IsConstraint := by
  cases tree with
  | other => trivial
  | _ => exact h.elim

end Tree

namespace Grammar

open Parse

/-- What the rules that matter for the elements of a table find. -/
structure Regular (run : Run) : Prop where
  call : ∀ any bare anonymous, Finds Tree.IsOther (run (.call any bare anonymous))
  field : ∀ any, Finds Tree.IsPlain (run (.field any))
  type : ∀ check schema names, Finds Tree.IsType (run (.type check schema names))

/-- The grammar is regular however many steps it has left. Each rule applies
others with one step less, so this is an induction on the steps; it is the
only one, and all other facts assume that `run` is `Regular`. -/
theorem regular_apply (d : Dialect) (steps : Nat) : Regular (apply d steps) := by
  induction steps with
  -- Without steps left nothing is read, so nothing irregular is found.
  | zero => exact ⟨fun _ _ _ => gives_refuse, fun _ => gives_refuse, fun _ _ _ => gives_refuse⟩
  | succ steps ih =>
    refine ⟨fun any bare anonymous => ?_, fun any => ?_, fun check schema names => ?_⟩
    · exact finds_isOther_call d (apply d steps) any bare anonymous
    · exact finds_isPlain_field any (ih.call any true false)
    · exact finds_isType_typeRule d ih.type check schema names

/-! ## Constraints -/

section
variable (run : Run)

/-- A foreign key lists names, each of which is plain
(`finds_isPlain_name`). The list may be left out where the key stands behind
its column. -/
theorem finds_isConstraint_foreignKey : Finds Tree.IsConstraint (foreignKey run) := by
  unfold foreignKey
  refine gives_then fun _ => ?_
  -- `rest` is what comes after the list of columns.
  extract_lets rest
  have hrest : ∀ keys : List Tree, (∀ key ∈ keys, key.IsPlain) →
      Finds Tree.IsConstraint (rest keys) := by
    intro keys hkeys
    have hend : Finds Tree.IsConstraint (do
        foreignActions
        keyOptions
        return some (.foreignKey keys)) :=
      gives_then fun _ => gives_then fun _ => finds_some fun key hkey =>
        (hkeys key hkey).name?_ne_none
    exact gives_then fun _ => gives_ite (gives_then fun _ => hend) hend
  refine gives_ite (gives_bind (gives_pure fun _ => nofun) hrest) ?_
  exact gives_bind (gives_list (finds_isPlain_name run true)) hrest

/-- What `generated` reads lists no keys in any of its spellings: for the
start or the end of a row, as an identity with the bounds of a sequence, or
by an expression that may be stored. -/
theorem finds_isConstraint_generated : Finds Tree.IsConstraint (generated run) := by
  unfold generated
  refine gives_then fun _ => ?_
  -- The steps that several branches end with are shown once each, the last ones first.
  extract_lets row stored closing rest
  have hrow : ∀ u, Finds Tree.IsConstraint (row u) :=
    fun _ => gives_then fun _ => finds_some trivial
  have hstored : ∀ u, Finds Tree.IsConstraint (stored u) :=
    fun _ => gives_then fun _ => gives_ite (finds_some trivial) (finds_some trivial)
  have hclosing : ∀ u, Finds Tree.IsConstraint (closing u) := fun _ => gives_then hstored
  have hrest : ∀ u, Finds Tree.IsConstraint (rest u) := by
    intro u
    refine gives_then fun _ => gives_then fun _ => gives_ite ?_ ?_
    · exact gives_then fun _ => gives_ite (hrow ()) (gives_then hrow)
    · refine gives_then fun identity => gives_then fun _ => gives_ite ?_ (hstored ())
      refine gives_then fun started => gives_then fun _ => gives_then fun _ => ?_
      extract_lets values
      have hvalues : ∀ u, Finds Tree.IsConstraint (values u) := fun _ =>
        gives_ite (gives_then hclosing)
          (gives_then fun _ => gives_ite (gives_then hclosing) (hclosing ()))
      exact gives_ite (hvalues ()) (gives_then hvalues)
  exact gives_ite (gives_then hrest) (gives_then hrest)

/-- What `counted` reads lists no keys: a column that is counted up, with
the first value and the increment in parentheses, by words, or not at
all. -/
theorem finds_isConstraint_counted : Finds Tree.IsConstraint (counted run) := by
  have hchosen : ∀ (c : Prop) [Decidable c], Finds Tree.IsConstraint
      (pure (some (if c then .identity else .other "autoincrementcolumnconstraint"))) := by
    intro c _
    refine finds_some ?_
    split <;> trivial
  refine gives_then fun _ => gives_ite ?_ (gives_then fun _ => gives_ite ?_ (finds_some trivial))
  · exact gives_then fun values => gives_then fun _ => hchosen _
  · refine gives_then fun start => gives_then fun _ => gives_then fun increment => ?_
    exact gives_then fun _ => hchosen _

/-- A table that this one is like is kept by its form, of which
`IsConstraint` asks nothing. -/
theorem finds_isConstraint_likeTable : Finds Tree.IsConstraint (likeTable run) :=
  gives_then fun _ => gives_then fun _ => finds_some trivial

/-- An index among the elements of a table is kept by its form, of which
`IsConstraint` asks nothing. -/
theorem finds_isConstraint_listedIndex (ofKind : Bool) :
    Finds Tree.IsConstraint (listedIndex run ofKind) := by
  unfold listedIndex
  extract_lets options named
  have hoptions : ∀ u, Finds Tree.IsConstraint (options u) :=
    fun _ => gives_then fun _ => gives_then fun _ => finds_some trivial
  have hnamed : ∀ u, Finds Tree.IsConstraint (named u) := fun _ =>
    gives_then fun _ => gives_then fun _ => gives_ite (gives_then hoptions) (hoptions ())
  exact gives_ite (gives_then hnamed) (hnamed ())

/-- The columns that `uniqueKey` reads are dropped, so it lists no keys. -/
theorem finds_isConstraint_uniqueKey (d : Dialect) : Finds Tree.IsConstraint (uniqueKey d run) := by
  unfold uniqueKey
  refine gives_then fun _ => gives_then fun _ => ?_
  extract_lets ending named
  have hending : ∀ u, Finds Tree.IsConstraint (ending u) :=
    fun _ => gives_then fun _ => gives_then fun _ => finds_some trivial
  have hnamed : ∀ keyName, Finds Tree.IsConstraint (named keyName) := fun _ =>
    gives_then fun _ => gives_then fun _ => gives_then fun _ =>
      gives_ite (gives_then hending) (hending ())
  exact gives_ite (gives_then hnamed) (gives_then hnamed)

end

section
variable (d : Dialect) {run : Run} (hrun : Regular run)
include hrun

/-- A primary key stands behind its column or lists fields, which are plain
by `Regular.field` and have names. -/
theorem finds_isConstraint_primaryKey (inProperties : Bool) :
    Finds Tree.IsConstraint (primaryKey run inProperties) := by
  refine gives_then fun _ => gives_then fun _ => gives_ite ?_ ?_
  · refine gives_bind (gives_list (hrun.field false)) fun keys hkeys => ?_
    refine gives_then fun _ => gives_then fun _ => finds_some fun key hkey => ?_
    exact (hkeys key hkey).name?_ne_none
  · exact gives_then fun _ => finds_some trivial

/-- A constraint by the word that starts it, one case for each word that
`constraintOf` knows. Only primary and foreign keys hold anything that could
lack a name. -/
theorem finds_isConstraint_constraintOf (upper : String) :
    Finds Tree.IsConstraint (constraintOf d run upper) := by
  unfold constraintOf
  extract_lets formed
  have hformed : ∀ form, Finds Tree.IsConstraint (formed form) := fun _ => finds_some trivial
  have hskip : ∀ {α : Type} (x : Parse α) (form : String),
      Finds Tree.IsConstraint (x >>= fun _ => formed form) :=
    fun _ form => gives_then fun _ => hformed form
  split
  -- From `not` to `check`: what is said of single values, and keys.
  · refine gives_then fun _ => gives_ite (finds_some trivial) (gives_then fun _ => ?_)
    exact gives_ite (hformed _) (gives_then fun _ => gives_ite (hformed _) finds_none)
  · exact finds_some trivial
  · exact finds_isConstraint_primaryKey hrun false
  · exact finds_isConstraint_uniqueKey run d
  · exact gives_then fun _ => finds_some trivial
  · refine gives_then fun _ => gives_ite (gives_then fun _ => ?_) finds_none
    exact gives_then fun _ => finds_some trivial
  -- From `references` to `period`: what is said of other tables and of sets of rows.
  · exact hskip _ _
  · exact finds_isConstraint_foreignKey run
  · exact finds_isConstraint_likeTable run
  · exact hskip _ _
  · exact gives_then fun _ => gives_ite (hskip _ _) finds_none
  -- From `collate` on: how values are made, stored and shown.
  · exact hskip _ _
  · exact hskip _ _
  · exact finds_isConstraint_generated run
  · exact finds_isConstraint_counted run
  · exact finds_isConstraint_counted run
  · exact finds_isConstraint_counted run
  · exact hskip _ _
  · exact hskip _ _
  · exact hskip _ _
  · exact hskip _ _
  · exact hskip _ _
  · exact hskip _ _
  · exact hskip _ _
  · exact gives_then fun _ => hskip _ _
  · exact hformed _
  · exact hformed _
  · exact gives_then fun _ => gives_ite (hskip _ _) (hskip _ _)
  · exact hskip _ _
  · exact hskip _ _
  · exact gives_then fun _ => gives_ite (hskip _ _) (hskip _ _)
  · exact hskip _ _
  · exact gives_then fun _ => gives_ite (hskip _ _) finds_none
  · exact gives_then fun _ => gives_ite (hskip _ _) finds_none
  -- The words that start an index only in some dialects.
  · exact gives_ite (finds_isConstraint_listedIndex run true) finds_none
  · exact gives_ite (finds_isConstraint_listedIndex run true) finds_none
  · exact gives_ite (finds_isConstraint_listedIndex run false) finds_none
  · exact gives_ite (finds_isConstraint_listedIndex run false) finds_none
  · exact gives_ite (hformed _) finds_none
  · exact finds_none

/-- What is read as a constraint is one, by the word that it starts with
(`finds_isConstraint_constraintOf`). A word that turns out to start
something else finds nothing. -/
theorem finds_isConstraint_constraint : Finds Tree.IsConstraint (constraint d run) := by
  refine gives_then fun start => gives_then fun next => ?_
  cases next with
  | none => exact finds_none
  | some item =>
    refine gives_ite finds_none (gives_then fun _ => ?_)
    exact finds_bind (finds_isConstraint_constraintOf d hrun item.upper)
      (fun _ htree => finds_some htree) (gives_then fun _ => finds_none)

/-! ## Columns -/

/-- The type that `columnMode` keeps is a type, also where it is said only
after the way in which the column is passed. -/
theorem gives_isType_columnMode {type : Option Tree} (htype : ∀ t, type = some t → t.IsType) :
    Gives (fun found => ∀ t, found.2 = some t → t.IsType) (columnMode run type) := by
  have hkept : ∀ first : List Tree, Gives (fun found => ∀ t, found.2 = some t → t.IsType)
      (pure (first, type)) := fun _ => gives_pure (b := (_, _)) htype
  unfold columnMode
  -- `leads` comes after a first look for `as`, `mode` after one for the other words.
  extract_lets computed mode leads
  have hmode : ∀ led, Gives (fun found => ∀ t, found.2 = some t → t.IsType) (mode led) := by
    intro led
    refine gives_ite ?_ (gives_then fun _ => gives_ite ?_ ?_)
    · exact gives_then fun _ => gives_then fun _ => gives_then fun _ => hkept _
    · refine gives_then fun _ => gives_then fun _ => ?_
      exact gives_bind (hrun.type false false true) fun _ hlate => gives_pure (b := (_, _)) hlate
    · refine gives_then fun _ => gives_then fun _ => gives_ite ?_ (hkept _)
      exact gives_then fun _ => gives_then fun _ => gives_then fun _ => hkept _
  have hleads : ∀ led, Gives (fun found => ∀ t, found.2 = some t → t.IsType) (leads led) :=
    fun _ => gives_ite (gives_then hmode) (gives_then hmode)
  exact gives_ite (gives_then hleads) (gives_then hleads)

/-- A column is an element whatever its constraints are. A plain head is one
by itself (`IsPlain.isElement`). -/
theorem finds_isElement_columnEnd {head : Option Tree} (hhead : ∀ t, head = some t → t.IsPlain) :
    Finds Tree.IsElement (columnEnd d run head) := by
  refine gives_bind (hrun.type false true true) fun type htype => gives_then fun _ => ?_
  refine gives_ite (finds_some nofun) ?_
  refine gives_bind (gives_isType_columnMode hrun htype) ?_
  rintro ⟨first, type⟩ htype
  refine gives_then fun constraints => gives_ite ?_ ?_
  · exact gives_pure fun t ht => (hhead t ht).isElement
  · have hcolumn : ∀ constraints, Finds Tree.IsElement
        (pure (some (.columnDef (head.map columnName) type constraints))) :=
      fun _ => finds_some htype
    exact gives_then fun _ => gives_ite (gives_then fun _ => hcolumn _) (hcolumn _)

/-! ## Elements -/

/-- The parts of a named constraint are constraints, and calls where nothing
else is found. They are gathered in a loop, so the property is one of the
list so far, as `gives_repeating` asks. -/
theorem gives_isConstraint_namedConstraints :
    Gives (fun found => ∀ t ∈ found, t.IsConstraint) (namedConstraints d run) := by
  refine gives_repeating (P := fun found : List Tree => ∀ t ∈ found, t.IsConstraint)
    (fun trees htrees => ?_) (fun _ ht => nomatch ht)
  refine gives_then fun _ => ?_
  extract_lets rest
  -- One more part is added to a list of constraints, or the loop ends.
  have hrest : ∀ stated : Option Tree, (∀ t, stated = some t → t.IsConstraint) →
      Finds (fun found => ∀ t ∈ found, t.IsConstraint) (rest stated) := by
    intro stated hstated
    have hfound : Finds Tree.IsConstraint (orElse (pure stated) (run (.call false true false))) :=
      finds_orElse (gives_pure hstated) ((hrun.call false true false).imp fun _ h => h.isConstraint)
    refine finds_bind hfound (fun tree htree => finds_some fun t ht => ?_) finds_none
    rcases List.mem_append.mp ht with ht | ht
    · exact htrees t ht
    · rw [List.mem_singleton.mp ht]
      exact htree
  refine gives_ite (gives_bind (gives_pure nofun) hrest) ?_
  exact gives_bind (finds_isConstraint_constraint d hrun) hrest

/-- A constraint of a table is an element, with a name as a list of parts
and without one as the part itself, by `IsConstraint.isElement`. -/
theorem finds_isElement_tableConstraint : Finds Tree.IsElement (tableConstraint d run) := by
  refine gives_then fun _ => gives_ite (gives_then fun named => ?_) (gives_then fun _ => ?_)
  · exact gives_bind (gives_isConstraint_namedConstraints d hrun) fun _ hparts => finds_some hparts
  · refine gives_ite ?_ finds_none
    exact (finds_isConstraint_constraint d hrun).imp fun _ h => h.isElement

/-- An element is a constraint of the table
(`finds_isElement_tableConstraint`) or a column with a plain head
(`finds_isElement_columnEnd`). -/
theorem finds_isElement_element : Finds Tree.IsElement (element d run) := by
  refine finds_bind (finds_isElement_tableConstraint d hrun) (fun _ htree => finds_some htree) ?_
  exact gives_bind (hrun.field true) fun _ hhead => finds_isElement_columnEnd d hrun hhead

/-- The elements of a table are read in parentheses, or its name is left as
it is. Either way `finds_isElement_element` is all that is known of them. -/
theorem finds_elements (head : Option Tree) :
    Finds (fun tree => head = some tree ∨
      ∃ trees, tree = .schema head trees ∧ ∀ t ∈ trees, t.IsElement) (elements d run head) := by
  refine gives_then fun isList => gives_then fun _ => gives_ite ?_ (gives_then fun _ => ?_)
  · exact gives_pure fun _ htree => .inl htree
  · refine gives_bind (gives_separated (finds_isElement_element d hrun)) fun trees htrees => ?_
    exact gives_then fun _ => finds_some (.inr ⟨trees, rfl, htrees⟩)

/-- Everything that a table statement lists is an element, also where
`tableStatement` ends before a list. -/
theorem finds_tableStatement :
    Finds (fun tree => ∀ e ∈ Declaration.tableElements (some tree), e.IsElement)
      (tableStatement d run) := by
  refine gives_then fun _ => gives_ite ?_ finds_none
  refine gives_then fun _ => gives_then fun _ => gives_then fun qualified => ?_
  refine gives_then fun _ => gives_then fun _ => ?_
  refine gives_bind (finds_elements d hrun (some qualified.tree)) fun target htarget => ?_
  refine gives_then fun _ => gives_then fun _ => gives_ite (finds_some ?_) finds_none
  intro e he
  cases target with
  | none => nomatch he
  | some target =>
    rcases htarget target rfl with hhead | ⟨trees, rfl, htrees⟩
    · -- The name of a table has no elements.
      obtain rfl := Option.some.inj hhead
      nomatch he
    · exact htrees e he

end

/-- Every element of every statement satisfies `IsElement`, whatever the
tokens are: the grammar builds no list of keys with one that has no name,
and no type that cannot be told. -/
theorem isElement_of_statement (d : Dialect) (tokens : List Token) :
    ∀ e ∈ Declaration.tableElements (statement d tokens), e.IsElement := by
  unfold statement
  extract_lets items
  split
  case h_1 tree place hread =>
    cases tree with
    | none => exact nofun
    | some tree =>
      have hrun := regular_apply d (stepsFor items)
      exact finds_tableStatement d hrun _ _ _ hread tree rfl
  case h_2 => exact nofun

end Grammar

end SchemaTypes.Sql

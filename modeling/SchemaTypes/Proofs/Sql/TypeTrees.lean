import SchemaTypes.Declaration.OfTree
import SchemaTypes.Proofs.Sql.Findings
import SchemaTypes.Proofs.Traversal
import SchemaTypes.Sql.Grammar.Type

/-!
# `SchemaTypes.Proofs.Sql.TypeTrees`: the trees of types

`Declaration.dataType` is defined on all trees and can fail in two ways:
on a type without a name of its own, and on a key column that has nothing
but a direction. The second way is not open to types that the grammar
reads: `finds_isType_typeRule` shows that every tree it finds for a type
fails in the first way or not at all.

What matters is the first argument of an array, since no other argument
of a type is looked at. It is found by the rule for types again, or it is
the type that brackets follow.
-/

set_option autoImplicit false

namespace SchemaTypes.Sql

/-- A tree that denotes a type, although the type may lack a name of its
own. -/
def Tree.IsType (tree : Tree) : Prop :=
  Declaration.dataType tree ≠ .error .unnamed

namespace Tree

/-- A type that cannot be told is a type here: `Declaration.dataType` fails
on it, but not for the lack of a name. -/
theorem isType_untypable : IsType .untypable := nofun

/-- A type that is named by the user is a type: `IsType` excludes nothing
but what cannot be typed, and arrays of it. -/
theorem isType_userDefined (spelling : String) : IsType (.userDefined spelling) := nofun

/-- A tree of which only the form is kept has a name, so it counts as a
type. `finds_isType_typeEnd` needs this where values follow the arguments of
a type. -/
theorem isType_other (form name : String) : IsType (.other form name) := nofun

/-- A built-in type satisfies `IsType` whatever its arguments are, unless it
is an array, of which the first argument is looked at. -/
theorem isType_dataType {name : String} {arguments : List Tree}
    (h : name = "ARRAY" → ∀ t ∈ arguments, t.IsType) : IsType (.dataType name arguments) := by
  unfold IsType
  cases arguments with
  | nil => exact nofun
  | cons first rest =>
    rw [Declaration.dataType]
    split
    case isTrue harray =>
      rw [ne_eq, Proofs.map_eq_error_iff]
      exact h (by simpa using harray) first List.mem_cons_self
    case isFalse => exact nofun

end Tree

namespace Grammar

open Parse

/-- The start of a type: a word or a name without anything that belongs to
it, or a type that is complete. -/
def TypeHead.IsHead : TypeHead → Prop
  | .started (.dataType _ []) => True
  | .started (.userDefined _) => True
  | .started _ => False
  | .complete tree => tree.IsType

/-- A word that `builtinType` knows is the start of a type without
arguments, or it is complete if nothing is kept of it. -/
theorem isHead_builtinType (upper : String) : (builtinType upper).IsHead := by
  unfold builtinType
  split
  · trivial
  · exact Tree.isType_untypable

/-- The arguments of an array, or of the mark for types with nulls, are
types. Nothing is known of the arguments of other types. -/
def HoldTypes (typeName : String) (arguments : List Tree) : Prop :=
  typeName = "ARRAY" ∨ typeName = "NULLABLE" → ∀ t ∈ arguments, t.IsType

/-- The types that hold types are not among the `fieldTypes`, so their
arguments are read by the rule for types. -/
theorem contains_fieldTypes_eq_false {typeName : String}
    (h : typeName = "ARRAY" ∨ typeName = "NULLABLE") : fieldTypes.contains typeName = false := by
  rcases h with rfl | rfl <;> decide

section
variable (d : Dialect) {run : Run}
  (htype : ∀ check schema names, Finds Tree.IsType (run (.type check schema names)))
include htype

/-- A quoted word at the start of a type is read again as SQL. It may spell
a built-in type (`isHead_builtinType`), or a longer type, which the rule for
types reads; otherwise it is the name of a type of the user. -/
theorem finds_isHead_quotedType (item : Item) : Finds TypeHead.IsHead (quotedType d run item) := by
  unfold quotedType
  extract_lets declared
  have hdeclared : Finds TypeHead.IsHead declared :=
    gives_ite (gives_then fun _ => finds_some trivial) finds_none
  split
  · exact hdeclared
  · exact gives_ite (finds_some (isHead_builtinType _)) hdeclared
  · refine gives_ite ?_ hdeclared
    exact finds_bind (gives_aside (htype false true false)) (fun _ htree => finds_some htree)
      gives_refuse

/-- The start of a type is what `TypeHead.IsHead` says, in each of the ways
in which a type can start. -/
theorem finds_isHead_typeHead (names : Bool) : Finds TypeHead.IsHead (typeHead d run names) := by
  refine gives_then fun next => ?_
  cases next with
  | none => exact finds_none
  | some item =>
    refine gives_ite (gives_then fun _ => finds_some (isHead_builtinType _)) ?_
    refine gives_ite finds_none (gives_ite ?_ (gives_ite ?_ (gives_then fun _ => finds_none)))
    · exact gives_ite (gives_then fun _ => gives_then fun _ => finds_some trivial) finds_none
    · refine gives_then fun start => gives_then fun _ => ?_
      exact finds_bind (finds_isHead_quotedType d htype item) (fun _ hhead => finds_some hhead)
        (gives_then fun _ => finds_none)

/-- The arguments of a type in parentheses hold types in the sense of
`HoldTypes`. For an array and for the mark for types with nulls the rule for
types reads them, and of the arguments of other types nothing has to be
shown. -/
theorem finds_holdTypes_typeArguments (typeName : String) (check schema names : Bool) :
    Finds (HoldTypes typeName) (typeArguments d run typeName check schema names) := by
  by_cases hname : typeName = "ARRAY" ∨ typeName = "NULLABLE"
  · -- Of the two types that hold types the arguments are read by the rule for types.
    have hnested : nestedTypes.contains typeName = true := by
      rcases hname with rfl | rfl <;> decide
    unfold typeArguments
    rw [contains_fieldTypes_eq_false hname, hnested]
    refine gives_bind (gives_separated (htype check schema names)) fun arguments harguments => ?_
    have hclosing : Finds (HoldTypes typeName) (do
        if ← mark .closeParen then return some arguments else return none) :=
      gives_then fun _ => gives_ite (finds_some fun _ => harguments) finds_none
    dsimp only
    split
    · exact gives_then fun _ => hclosing
    · exact hclosing
  · exact gives_of_forall fun _ _ _ h => absurd h hname

/-- The arguments of a type in angle brackets, by the same distinction as in
`finds_holdTypes_typeArguments`. The values that may follow them do not
change them. -/
theorem gives_holdTypes_angleArguments (typeName : String) (check schema names : Bool) :
    Gives (fun found => HoldTypes typeName found.1)
      (angleArguments run typeName check schema names) := by
  by_cases hname : typeName = "ARRAY" ∨ typeName = "NULLABLE"
  · unfold angleArguments
    rw [contains_fieldTypes_eq_false hname]
    refine gives_bind (gives_separated (htype check schema names)) fun arguments harguments => ?_
    -- The arguments are kept, whether values follow them or not.
    have hfound : ∀ valued : Bool, Gives (fun found => HoldTypes typeName found.1)
        (pure (arguments, valued)) :=
      fun _ => gives_pure (b := (_, _)) fun _ => harguments
    refine gives_then fun closed => ?_
    extract_lets values
    have hvalues : ∀ u, Gives (fun found => HoldTypes typeName found.1) (values u) := by
      intro u
      refine gives_then fun before => gives_then fun opened => gives_ite ?_ (hfound false)
      refine gives_then fun _ => gives_ite (gives_then fun _ => hfound false) ?_
      exact gives_then fun _ => hfound true
    exact gives_ite (hvalues ()) (gives_then hvalues)
  · exact gives_of_forall fun _ h => absurd h hname

end

/-- The words that `zoneWords` reads make no array of a type: they keep its
name or replace it by one of the times with a zone. -/
theorem gives_ne_array_zoneWords {name : String} (h : name ≠ "ARRAY") :
    Gives (fun found => found.1 ≠ "ARRAY") (zoneWords name) := by
  refine gives_then fun _ => gives_ite (gives_pure ?_) ?_
  · show (if _ then "TIMETZ" else "TIMESTAMPTZ") ≠ "ARRAY"
    split <;> decide
  · refine gives_then fun _ => gives_ite (gives_pure (b := ("TIMESTAMPLTZ", true)) (by decide)) ?_
    exact gives_then fun _ => gives_ite (gives_pure (b := (name, true)) h)
      (gives_pure (b := (name, false)) h)

section
variable (run : Run)

/-- The words that belong to a type change its name only among names of
other types than arrays (`gives_ne_array_zoneWords`). -/
theorem gives_isType_typeWords {head : Tree} {typeName : String} {arguments : List Tree}
    (hhead : head = .dataType typeName [] ∨ ∃ spelling, head = .userDefined spelling)
    (harguments : HoldTypes typeName arguments) :
    Gives (fun found => found.1.IsType) (typeWords run head arguments) := by
  unfold typeWords
  rcases hhead with rfl | ⟨spelling, rfl⟩
  · have hplain : Gives (fun found => found.1.IsType)
        (pure (.dataType typeName arguments, false) : Parse (Tree × Bool)) :=
      gives_pure (b := (_, _)) (Tree.isType_dataType fun harray => harguments (.inl harray))
    dsimp only
    split
    case isTrue hzoned =>
      -- A type with a zone is none that has arguments to look at.
      have hname : typeName ≠ "ARRAY" := by
        rintro rfl
        exact absurd hzoned (by decide)
      refine gives_bind (gives_ne_array_zoneWords hname) fun found hfound => ?_
      exact gives_pure (b := (_, _)) (Tree.isType_dataType fun harray => absurd harray hfound)
    case isFalse =>
      refine gives_ite (gives_then fun _ => gives_ite ?_ hplain) hplain
      have huntypable : Gives (fun found => found.1.IsType)
          (pure (.untypable, false) : Parse (Tree × Bool)) :=
        gives_pure (b := (_, _)) Tree.isType_untypable
      refine gives_then fun _ => gives_then fun _ => gives_ite ?_ huntypable
      exact gives_then fun _ => huntypable
  · exact gives_pure (b := (_, _)) (Tree.isType_userDefined spelling)

/-- The word for numbers without a sign replaces the name of a type by one
of `unsignedTypes`, and none of those is the name of an array. -/
theorem gives_isType_unsignedWord {tree : Tree} (h : tree.IsType) :
    Gives Tree.IsType (unsignedWord tree) := by
  unfold unsignedWord
  split
  · refine gives_then fun _ => gives_ite ?_ (gives_pure h)
    split
    case h_1 unsigned hlookup =>
      have hname : unsigned ≠ "ARRAY" := by
        have hall : ∀ entry ∈ unsignedTypes, entry.2 ≠ "ARRAY" := by decide
        obtain ⟨before, after, hentries, -⟩ := List.lookup_eq_some_iff.mp hlookup
        exact hall (_, unsigned) (hentries ▸ List.mem_append_right before List.mem_cons_self)
      exact gives_pure (Tree.isType_dataType fun harray => absurd harray hname)
    · exact gives_then fun _ => gives_pure h
  · exact gives_pure h

/-- Every level of brackets makes an array of a type. By induction on the
fuel of `arrayLevels`. -/
theorem gives_isType_arrayLevels (schema : Bool) (start : Place) (fuel : Nat) (opened : Bool)
    {tree : Tree} (h : tree.IsType) :
    Gives Tree.IsType (arrayLevels run schema start fuel opened tree) := by
  induction fuel generalizing opened tree with
  | zero => exact gives_pure h
  | succ fuel ih =>
    -- The invariant of the levels: what was read so far is a type, and so is an array of it.
    have harray : Tree.IsType (.dataType "ARRAY" [tree]) := by
      refine Tree.isType_dataType fun _ t ht => ?_
      rw [List.mem_singleton.mp ht]
      exact h
    unfold arrayLevels
    refine gives_then fun afterArray => gives_then fun ended => gives_ite (gives_pure h) ?_
    refine gives_then fun bracket => gives_ite (gives_pure h) ?_
    extract_lets level
    have hlevel : ∀ u, Gives Tree.IsType (level u) := by
      intro u
      refine gives_then fun lengths => gives_ite (gives_then fun _ => gives_pure h) ?_
      exact gives_then fun _ => ih false harray
    exact gives_ite (gives_then fun _ => gives_ite (gives_pure h) (hlevel ())) (hlevel ())

/-- The words and brackets behind a type make lists and arrays of it. A list
is a type whatever it is a list of; for arrays the type they follow is the
first argument, as `gives_isType_arrayLevels` shows. -/
theorem gives_isType_typeLevels (schema : Bool) {tree : Tree} (h : tree.IsType) :
    Gives Tree.IsType (typeLevels run schema tree) := by
  refine gives_bind (gives_repeating (fun element _ => ?_) h) fun tree htree => ?_
  · refine gives_then fun _ => gives_ite (finds_some ?_) finds_none
    exact Tree.isType_dataType fun harray => absurd harray (by decide)
  · refine gives_then fun start => gives_then fun opened => gives_then fun place => ?_
    exact gives_isType_arrayLevels run schema start _ opened htree

/-- A map satisfies `IsType` whatever its keys and values are, since only
the first argument of an array is looked at. -/
theorem finds_isType_mapTypes (start : Place) (check schema names : Bool) :
    Finds Tree.IsType (mapTypes run start check schema names) := by
  have hmap : ∀ arguments, Tree.IsType (.dataType "MAP" arguments) :=
    fun _ => Tree.isType_dataType fun harray => absurd harray (by decide)
  refine gives_then fun keys => gives_then fun _ => gives_ite ?_ (gives_then fun _ => finds_none)
  refine gives_then fun values => gives_then fun _ => gives_ite (finds_some (hmap _)) ?_
  exact gives_then fun _ => finds_none

end

section
variable (d : Dialect) {run : Run}
  (htype : ∀ check schema names, Finds Tree.IsType (run (.type check schema names)))
include htype

/-- What `typeEnd` reads behind the start of a type leads to a type:
arguments in parentheses, arguments in angle brackets, the words that belong
to the type, and levels of arrays. The reading gives up in several places,
and then it finds nothing. -/
theorem finds_isType_typeEnd (start : Place) {head : Tree} (hhead : TypeHead.IsHead (.started head))
    (check schema names : Bool) :
    Finds Tree.IsType (typeEnd d run start head check schema names) := by
  unfold typeEnd
  extract_lets typeName nested giveUp
  have hname : head = .dataType typeName [] ∨ ∃ spelling, head = .userDefined spelling := by
    cases head with
    | dataType name arguments =>
      cases arguments with
      | nil => exact .inl rfl
      | cons => exact hhead.elim
    | userDefined spelling => exact .inr ⟨spelling, rfl⟩
    | _ => exact hhead.elim
  have hgiveUp : Finds Tree.IsType giveUp := gives_then fun _ => finds_none
  have hlevels : ∀ tree : Tree, tree.IsType →
      Finds Tree.IsType (do return some (← typeLevels run schema tree)) :=
    fun _ htree => gives_bind (gives_isType_typeLevels run schema htree) fun _ h => finds_some h
  refine gives_then fun called => ?_
  -- `words` is what comes after the arguments, `rest` what comes after parentheses.
  extract_lets words rest
  have hwords : ∀ found, HoldTypes typeName found.1 → Finds Tree.IsType (words found) := by
    rintro ⟨arguments, valued⟩ harguments
    refine gives_bind (gives_isType_typeWords run hname harguments) ?_
    rintro ⟨tree, settled⟩ htree
    refine gives_then fun quoted => gives_ite hgiveUp ?_
    refine gives_bind (gives_isType_unsignedWord htree) fun tree htree => gives_ite hgiveUp ?_
    exact gives_ite (hlevels _ (Tree.isType_other _ _)) (hlevels tree htree)
  have hrest : ∀ found, (∀ arguments, found = some arguments → HoldTypes typeName arguments) →
      Finds Tree.IsType (rest found) := by
    intro found hfound
    cases found with
    | none => exact hgiveUp
    | some arguments =>
      have harguments := hfound arguments rfl
      have hangled : ∀ angled : Bool, Finds Tree.IsType
          (if angled then angleArguments run typeName check schema names >>= words
          else pure (arguments, false) >>= words) := by
        intro angled
        refine gives_ite (gives_bind ?_ hwords) (gives_bind ?_ hwords)
        · exact gives_holdTypes_angleArguments htype typeName check schema names
        · exact gives_pure (b := (_, _)) harguments
      dsimp only [rest]
      split
      case isTrue hnullable =>
        have hnull : typeName = "NULLABLE" := by
          simp only [Bool.and_eq_true, decide_eq_true_eq] at hnullable
          exact hnullable.1.1
        -- The mark for nulls stands for its first argument.
        intro place tree after hpure t ht
        obtain ⟨rfl, -⟩ := Prod.mk.inj (Except.ok.inj hpure)
        exact harguments (.inr hnull) t (List.mem_of_head? ht)
      case isFalse => exact gives_ite (gives_then hangled) (gives_then hangled)
  refine gives_ite (gives_bind ?_ hrest) (gives_bind ?_ hrest)
  · exact finds_holdTypes_typeArguments d htype typeName check schema names
  · exact finds_some (P := HoldTypes typeName) fun _ => nofun

/-- The rule for types finds types if the types that it applies itself to
are types. The hypothesis is about one step less, so `regular_apply` uses
this as the step of an induction. -/
theorem finds_isType_typeRule (check schema names : Bool) :
    Finds Tree.IsType (type d run check schema names) := by
  refine gives_then fun start => gives_then fun _ => ?_
  refine finds_bind (finds_isHead_typeHead d htype names) (fun head hhead => ?_) finds_none
  cases head with
  | complete tree => exact finds_some hhead
  | started head =>
    refine gives_then fun _ => gives_ite (gives_then fun _ => ?_) ?_
    · exact finds_isType_mapTypes run start check schema names
    · exact finds_isType_typeEnd d htype start hhead check schema names

end

end Grammar

end SchemaTypes.Sql

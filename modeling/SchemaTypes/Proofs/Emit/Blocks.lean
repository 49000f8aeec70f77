import SchemaTypes.Emit.Zod
import SchemaTypes.Proofs.Sorting

/-!
# `SchemaTypes.Proofs.Emit.Blocks`: the blocks of a target and their order

The schemas of all types are blocks with an empty line between them, in
the order of the records. Since sorted records have the enums in front,
`zod_sort_eq_enums_append` gives the text as the blocks of the enums followed
by those of the tables. `enumSchema_declares` shows that the block of an
enum holds the declaration of its constant, so a table that refers to
the constant stands after it.
-/

set_option autoImplicit false

namespace SchemaTypes.Text

/-- The texts that `joinWith` makes are those of `String.intercalate`, whose
lemmas the next ones use. -/
theorem joinWith_eq_intercalate (separator : String) (parts : List String) :
    joinWith separator parts = separator.intercalate parts := by
  apply String.toList_injective
  rw [joinWith, String.toList_ofList, String.toList_intercalate]

/-- Two lists of parts are joined by `joinWith` with one more separator in
the middle, if neither is empty. -/
theorem joinWith_append {separator : String} {front back : List String} (hfront : front ≠ [])
    (hback : back ≠ []) :
    joinWith separator (front ++ back) =
      joinWith separator front ++ separator ++ joinWith separator back := by
  rw [joinWith_eq_intercalate, joinWith_eq_intercalate, joinWith_eq_intercalate,
    String.intercalate_append_of_ne_nil hfront hback]

/-- A single part is joined by `joinWith` without a separator. -/
theorem joinWith_singleton (separator part : String) : joinWith separator [part] = part := by
  rw [joinWith_eq_intercalate, String.intercalate_singleton]

/-- A part in front of others is followed by a separator. This is the case
of `joinWith_append` that inductions need. -/
theorem joinWith_cons (separator part : String) {parts : List String} (hparts : parts ≠ []) :
    joinWith separator (part :: parts) = part ++ separator ++ joinWith separator parts := by
  rw [← List.singleton_append, joinWith_append (List.cons_ne_nil _ _) hparts, joinWith_singleton]

/-- Joined parts start with the first one, whether others follow
(`joinWith_cons`) or not (`joinWith_singleton`). -/
theorem exists_joinWith_cons (separator part : String) (parts : List String) :
    ∃ rest, joinWith separator (part :: parts) = part ++ rest := by
  cases parts with
  | nil => exact ⟨"", by rw [joinWith_singleton, String.append_empty]⟩
  | cons next parts =>
    exact ⟨_, (joinWith_cons separator part (List.cons_ne_nil next parts)).trans
      String.append_assoc⟩

/-- What the last part ends with, the joined parts end with. A text can so
be cut inside its last line (`joinText_concat_append`). -/
theorem joinWith_concat_append (separator : String) (parts : List String) (last back : String) :
    joinWith separator (parts ++ [last ++ back]) =
      joinWith separator (parts ++ [last]) ++ back := by
  cases parts with
  | nil => simp only [List.nil_append, joinWith_singleton]
  | cons part parts =>
    rw [joinWith_append (List.cons_ne_nil _ _) (List.cons_ne_nil _ _),
      joinWith_append (List.cons_ne_nil _ _) (List.cons_ne_nil _ _), joinWith_singleton,
      joinWith_singleton, String.append_assoc, String.append_assoc, String.append_assoc]

end SchemaTypes.Text

namespace SchemaTypes.Emit

/-- Lines in two parts have a line break between the parts, as
`joinWith_append` says of any separator. -/
theorem joinText_append {front back : List String} (hfront : front ≠ []) (hback : back ≠ []) :
    joinText (front ++ back) = joinText front ++ "\n" ++ joinText back :=
  Text.joinWith_append hfront hback

/-- A single line is a text, by `joinWith_singleton`. -/
theorem joinText_singleton (line : String) : joinText [line] = line :=
  Text.joinWith_singleton "\n" line

/-- A line in front of others is followed by a line break, by
`joinWith_cons`. -/
theorem joinText_cons (line : String) {lines : List String} (hlines : lines ≠ []) :
    joinText (line :: lines) = line ++ "\n" ++ joinText lines :=
  Text.joinWith_cons "\n" line hlines

/-- A text of lines starts with the first line, by
`exists_joinWith_cons`. -/
theorem exists_joinText_cons (line : String) (lines : List String) :
    ∃ rest, joinText (line :: lines) = line ++ rest :=
  Text.exists_joinWith_cons "\n" line lines

/-- What the last line ends with, the text ends with, by
`joinWith_concat_append`. -/
theorem joinText_concat_append (lines : List String) (last back : String) :
    joinText (lines ++ [last ++ back]) = joinText (lines ++ [last]) ++ back :=
  Text.joinWith_concat_append "\n" lines last back

/-- The start of the declaration of a schema constant. -/
def schemaDeclaration (typeName : String) : String :=
  "export const " ++ schemaName typeName ++ "="

/-- The block of an enum ends with a line that declares its constant, the
`schemaDeclaration`, after the lines of its comment. -/
theorem enumSchema_declares (r : TypeRecord) :
    ∃ front back, enumSchema r = front ++ "\n" ++ schemaDeclaration r.name ++ back := by
  let comment : List String := ["/**"] ++ ((present? r.typeDef.description).map docLines).toList ++
    [" * Zod schema for the \"" ++ r.typeDef.name ++ "\" union", " */"]
  let schema : String :=
    if r.enumValues.isEmpty then "z.never()"
    else "z.enum([" ++ Text.joinWith "," (r.enumValues.map Json.quote) ++ "])"
  -- The lines are regrouped so that the last one starts with the declaration.
  have hlines : enumSchema r = joinText (comment ++
      [schemaDeclaration r.name ++ (schema ++ describe r.typeDef.description ++ ";")]) := by
    unfold enumSchema
    simp only [comment, schema, schemaDeclaration, TypeRecord.name, String.append_assoc,
      List.append_assoc, List.cons_append, List.nil_append]
  refine ⟨joinText comment, schema ++ describe r.typeDef.description ++ ";", ?_⟩
  rw [hlines, joinText_append (by simp [comment]) (List.cons_ne_nil _ _), joinText_singleton]
  exact String.append_assoc.symm

/-- The schemas of sorted records are the blocks of the enums followed by
those of the tables, because `TypeRecord.sort` puts the enums first. So a
table that names the schema of an enum stands below it. -/
theorem zod_sort_eq_enums_append (records : List TypeRecord) :
    zod (TypeRecord.sort records) =
      joinBlocks
        (((TypeRecord.sort records).filter fun r => r.shape = .enum).map enumSchema ++
          ((TypeRecord.sort records).filter fun r => r.shape ≠ .enum).map objectSchema)
        zodHeader := by
  let block (r : TypeRecord) : String := if r.shape = .enum then enumSchema r else objectSchema r
  have hsplit := TypeRecord.filter_enum_append_of_pairwise (TypeRecord.pairwise_sort records)
  have henums : ((TypeRecord.sort records).filter fun r => r.shape = .enum).map block =
      ((TypeRecord.sort records).filter fun r => r.shape = .enum).map enumSchema := by
    refine List.map_congr_left fun r hr => if_pos ?_
    simpa using (List.mem_filter.mp hr).2
  have htables : ((TypeRecord.sort records).filter fun r => r.shape ≠ .enum).map block =
      ((TypeRecord.sort records).filter fun r => r.shape ≠ .enum).map objectSchema := by
    refine List.map_congr_left fun r hr => if_neg ?_
    simpa using (List.mem_filter.mp hr).2
  -- The writer sorts what it is given, although the records of a model are sorted.
  show joinBlocks ((TypeRecord.sort (TypeRecord.sort records)).map block) zodHeader = _
  rw [TypeRecord.sort_sort, ← henums, ← htables, ← List.map_append, hsplit]

end SchemaTypes.Emit

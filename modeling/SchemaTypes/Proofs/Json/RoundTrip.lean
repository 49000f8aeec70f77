import SchemaTypes.Proofs.Json.Literals
import SchemaTypes.Proofs.Json.Order
import SchemaTypes.Text.Lines

/-!
# `SchemaTypes.Proofs.Json.RoundTrip`: a written value is read back

`readsBack`: the reader inverts the printer on plain values, in both
layouts, at every depth and in front of any text that does not carry the
value on. The induction is over the value; inside an array or an object it
goes along the items or fields, whose text is one separator after the
other. The reader counts its steps, and a value never needs more of them
than its text has characters.

`parse?_pretty` is the case of a whole document. A document has no
carriage returns (`Plain.return_notMem_write`), so it also comes back from
a file as it was stored.
-/

set_option autoImplicit false

namespace SchemaTypes.Json

/-! ### Gaps -/

/-- A gap in front of a text is skipped by `skipGap`, however long it is. -/
theorem skipGap_append {gap : List Char} (hgap : ∀ c ∈ gap, isGap c = true) (s : List Char) :
    skipGap (gap ++ s) = skipGap s :=
  List.dropWhile_append_of_pos hgap

/-- Nothing is skipped by `skipGap` in front of a character that is no
gap. -/
theorem skipGap_cons {c : Char} (hc : isGap c = false) (s : List Char) :
    skipGap (c :: s) = c :: s :=
  List.dropWhile_cons_of_neg (by simp [hc])

/-- What a layout puts between two lines, its `lineBreak`, is a gap. -/
theorem isGap_of_mem_lineBreak {layout : Layout} {depth : Nat} {c : Char}
    (h : c ∈ layout.lineBreak depth) : isGap c = true := by
  cases layout with
  | oneLine => nomatch h
  | indented =>
    rcases List.mem_cons.mp h with rfl | hblank
    · rfl
    · rw [List.eq_of_mem_replicate hblank]
      rfl

/-- The `separator` of a layout is a comma with a gap behind it, in either
layout. -/
theorem exists_separator_eq (layout : Layout) (depth : Nat) :
    ∃ gap, layout.separator depth = ',' :: gap ∧ ∀ c ∈ gap, isGap c = true := by
  cases layout with
  | oneLine => exact ⟨[' '], rfl, by simp [isGap]⟩
  | indented => exact ⟨_, rfl, fun c => isGap_of_mem_lineBreak⟩

/-- A closing bracket or a comma ends a value also behind a gap, so what is
written behind a value is always `Delimited`. -/
theorem delimited_gap_append {gap : List Char} (hgap : ∀ c ∈ gap, isGap c = true) {c : Char}
    (hc : isDelimiter c = true) (rest : List Char) : Delimited (gap ++ c :: rest) := by
  cases gap with
  | nil => exact delimited_cons hc rest
  | cons d gap =>
    refine delimited_cons ?_ _
    simp [isDelimiter, hgap d List.mem_cons_self]

/-- A written value starts with a character that is neither a gap nor the
end of an array. So nothing is skipped in front of it (`skipGap_cons`), and
an array that holds it is not taken for an empty one. -/
theorem exists_write_eq_cons {value : Json} (h : Plain value) (layout : Layout) (depth : Nat) :
    ∃ c s, write layout depth value = c :: s ∧ isGap c = false ∧ c ≠ ']' := by
  cases h with
  | null => exact ⟨'n', _, rfl, rfl, by decide⟩
  | bool b => cases b <;> exact ⟨_, _, rfl, rfl, by decide⟩
  | str s => exact ⟨'"', _, rfl, rfl, by decide⟩
  | int n =>
    cases n with
    | negSucc n => exact ⟨'-', _, rfl, rfl, by decide⟩
    | ofNat n =>
      obtain ⟨c, digits, hdigits, hc, -⟩ := exists_toDigits_eq_cons n
      -- A digit is neither a gap nor a bracket, as both end a number.
      have hdelimiter := isDelimiter_of_isDigit hc
      simp only [isDelimiter, Bool.or_eq_false_iff, beq_eq_false_iff_ne] at hdelimiter
      exact ⟨c, digits, hdigits, hdelimiter.2, hdelimiter.1.1.2⟩
  | @arr items hitems => cases items <;> exact ⟨'[', _, rfl, rfl, by decide⟩
  | @obj fields honce hfields => cases fields <;> exact ⟨'{', _, rfl, rfl, by decide⟩

/-! ### Values -/

/-- A written value is read back in front of any text that does not carry
it on. -/
def ReadsBack (layout : Layout) (value : Json) : Prop :=
  ∀ (depth steps : Nat) (rest : List Char), Delimited rest →
    (write layout depth value).length ≤ steps →
    readValue steps (write layout depth value ++ rest) = some (value, rest)

section Parts

variable {layout : Layout} (depth : Nat) {gap : List Char} (hgap : ∀ c ∈ gap, isGap c = true)

include hgap

/-- The items of an array are read back by `readItems` up to its end. Each
of them uses up one step, and its separator or the bracket pays for it. This
is why the bound on the steps is the length of the text. -/
theorem readItems_write (item : Json) (items : List Json)
    (hitems : ∀ x ∈ item :: items, Plain x ∧ ReadsBack layout x) (steps : Nat) (rest : List Char)
    (hsteps : (write layout depth item ++ writeItems layout depth items).length < steps) :
    readItems steps (write layout depth item ++
      (writeItems layout depth items ++ (gap ++ ']' :: rest))) = some (item :: items, rest) := by
  induction items generalizing item steps with
  | nil =>
    cases steps with
    | zero => omega
    | succ steps =>
      rw [writeItems, List.append_nil] at hsteps
      have hread := (hitems item List.mem_cons_self).2 depth steps (gap ++ ']' :: rest)
        (delimited_gap_append hgap rfl rest) (by omega)
      rw [writeItems, List.nil_append, readItems, hread]
      simp only [Option.bind_eq_bind, Option.bind_some, skipGap_append hgap,
        skipGap_cons (c := ']') rfl]
      rfl
  | cons next items ih =>
    cases steps with
    | zero => omega
    | succ steps =>
      obtain ⟨blank, hseparator, hblank⟩ := exists_separator_eq layout depth
      obtain ⟨c, s, hwrite, hc, -⟩ :=
        exists_write_eq_cons (hitems next (by simp)).1 layout depth
      rw [writeItems, hseparator] at hsteps ⊢
      simp only [List.cons_append, List.append_assoc, List.length_append, List.length_cons]
        at hsteps ⊢
      have hread := (hitems item List.mem_cons_self).2 depth steps
      -- The comma behind the item pays for the step that reads it.
      have hrest := ih next (fun x hx => hitems x (List.mem_cons_of_mem _ hx)) steps
        (by simp; omega)
      rw [readItems, hread _ (delimited_cons rfl _) (by omega)]
      simp only [Option.bind_eq_bind, Option.bind_some, skipGap_cons (c := ',') rfl,
        skipGap_append hblank]
      rw [hwrite, List.cons_append] at hrest ⊢
      rw [skipGap_cons hc, hrest]
      rfl

omit hgap in
/-- One field is read and set, and what follows it decides how to go on. The
induction of `readFields_write` has this for its step. -/
theorem readFields_field {key : String} {value : Json} (hplain : Plain value)
    (hvalue : ReadsBack layout value) {steps : Nat}
    (hsteps : (write layout depth value).length ≤ steps) {behind : List Char}
    (hbehind : Delimited behind) (before : List (String × Json)) :
    readFields (steps + 1) before (literal key.toList ++ ':' :: ' ' ::
      (write layout depth value ++ behind)) =
      match skipGap behind with
      | '}' :: rest => some (setField key value before, rest)
      | ',' :: rest => readFields steps (setField key value before) (skipGap rest)
      | _ => none := by
  obtain ⟨c, s, hwrite, hc, -⟩ := exists_write_eq_cons hplain layout depth
  have hread := hvalue depth steps behind hbehind hsteps
  have hskip : skipGap (' ' :: (write layout depth value ++ behind)) =
      write layout depth value ++ behind := by
    rw [hwrite, List.cons_append, ← List.singleton_append, skipGap_append (by simp [isGap]),
      skipGap_cons hc]
  rw [literal, List.cons_append, List.cons_append, List.append_assoc, List.singleton_append,
    readFields, readString_literal]
  simp only [Option.bind_eq_bind, Option.bind_some, skipGap_cons (c := ':') rfl, hskip, hread]
  rfl

/-- The fields of an object are read back up to its end, behind those that
were read before. The names differ, so setting a field appends it. The steps
are paid for as in `readItems_write`. -/
theorem readFields_write (key : String) (value : Json) (fields : List (String × Json))
    (hfields : ∀ field ∈ (key, value) :: fields, Plain field.2 ∧ ReadsBack layout field.2)
    (before : List (String × Json)) (honce : NamedOnce (before ++ (key, value) :: fields))
    (steps : Nat) (rest : List Char)
    (hsteps : (write layout depth value ++ writeFields layout depth fields).length < steps) :
    readFields steps before (literal key.toList ++ ':' :: ' ' :: (write layout depth value ++
      (writeFields layout depth fields ++ (gap ++ '}' :: rest)))) =
      some (before ++ (key, value) :: fields, rest) := by
  induction fields generalizing key value before steps with
  | nil =>
    cases steps with
    | zero => omega
    | succ steps =>
      have hplain : Plain value := (hfields _ List.mem_cons_self).1
      have hvalue : ReadsBack layout value := (hfields _ List.mem_cons_self).2
      rw [writeFields, List.append_nil] at hsteps
      rw [writeFields, List.nil_append,
        readFields_field depth hplain hvalue (Nat.le_of_lt_succ hsteps)
          (delimited_gap_append hgap rfl rest),
        skipGap_append hgap, skipGap_cons rfl, setField_of_notMem honce.notMem_of_append]
      rfl
  | cons field fields ih =>
    obtain ⟨next, inner⟩ := field
    cases steps with
    | zero => omega
    | succ steps =>
      have hplain : Plain value := (hfields _ List.mem_cons_self).1
      have hvalue : ReadsBack layout value := (hfields _ List.mem_cons_self).2
      obtain ⟨blank, hseparator, hblank⟩ := exists_separator_eq layout depth
      rw [writeFields, hseparator] at hsteps ⊢
      simp only [List.cons_append, List.append_assoc, List.length_append, List.length_cons]
        at hsteps ⊢
      -- The field that was read joins those before, where no later field has its name.
      have hrest := ih next inner
        (fun field hfield => hfields field (List.mem_cons_of_mem _ hfield))
        (before ++ [(key, value)]) (by rwa [List.append_assoc]) steps (by simp; omega)
      rw [readFields_field depth hplain hvalue (by omega) (delimited_cons rfl _),
        skipGap_cons rfl, setField_of_notMem honce.notMem_of_append]
      show readFields steps _ (skipGap (blank ++ _)) = _
      rw [skipGap_append hblank]
      rw [List.append_assoc] at hrest
      exact hrest

end Parts

/-- An integer is read back by `readScalar_integerText`. It starts with a
digit or a sign, which leads the reader past strings, arrays and objects. -/
theorem readsBack_int (layout : Layout) (n : Int) : ReadsBack layout (.int n) := by
  intro depth steps rest hrest hsteps
  have hread := readScalar_integerText n hrest
  obtain ⟨c, s, htext, hc⟩ := exists_integerText_eq_cons n
  -- The first character is none that starts a string, an array or an object.
  have hne : ∀ d : Char, d.isDigit = false → d ≠ '-' → c ≠ d := by
    rintro d hdigit hminus rfl
    rcases hc with hc | hc
    · exact ne_of_kind hc hdigit rfl
    · exact hminus hc
  rw [write, htext] at hsteps ⊢
  rw [htext] at hread
  cases steps with
  | zero => nomatch hsteps
  | succ steps =>
    rw [List.cons_append, readValue]
    · exact hread
    · rintro _ heq
      exact hne '"' rfl (by decide) (List.cons.inj heq).1
    · rintro _ heq
      exact hne '[' rfl (by decide) (List.cons.inj heq).1
    · rintro _ heq
      exact hne '{' rfl (by decide) (List.cons.inj heq).1

/-- A text is read back from its literal, by `readString_literal`. -/
theorem readsBack_str (layout : Layout) (s : String) : ReadsBack layout (.str s) := by
  intro depth steps rest hrest hsteps
  cases steps with
  | zero => nomatch hsteps
  | succ steps =>
    rw [write, literal, List.cons_append, List.cons_append, List.append_assoc,
      List.singleton_append, readValue, readString_literal]
    rfl

/-- An array is read back if its items are, by `readItems_write`. It is
empty exactly if the closing bracket follows the opening one. -/
theorem readsBack_arr {layout : Layout} {items : List Json}
    (hitems : ∀ item ∈ items, Plain item ∧ ReadsBack layout item) :
    ReadsBack layout (.arr items) := by
  intro depth steps rest hrest hsteps
  have hgap : ∀ c ∈ layout.lineBreak depth, isGap c = true := fun c => isGap_of_mem_lineBreak
  cases items with
  | nil =>
    cases steps with
    | zero => nomatch hsteps
    | succ steps => rfl
  | cons item items =>
    obtain ⟨c, s, hwrite, hc, hbracket⟩ :=
      exists_write_eq_cons (hitems item List.mem_cons_self).1 layout (depth + 1)
    cases steps with
    | zero => nomatch hsteps
    | succ steps =>
      rw [write] at hsteps ⊢
      simp only [List.cons_append, List.append_assoc, List.length_cons, List.length_append,
        List.length_nil, List.nil_append] at hsteps ⊢
      have hread := readItems_write (depth + 1) hgap item items hitems steps rest
        (by rw [List.length_append]; omega)
      rw [hwrite, List.cons_append] at hread
      rw [readValue, skipGap_append fun c => isGap_of_mem_lineBreak, hwrite, List.cons_append,
        skipGap_cons hc]
      -- The first item does not start like the end of the array, so the array is not empty.
      split
      next heq => exact absurd (List.cons.inj heq).1 hbracket
      next =>
        rw [hread]
        rfl

/-- An object is read back if its values are and its names stand once, by
`readFields_write`. Of a name that stood twice the reader would keep one
field. -/
theorem readsBack_obj {layout : Layout} {fields : List (String × Json)} (honce : NamedOnce fields)
    (hfields : ∀ field ∈ fields, Plain field.2 ∧ ReadsBack layout field.2) :
    ReadsBack layout (.obj fields) := by
  intro depth steps rest hrest hsteps
  have hgap : ∀ c ∈ layout.lineBreak depth, isGap c = true := fun c => isGap_of_mem_lineBreak
  cases fields with
  | nil =>
    cases steps with
    | zero => nomatch hsteps
    | succ steps => rfl
  | cons field fields =>
    obtain ⟨key, value⟩ := field
    cases steps with
    | zero => nomatch hsteps
    | succ steps =>
      rw [write] at hsteps ⊢
      simp only [List.cons_append, List.append_assoc, List.length_cons, List.length_append,
        List.length_nil, List.nil_append] at hsteps ⊢
      -- The reader has used one step for the opening brace.
      have hread := readFields_write (depth + 1) hgap key value fields hfields [] honce steps rest
        (by rw [List.length_append]; omega)
      rw [readValue, skipGap_append fun c => isGap_of_mem_lineBreak]
      rw [literal, List.cons_append, List.cons_append] at hread ⊢
      rw [skipGap_cons rfl]
      split
      next heq => exact absurd (List.cons.inj heq).1 (by decide)
      next =>
        rw [hread]
        rfl

/-- **A plain value is read back as it was written**, in front of any text
that does not carry it on. By induction on the value, with one lemma for
each form, such as `readsBack_arr`. -/
theorem readsBack {value : Json} (h : Plain value) (layout : Layout) : ReadsBack layout value := by
  induction h with
  | null =>
    -- A step is left, because the text is not empty.
    intro depth steps rest hrest hsteps
    cases steps with
    | zero => nomatch hsteps
    | succ steps => rfl
  | bool b =>
    intro depth steps rest hrest hsteps
    cases steps with
    | zero => cases b <;> nomatch hsteps
    | succ steps => cases b <;> rfl
  | int n => exact readsBack_int layout n
  | str s => exact readsBack_str layout s
  | arr hitems ih => exact readsBack_arr fun item hitem => ⟨hitems item hitem, ih item hitem⟩
  | obj honce hfields ih =>
    exact readsBack_obj honce fun field hfield => ⟨hfields field hfield, ih field hfield⟩

/-- A plain value is the one that its document denotes. The number of steps
that `parse?` allows itself is enough, as it is more than the length of the
text. -/
theorem parse?_pretty {value : Json} (h : Plain value) :
    parse? (value.pretty ++ "\n") = some value := by
  obtain ⟨c, s, hwrite, hc, -⟩ := exists_write_eq_cons h .indented 0
  have htext : (value.pretty ++ "\n").toList = write .indented 0 value ++ ['\n'] := by
    rw [String.toList_append, pretty, String.toList_ofList]
    rfl
  have hread := readsBack h .indented 0 (2 * (write .indented 0 value ++ ['\n']).length + 2) ['\n']
    (delimited_cons rfl []) (by simp; omega)
  have hskip : skipGap (write .indented 0 value ++ ['\n']) = write .indented 0 value ++ ['\n'] := by
    rw [hwrite, List.cons_append, skipGap_cons hc]
  simp only [parse?, htext, hskip, hread]
  rfl

/-! ### Line ends -/

/-- No layout puts a carriage return between two lines: its `lineBreak` is a
newline and blanks, or nothing. -/
theorem return_notMem_lineBreak (layout : Layout) (depth : Nat) :
    '\r' ∉ layout.lineBreak depth := by
  cases layout <;> simp [Layout.lineBreak]

/-- No separator has a carriage return, being a comma and at most a line
break (`return_notMem_lineBreak`). -/
theorem return_notMem_separator (layout : Layout) (depth : Nat) :
    '\r' ∉ layout.separator depth := by
  cases layout <;> simp [Layout.separator, return_notMem_lineBreak]

/-- A written value has no carriage return, so a file that holds it is read
as it is by `unifyNewlines_eq_self`. -/
theorem Plain.return_notMem_write {value : Json} (h : Plain value) (layout : Layout) (depth : Nat) :
    '\r' ∉ write layout depth value := by
  induction h generalizing depth with
  | null =>
    show '\r' ∉ "null".toList
    decide
  | bool b =>
    show '\r' ∉ (if b then "true" else "false").toList
    cases b <;> decide
  | int n => exact return_notMem_integerText n
  | str s => exact return_notMem_literal s.toList
  | @arr items hitems ih =>
    -- The later items are written by a recursion of their own, which may start anywhere in
    -- the list.
    have hrest : ∀ rest depth, (∀ item ∈ rest, item ∈ items) →
        '\r' ∉ writeItems layout depth rest := by
      intro rest depth hsub
      induction rest with
      | nil => simp [writeItems]
      | cons item rest ihrest =>
        simp only [List.forall_mem_cons] at hsub
        simp [writeItems, return_notMem_separator, ih item hsub.1, ihrest hsub.2]
    cases items with
    | nil => simp [write]
    | cons item items =>
      simp [write, return_notMem_lineBreak, ih item List.mem_cons_self,
        hrest items (depth + 1) fun x hx => List.mem_cons_of_mem _ hx]
  | @obj fields honce hfields ih =>
    have hrest : ∀ rest depth, (∀ field ∈ rest, field ∈ fields) →
        '\r' ∉ writeFields layout depth rest := by
      intro rest depth hsub
      induction rest with
      | nil => simp [writeFields]
      | cons field rest ihrest =>
        simp only [List.forall_mem_cons] at hsub
        simp [writeFields, return_notMem_separator, return_notMem_literal, ih field hsub.1,
          ihrest hsub.2]
    cases fields with
    | nil => simp [write]
    | cons field fields =>
      simp [write, return_notMem_lineBreak, return_notMem_literal, ih field List.mem_cons_self,
        hrest fields (depth + 1) fun x hx => List.mem_cons_of_mem _ hx]

/-- Line ends are left alone by `Text.unifyNewlines` in a text without
carriage returns, since only those are replaced. -/
theorem unifyNewlines_eq_self {s : List Char} (h : '\r' ∉ s) : Text.unifyNewlines s = s := by
  induction s with
  | nil => rfl
  | cons c s ih =>
    rw [List.mem_cons, not_or] at h
    rw [Text.unifyNewlines, ih h.2, if_neg (by simpa using Ne.symm h.1)]
    rintro _ hc
    exact absurd hc.symm h.1

end SchemaTypes.Json
